import FlowEnrichment.Address

/-!
# Groups of an address

An address is made up again of its eight groups, and an IPv4 address of its four parts. The
groups of a mapped form are five zeros, the mark of the block and the parts in pairs.
-/
namespace FlowEnrichment

namespace Ipv4

/-- A part is a byte. -/
theorem part_lt (address : Ipv4) (index : Nat) : address.part index < 256 :=
  BitVec.isLt _

/-- An address is made up of its parts. -/
theorem ofParts_part (address : Ipv4) :
    ofParts (UInt8.ofNat (address.part 0)) (UInt8.ofNat (address.part 1))
      (UInt8.ofNat (address.part 2)) (UInt8.ofNat (address.part 3)) = address := by
  have byte (index : Nat) : (UInt8.ofNat (address.part index)).toBitVec =
      address.bits.extractLsb' (24 - 8 * index) 8 := by
    rw [part, UInt8.toBitVec_ofNat', BitVec.ofNat_toNat, BitVec.setWidth_eq]
  have front : address.bits.extractLsb' 24 8 ++ address.bits.extractLsb' 16 8 =
      address.bits.extractLsb' 16 16 := BitVec.extractLsb'_append_extractLsb'_eq_extractLsb' rfl
  have middle : address.bits.extractLsb' 16 16 ++ address.bits.extractLsb' 8 8 =
      address.bits.extractLsb' 8 24 := BitVec.extractLsb'_append_extractLsb'_eq_extractLsb' rfl
  have whole : address.bits.extractLsb' 8 24 ++ address.bits.extractLsb' 0 8 =
      address.bits.extractLsb' 0 32 := BitVec.extractLsb'_append_extractLsb'_eq_extractLsb' rfl
  rw [ofParts, byte, byte, byte, byte, front, middle, whole, BitVec.extractLsb'_eq_self]

end Ipv4

namespace Address

/-- There are eight groups. -/
theorem length_groups (address : Address) : address.groups.length = 8 := by
  rw [groups, List.length_map, List.length_range]

/-- A group has sixteen bits. -/
theorem group_lt (address : Address) (index : Nat) : address.group index < 65536 :=
  BitVec.isLt _

/-- Every group has sixteen bits. -/
theorem lt_of_mem_groups {address : Address} {group : Nat} (member : group ∈ address.groups) :
    group < 65536 := by
  obtain ⟨index, -, rfl⟩ := List.mem_map.1 member
  exact address.group_lt index

/-- The group that follows the first ones of an address is appended to them. -/
theorem shift_group (address : Address) {index : Nat} (inside : index < 8) :
    (address.bits >>> (128 - 16 * index)) <<< 16 |||
        BitVec.ofNat 128 (address.group index % 65536) =
      address.bits >>> (128 - 16 * (index + 1)) := by
  apply BitVec.eq_of_getLsbD_eq
  intro i bound
  rw [Nat.mod_eq_of_lt (address.group_lt index), group]
  simp only [BitVec.getLsbD_or, BitVec.getLsbD_shiftLeft, BitVec.getLsbD_ushiftRight,
    BitVec.getLsbD_ofNat, BitVec.testBit_toNat, BitVec.getLsbD_extractLsb', bound, decide_true,
    Bool.true_and]
  by_cases low : i < 16
  · have position : 112 - 16 * index + i = 128 - 16 * (index + 1) + i := by omega
    simp only [low, decide_true, Bool.not_true, Bool.false_and, Bool.false_or, Bool.true_and,
      position]
  · have position : 128 - 16 * index + (i - 16) = 128 - 16 * (index + 1) + i := by omega
    simp only [low, decide_false, Bool.not_false, Bool.true_and, Bool.false_and, Bool.or_false,
      position]

/-- An address is made up of its groups. -/
theorem ofGroups_groups (address : Address) : ofGroups address.groups = address := by
  have taken (count : Nat) (inside : count ≤ 8) :
      (List.range count).foldl (fun (bits : BitVec 128) index =>
        bits <<< 16 ||| BitVec.ofNat 128 (address.groups.getD index 0 % 65536)) 0 =
      address.bits >>> (128 - 16 * count) := by
    induction count with
    | zero =>
      apply BitVec.eq_of_getLsbD_eq
      intro i bound
      simp
    | succ count ih =>
      have group : address.groups.getD count 0 = address.group count := by
        simp [groups, show count < 8 by omega]
      rw [List.range_succ, List.foldl_append, ih (by omega), List.foldl_cons, List.foldl_nil,
        group, shift_group address (by omega)]
  rw [ofGroups, taken 8 (Nat.le_refl 8)]
  rfl

/-- Bits inside a part of a vector are bits of the vector. -/
theorem extractLsb'_inside {width : Nat} (bits : BitVec width) {start length inner count : Nat}
    (inside : inner + count ≤ length) :
    (bits.extractLsb' start length).extractLsb' inner count =
      bits.extractLsb' (start + inner) count := by
  apply BitVec.eq_of_getLsbD_eq
  intro i bound
  have below : inner + i < length := by omega
  simp only [BitVec.getLsbD_extractLsb', bound, below, decide_true, Bool.true_and, Nat.add_assoc]

/-- Two parts of an IPv4 address make up sixteen of its bits. -/
theorem part_pair (v4 : Ipv4) (index : Nat) (inside : index < 2) :
    v4.part (2 * index) * 256 + v4.part (2 * index + 1) =
      (v4.bits.extractLsb' (16 - 16 * index) 16).toNat := by
  have high : 24 - 8 * (2 * index) = (16 - 16 * index) + 8 := by omega
  have low : 24 - 8 * (2 * index + 1) = 16 - 16 * index := by omega
  rw [Ipv4.part, Ipv4.part, high, low, BitVec.extractLsb'_toNat, BitVec.extractLsb'_toNat,
    BitVec.extractLsb'_toNat, Nat.shiftRight_add, Nat.shiftRight_eq_div_pow _ 8]
  generalize v4.bits.toNat >>> (16 - 16 * index) = n
  omega

/-- The groups of a mapped form end in the parts of its IPv4 address, two in each. -/
theorem groups_of_unmapped? {address : Address} {v4 : Ipv4}
    (mapped : address.unmapped? = some v4) :
    address.groups = [0, 0, 0, 0, 0, 0xffff,
      v4.part 0 * 256 + v4.part 1, v4.part 2 * 256 + v4.part 3] := by
  unfold unmapped? at mapped
  split at mapped
  case isFalse => cases mapped
  case isTrue block =>
    cases mapped
    have front (index : Nat) (inside : index < 6) : address.group index =
        (((0 : BitVec 80) ++ BitVec.allOnes 16).extractLsb' (80 - 16 * index) 16).toNat := by
      have position : 112 - 16 * index = 32 + (80 - 16 * index) := by omega
      rw [← block, extractLsb'_inside _ (by omega), group, position]
    have back (index : Nat) (inside : index < 2) : address.group (index + 6) =
        ((address.bits.extractLsb' 0 32).extractLsb' (16 - 16 * index) 16).toNat := by
      have position : 112 - 16 * (index + 6) = 0 + (16 - 16 * index) := by omega
      rw [extractLsb'_inside _ (by omega), group, position]
    have first := part_pair ⟨address.bits.extractLsb' 0 32⟩ 0 (by decide)
    have second := part_pair ⟨address.bits.extractLsb' 0 32⟩ 1 (by decide)
    rw [← back 0 (by decide)] at first
    rw [← back 1 (by decide)] at second
    have list : address.groups = [address.group 0, address.group 1, address.group 2,
      address.group 3, address.group 4, address.group 5, address.group 6,
      address.group 7] := rfl
    rw [first, second, list, front 0 (by decide), front 1 (by decide), front 2 (by decide),
      front 3 (by decide), front 4 (by decide), front 5 (by decide)]
    rfl

end Address

end FlowEnrichment

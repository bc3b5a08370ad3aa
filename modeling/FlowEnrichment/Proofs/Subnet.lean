import FlowEnrichment.Subnet
import Mathlib.Data.Set.Basic

/-!
# Subnets as sets of addresses

An address belongs to a subnet if it agrees with the network address on as many first bits, in
the exporter space, as the rank of the subnet says. So of two subnets that have an address in
common one is part of the other: the higher the rank the smaller the set.
-/
namespace FlowEnrichment

/-! ## Blocks -/

/-- The first bits are ones and the others zeros. -/
theorem getMsbD_leadingOnes {width length : Nat} (le : length ≤ width) (i : Nat) :
    (leadingOnes width length).getMsbD i = decide (i < length) := by
  rw [leadingOnes, BitVec.getMsbD_shiftLeft, BitVec.getMsbD_allOnes]
  exact decide_eq_decide.2 (by omega)

/-- A word belongs to a block if it agrees with the network on the common bits. -/
theorem Block.contains_iff {width : Nat} (block : Block width) (word : BitVec width) :
    block.contains word = true ↔
      ∀ i < block.length, word.getMsbD i = block.network.getMsbD i := by
  have masked (x : BitVec width) (i : Nat) : (x &&& leadingOnes width block.length).getMsbD i =
      (x.getMsbD i && decide (i < block.length)) := by
    rw [BitVec.getMsbD_and, getMsbD_leadingOnes block.length_le]
  rw [contains, beq_iff_eq]
  constructor
  · intro agrees i common
    have bit := masked word i
    rw [agrees, decide_eq_true common, Bool.and_true] at bit
    exact bit.symm
  · intro agrees
    rw [← block.cleared]
    apply BitVec.eq_of_getMsbD_eq
    intro i _
    rw [masked, masked]
    by_cases common : i < block.length
    · rw [agrees i common]
    · rw [decide_eq_false common, Bool.and_false, Bool.and_false]

/-! ## Mapped forms -/

/-- The first ninety-six bits of a mapped form mark the block, the others are the address. -/
theorem Ipv4.getMsbD_mapped (address : Ipv4) (i : Nat) :
    address.mapped.bits.getMsbD i =
      if 96 ≤ i then address.bits.getMsbD (i - 96)
      else ((0 : BitVec 80) ++ BitVec.allOnes 16).getMsbD i :=
  BitVec.getMsbD_append

/-- An address is the mapped form of the IPv4 address that it is turned into, and of no other. -/
theorem Address.unmapped?_eq_some_iff {address : Address} {v4 : Ipv4} :
    address.unmapped? = some v4 ↔ address = v4.mapped := by
  constructor
  · intro unmapped
    unfold unmapped? at unmapped
    split at unmapped
    case isFalse => cases unmapped
    case isTrue block =>
      cases unmapped
      have whole : address.bits.extractLsb' 32 96 ++ address.bits.extractLsb' 0 32 =
          address.bits.extractLsb' 0 128 :=
        BitVec.extractLsb'_append_extractLsb'_eq_extractLsb' rfl
      rw [block, BitVec.extractLsb'_eq_self] at whole
      cases address
      exact congrArg Address.mk whole.symm
  · rintro rfl
    have block : v4.mapped.bits.extractLsb' 32 96 = (0 : BitVec 80) ++ BitVec.allOnes 16 :=
      BitVec.extractLsb'_append_eq_left
    have inner : v4.mapped.bits.extractLsb' 0 32 = v4.bits :=
      BitVec.extractLsb'_append_eq_right
    rw [unmapped?, if_pos block, inner]

/-- An address that begins as the mapped forms do is one. -/
theorem Address.exists_mapped {address : Address}
    (begins : ∀ i < 96, address.bits.getMsbD i =
      ((0 : BitVec 80) ++ BitVec.allOnes 16).getMsbD i) :
    ∃ v4 : Ipv4, address = v4.mapped := by
  refine ⟨⟨address.bits.extractLsb' 0 32⟩, ?_⟩
  apply Address.unmapped?_eq_some_iff.1
  have block : address.bits.extractLsb' 32 96 = (0 : BitVec 80) ++ BitVec.allOnes 16 := by
    apply BitVec.eq_of_getMsbD_eq
    intro i inside
    rw [← begins i inside, BitVec.getMsbD_extractLsb']
    have place : 128 - (32 + 96 - i) = i := by omega
    simp [inside, place]
  rw [unmapped?, if_pos block]

/-! ## Subnets -/

namespace Subnet

/-- The network address in the exporter space. -/
def network : Subnet → Address
  | .v4 block => Ipv4.mapped ⟨block.network⟩
  | .v6 block => ⟨block.network⟩

/-- No subnet has more common bits than there are. -/
theorem rank_le (subnet : Subnet) : subnet.rank ≤ 128 := by
  cases subnet with
  | v4 block =>
    have le := block.length_le
    show block.length + 96 ≤ 128
    omega
  | v6 block => exact block.length_le

/-- A subnet of IPv4 addresses has the mapped forms of the addresses of its block. -/
theorem contains_v4_iff {block : Block 32} {address : Address} :
    (v4 block).contains address = true ↔
      ∃ inner : Ipv4, address = inner.mapped ∧ block.contains inner.bits = true := by
  unfold contains
  cases unmapped : address.unmapped? with
  | some inner =>
    have mapped := Address.unmapped?_eq_some_iff.1 unmapped
    constructor
    · intro inside
      exact ⟨inner, mapped, inside⟩
    · rintro ⟨other, same, inside⟩
      have equal := Address.unmapped?_eq_some_iff.2 same
      rw [unmapped] at equal
      cases equal
      exact inside
  | none =>
    refine ⟨nofun, ?_⟩
    rintro ⟨inner, mapped, -⟩
    rw [Address.unmapped?_eq_some_iff.2 mapped] at unmapped
    cases unmapped

/-- An address belongs to a subnet if it agrees with the network address on the common bits. -/
theorem contains_iff (subnet : Subnet) (address : Address) :
    subnet.contains address = true ↔
      ∀ i < subnet.rank, address.bits.getMsbD i = subnet.network.bits.getMsbD i := by
  cases subnet with
  | v6 block => exact block.contains_iff address.bits
  | v4 block =>
    have bits (i : Nat) : (network (.v4 block)).bits.getMsbD i =
        if 96 ≤ i then block.network.getMsbD (i - 96)
        else ((0 : BitVec 80) ++ BitVec.allOnes 16).getMsbD i :=
      Ipv4.getMsbD_mapped ⟨block.network⟩ i
    constructor
    · intro contained i common
      obtain ⟨inner, rfl, inside⟩ := contains_v4_iff.1 contained
      rw [bits, Ipv4.getMsbD_mapped]
      by_cases first : 96 ≤ i
      · rw [if_pos first, if_pos first]
        have low : i - 96 < _ := Nat.sub_lt_right_of_lt_add first common
        exact (block.contains_iff inner.bits).1 inside (i - 96) low
      · rw [if_neg first, if_neg first]
    · intro agrees
      have whole : 96 ≤ (Subnet.v4 block).rank := Nat.le_add_left 96 block.length
      have begins (i : Nat) (first : i < 96) : address.bits.getMsbD i =
          ((0 : BitVec 80) ++ BitVec.allOnes 16).getMsbD i := by
        rw [agrees i (Nat.lt_of_lt_of_le first whole), bits, if_neg (Nat.not_le_of_lt first)]
      obtain ⟨inner, rfl⟩ := Address.exists_mapped begins
      refine contains_v4_iff.2 ⟨inner, rfl, (block.contains_iff inner.bits).2 fun i common => ?_⟩
      have bit := agrees (i + 96) (Nat.add_lt_add_right common 96)
      rw [bits, Ipv4.getMsbD_mapped, if_pos (Nat.le_add_left 96 i), if_pos (Nat.le_add_left 96 i),
        Nat.add_sub_cancel] at bit
      exact bit

variable {a b : Subnet} {address : Address}

/-- Subnets with an address in common agree on the bits that both have in common. -/
theorem network_agrees (in_a : a.contains address = true) (in_b : b.contains address = true)
    {i : Nat} (common_a : i < a.rank) (common_b : i < b.rank) :
    a.network.bits.getMsbD i = b.network.bits.getMsbD i :=
  ((a.contains_iff address).1 in_a i common_a).symm.trans
    ((b.contains_iff address).1 in_b i common_b)

/-- Of subnets with an address in common, one of no lower rank is part of the other. -/
theorem contains_of_rank_le (in_a : a.contains address = true) (in_b : b.contains address = true)
    (le : a.rank ≤ b.rank) {other : Address} (member : b.contains other = true) :
    a.contains other = true := by
  refine (a.contains_iff other).2 fun i common => ?_
  rw [network_agrees in_a in_b common (Nat.lt_of_lt_of_le common le)]
  exact (b.contains_iff other).1 member i (Nat.lt_of_lt_of_le common le)

/-- A subnet contains an address that a subnet of higher rank does not: the bit after those that
its members have in common is free. -/
theorem exists_of_rank_lt (in_a : a.contains address = true) (lt : a.rank < b.rank) :
    ∃ other, a.contains other = true ∧ b.contains other = false := by
  cases in_b : b.contains address with
  | false => exact ⟨address, in_a, in_b⟩
  | true =>
    have within := b.rank_le
    have flip (i : Nat) : (address.bits ^^^ BitVec.twoPow 128 (127 - a.rank)).getMsbD i =
        (address.bits.getMsbD i ^^ decide (i = a.rank)) := by
      rw [BitVec.getMsbD_xor, BitVec.getMsbD_twoPow]
      have place : 127 - a.rank < 128 := by omega
      have same : (i = 128 - (127 - a.rank) - 1) = (i = a.rank) := by
        apply propext
        omega
      simp only [place, decide_true, Bool.true_and, same]
    refine ⟨⟨address.bits ^^^ BitVec.twoPow 128 (127 - a.rank)⟩, ?_, ?_⟩
    · refine (a.contains_iff _).2 fun i common => ?_
      rw [flip, decide_eq_false (Nat.ne_of_lt common), Bool.xor_false]
      exact (a.contains_iff address).1 in_a i common
    · rw [Bool.eq_false_iff]
      intro member
      have agrees := (b.contains_iff _).1 member a.rank lt
      rw [flip, decide_eq_true rfl, ← (b.contains_iff address).1 in_b a.rank lt] at agrees
      simp at agrees

/-! ## Sets -/

/-- The addresses of a subnet, an IPv4 subnet standing for the mapped forms of its addresses. -/
def addresses : Subnet → Set Address
  | .v4 block => {address | ∃ inner : Ipv4, address = inner.mapped ∧
      ∀ i < block.length, inner.bits.getMsbD i = block.network.getMsbD i}
  | .v6 block => {address | ∀ i < block.length,
      address.bits.getMsbD i = block.network.getMsbD i}

/-- A subnet contains its addresses. -/
theorem contains_iff_mem (subnet : Subnet) (address : Address) :
    subnet.contains address = true ↔ address ∈ subnet.addresses := by
  cases subnet with
  | v4 block =>
    rw [contains_v4_iff]
    exact exists_congr fun inner => and_congr_right fun _ => block.contains_iff inner.bits
  | v6 block => exact block.contains_iff address.bits

/-- The network address is an address of the subnet. -/
theorem network_mem (subnet : Subnet) : subnet.network ∈ subnet.addresses :=
  (subnet.contains_iff_mem _).1 ((subnet.contains_iff _).2 fun _ _ => rfl)

/-- Subnets with the same addresses have the same rank. -/
theorem rank_eq_of_addresses_eq (same : a.addresses = b.addresses) : a.rank = b.rank := by
  have no_lower {a b : Subnet} (same : a.addresses = b.addresses) : ¬ a.rank < b.rank := by
    intro lt
    obtain ⟨other, in_a, outside⟩ :=
      exists_of_rank_lt ((a.contains_iff_mem _).2 a.network_mem) lt
    rw [contains_iff_mem, same, ← contains_iff_mem, outside] at in_a
    cases in_a
  exact Nat.le_antisymm (Nat.le_of_not_lt (no_lower same.symm)) (Nat.le_of_not_lt (no_lower same))

end Subnet

/-- Blocks of one length are the same if their networks agree on the common bits. -/
theorem Block.eq_of_agrees {width : Nat} {a b : Block width} (length : a.length = b.length)
    (agrees : ∀ i < a.length, a.network.getMsbD i = b.network.getMsbD i) : a = b := by
  have inside : b.contains a.network = true :=
    (b.contains_iff a.network).2 fun i common => agrees i (length ▸ common)
  have network : a.network = b.network := by
    rw [← a.cleared, length]
    exact beq_iff_eq.1 inside
  cases a
  cases b
  cases length
  cases network
  rfl

namespace Subnet

/-- Different subnets have the same addresses only if one is of IPv4 and the other of IPv6. -/
theorem families_of_addresses_eq {a b : Subnet} (same : a.addresses = b.addresses) (ne : a ≠ b) :
    (∃ block4 block6, a = .v4 block4 ∧ b = .v6 block6) ∨
      ∃ block6 block4, a = .v6 block6 ∧ b = .v4 block4 := by
  have rank := rank_eq_of_addresses_eq same
  have agrees (i : Nat) (common : i < a.rank) :
      a.network.bits.getMsbD i = b.network.bits.getMsbD i := by
    have in_b : b.contains a.network = true := by
      rw [contains_iff_mem, ← same]
      exact a.network_mem
    exact (b.contains_iff a.network).1 in_b i (rank ▸ common)
  cases a with
  | v4 block =>
    cases b with
    | v4 other =>
      refine absurd (congrArg v4 (Block.eq_of_agrees ?_ fun i common => ?_)) ne
      · exact Nat.add_right_cancel rank
      · have bit := agrees (i + 96) (Nat.add_lt_add_right common 96)
        simpa [network, Ipv4.getMsbD_mapped] using bit
    | v6 other => exact .inl ⟨block, other, rfl, rfl⟩
  | v6 block =>
    cases b with
    | v4 other => exact .inr ⟨block, other, rfl, rfl⟩
    | v6 other => exact absurd (congrArg v6 (Block.eq_of_agrees rank agrees)) ne

end Subnet

end FlowEnrichment

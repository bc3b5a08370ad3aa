import FlowEnrichment.Text.Decimal

/-!
# Addresses

An exporter is known by one address of 128 bits. An IPv4 address stands for its mapped form, the
block whose first eighty bits are zero and whose next sixteen are one, so a device has one
address whichever way it was written.
-/
namespace FlowEnrichment

/-- An IPv4 address. -/
structure Ipv4 where
  /-- The thirty-two bits, the first part first. -/
  bits : BitVec 32
  deriving DecidableEq, Repr, Inhabited

/-- An address of the exporter space. -/
structure Address where
  /-- The 128 bits, the first group first. -/
  bits : BitVec 128
  deriving DecidableEq, Repr, Inhabited

/-- An address as it is written, of either family. -/
inductive IpAddress where
  /-- An IPv4 address. -/
  | v4 (address : Ipv4)
  /-- An IPv6 address. -/
  | v6 (address : Address)
  deriving DecidableEq, Repr, Inhabited

namespace Ipv4

/-- The address of four parts. -/
def ofParts (a b c d : UInt8) : Ipv4 :=
  ⟨a.toBitVec ++ b.toBitVec ++ c.toBitVec ++ d.toBitVec⟩

/-- One of the four parts, counted from the left. -/
def part (address : Ipv4) (index : Nat) : Nat := (address.bits.extractLsb' (24 - 8 * index) 8).toNat

/-- The mapped form of the address. -/
def mapped (address : Ipv4) : Address := ⟨(0 : BitVec 80) ++ BitVec.allOnes 16 ++ address.bits⟩

end Ipv4

namespace Address

/-- The address of eight groups of sixteen bits; a missing group is zero. -/
def ofGroups (groups : List Nat) : Address :=
  ⟨(List.range 8).foldl
    (fun bits index => bits <<< 16 ||| BitVec.ofNat 128 (groups.getD index 0 % 65536)) 0⟩

/-- One of the eight groups, counted from the left. -/
def group (address : Address) (index : Nat) : Nat :=
  (address.bits.extractLsb' (112 - 16 * index) 16).toNat

/-- The eight groups. -/
def groups (address : Address) : List Nat := (List.range 8).map address.group

/-- The IPv4 address that this is the mapped form of. -/
def unmapped? (address : Address) : Option Ipv4 :=
  if address.bits.extractLsb' 32 96 = (0 : BitVec 80) ++ BitVec.allOnes 16 then
    some ⟨address.bits.extractLsb' 0 32⟩
  else none

/-- The address as it is shown: a mapped form as its IPv4 address. -/
def shown (address : Address) : IpAddress :=
  match address.unmapped? with
  | some v4 => .v4 v4
  | none => .v6 address

/-- The order of addresses as numbers. -/
instance : Ord Address := ⟨fun a b => compare a.bits.toNat b.bits.toNat⟩

end Address

/-- The address of the exporter space that an address stands for. -/
def IpAddress.canonical : IpAddress → Address
  | .v4 address => address.mapped
  | .v6 address => address

end FlowEnrichment

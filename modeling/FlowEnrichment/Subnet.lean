import FlowEnrichment.Address.Text

/-!
# Subnets

A subnet is a set of addresses that agree on their first bits. It is held with its host bits
cleared, so equal sets of one family are equal values. An IPv4 subnet contains the mapped forms
of its addresses. `Subnet.parse?` reads an address with an optional length, which for IPv4 may
also be written as a mask; `Subnet.chars` writes the network address and the length.
-/
namespace FlowEnrichment

/-- The word of a width whose first `length` bits are ones. -/
def leadingOnes (width length : Nat) : BitVec width := BitVec.allOnes width <<< (width - length)

/-- A block of words that agree on their first bits. -/
structure Block (width : Nat) where
  /-- The common bits, followed by zeros. -/
  network : BitVec width
  /-- The number of common bits. -/
  length : Nat
  /-- There are no more common bits than bits. -/
  length_le : length ≤ width
  /-- The host bits are zero. -/
  cleared : network &&& leadingOnes width length = network
  deriving DecidableEq, Repr

namespace Block

variable {width : Nat}

/-- The block of the words that agree with a word on its first bits. -/
def around (word : BitVec width) (length : Nat) (h : length ≤ width) : Block width where
  network := word &&& leadingOnes width length
  length := length
  length_le := h
  cleared := by rw [BitVec.and_assoc, BitVec.and_self]

/-- Whether a word belongs to the block. -/
def contains (block : Block width) (word : BitVec width) : Bool :=
  word &&& leadingOnes width block.length == block.network

end Block

/-- A set of exporter addresses that agree on their first bits. -/
inductive Subnet where
  /-- The mapped forms of the IPv4 addresses of a block. -/
  | v4 (block : Block 32)
  /-- The addresses of a block. -/
  | v6 (block : Block 128)
  deriving DecidableEq, Repr

namespace Subnet

/-- The number of common bits, in the family of the subnet. -/
def length : Subnet → Nat
  | .v4 block => block.length
  | .v6 block => block.length

/-- Whether an address belongs to the subnet. -/
def contains (subnet : Subnet) (address : Address) : Bool :=
  match subnet with
  | .v4 block =>
    match address.unmapped? with
    | some inner => block.contains inner.bits
    | none => false
  | .v6 block => block.contains address.bits

/-- The number of bits that the members have in common in the exporter space; the greater, the
more specific is the subnet. -/
def rank : Subnet → Nat
  | .v4 block => block.length + 96
  | .v6 block => block.length

/-- The network address and the length. -/
def chars : Subnet → List Char
  | .v4 block => Ipv4.chars ⟨block.network⟩ ++ '/' :: Decimal.digits block.length
  | .v6 block => Address.chars ⟨block.network⟩ ++ '/' :: Decimal.digits block.length

/-- The text of a subnet. -/
def text (subnet : Subnet) : String := String.ofList subnet.chars

/-! ## Reading -/

/-- The length of an IPv4 mask whose ones all come before its zeros. -/
def maskLength? (mask : Ipv4) : Option Nat :=
  (List.range 33).find? fun length => leadingOnes 32 length == mask.bits

/-- A length written as a number. -/
def numberLength? (bound : Nat) (text : List Char) : Option Nat :=
  match Decimal.parse 255 text with
  | .ok length => if length ≤ bound then some length else none
  | .error _ => none

/-- A length of an IPv4 subnet, written as a mask or as a number; a host if it is left out. -/
def length4? : Option (List Char) → Option Nat
  | none => some 32
  | some text =>
    match Ipv4.parse? text with
    | some mask => maskLength? mask
    | none => numberLength? 32 text

/-- A length of an IPv6 subnet; a host if it is left out. -/
def length6? : Option (List Char) → Option Nat
  | none => some 128
  | some text => numberLength? 128 text

/-- Splits a text at its first slash; nothing if there are several. -/
def splitLength? (text : List Char) : Option (List Char × Option (List Char)) :=
  match text.span (· != '/') with
  | (address, []) => some (address, none)
  | (address, _ :: length) => if length.contains '/' then none else some (address, some length)

/-- A block around a word, if the length is possible. -/
def block? {width : Nat} (word : BitVec width) (length : Nat) : Option (Block width) :=
  if h : length ≤ width then some (.around word length h) else none

/-- The subnet that a text is. -/
def parse? (text : List Char) : Option Subnet := do
  let (address, length) ← splitLength? text
  let asV4 : Option Subnet := do
    let address ← Ipv4.parse? address
    let block ← block? address.bits (← length4? length)
    return .v4 block
  asV4 <|> do
    let address ← Address.parse? address
    let block ← block? address.bits (← length6? length)
    return .v6 block

end Subnet

end FlowEnrichment

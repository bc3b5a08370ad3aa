import FlowEnrichment.Proofs.Address.Characters
import FlowEnrichment.Proofs.Records
import FlowEnrichment.Proofs.Subnet
import FlowEnrichment.StaticTable
import Mathlib.Data.List.TakeDrop

/-!
# The text of a subnet

A text writes an address and a length (`Subnet.Writes`): the length is a number, for IPv4 also a
mask, or it is left out. Such texts are the accepted ones, and what is read is the subnet around the
address (`Subnet.Around`). A subnet is shown as its network address and its length, which is a text
of this form, so it is read back; and `Subnet.accepted_canonical` says that a subnet does not tell
which of the texts for it was read.
-/
namespace FlowEnrichment

/-! ## Numbers -/

namespace Decimal

/-- Digits of a number within the bound are read to their end. -/
theorem parseDigits_of_le {bound : Nat} (total : Nat) (run : List Char)
    (digits : ∀ c ∈ run, isDigit c = true) (small : value total run ≤ bound) :
    parseDigits bound total run = .ok (value total run) := by
  induction run generalizing total with
  | nil => rfl
  | cons c run ih =>
    have known : digit? c = some (c.toNat - '0'.toNat) := by
      have digit := digits c List.mem_cons_self
      unfold isDigit digit? at digit
      unfold digit?
      split at digit
      case isTrue decimal => rw [if_pos decimal]
      case isFalse => cases digit
    have next : total * 10 + (c.toNat - '0'.toNat) ≤ bound :=
      Nat.le_trans (Json.le_value _ run) small
    rw [parseDigits, known]
    dsimp only
    rw [if_neg (Nat.not_lt.2 next)]
    exact ih _ (fun other member => digits other (List.mem_cons_of_mem c member)) small

/-- A number that does not begin with a sign consists of digits. -/
theorem parse_of_ne {bound : Nat} {c : Char} (unsigned : c ≠ '+') (rest : List Char) :
    parse bound (c :: rest) = parseDigits bound 0 (c :: rest) := by
  rw [parse]
  · exact List.cons_ne_nil c rest
  · exact fun alone => unsigned (List.cons.inj alone).1
  · exact fun _ signed => unsigned (List.cons.inj signed).1

/-- A written number within the bound is read back. -/
theorem parse_digits {bound n : Nat} (small : n ≤ bound) : parse bound (digits n) = .ok n := by
  have read := parseDigits_of_le 0 (digits n) (fun _ => isDigit_of_mem_digits)
    (Nat.le_trans (Nat.le_of_eq (value_digits n)) small)
  obtain ⟨c, rest, written⟩ : ∃ c rest, digits n = c :: rest :=
    List.exists_cons_of_ne_nil Nat.toDigits_ne_nil
  have digit : isDigit c = true := by
    apply isDigit_of_mem_digits (n := n)
    rw [written]
    exact List.mem_cons_self
  rw [value_digits] at read
  rw [written] at read ⊢
  rw [parse_of_ne _ rest, read]
  rintro rfl
  exact absurd digit (by decide)

/-- Digits that are read are digits. -/
theorem isDigit_of_parseDigits {bound total n : Nat} {run : List Char}
    (read : parseDigits bound total run = .ok n) : ∀ c ∈ run, isDigit c = true := by
  induction run generalizing total with
  | nil => exact nofun
  | cons c run ih =>
    rw [parseDigits] at read
    split at read
    case h_1 => cases read
    case h_2 value digit =>
      split at read
      case isTrue => cases read
      case isFalse =>
        intro other member
        rcases List.mem_cons.1 member with rfl | later
        · rw [isDigit, digit]
          rfl
        · exact ih read other later

/-- A number has only digits and a sign. -/
theorem isDigit_of_parse {bound n : Nat} {text : List Char} (read : parse bound text = .ok n) :
    ∀ c ∈ text, isDigit c = true ∨ c = '+' := by
  intro c member
  unfold parse at read
  split at read
  case h_1 => cases read
  case h_2 => cases read
  case h_3 rest _ =>
    rcases List.mem_cons.1 member with sign | later
    · exact .inr sign
    · exact .inl (isDigit_of_parseDigits read c later)
  case h_4 => exact .inl (isDigit_of_parseDigits read c member)

end Decimal

namespace Subnet

/-! ## Lengths -/

/-- A mask has the length whose ones it begins with. -/
theorem maskLength?_eq_some_iff {mask : Ipv4} {length : Nat} :
    maskLength? mask = some length ↔ length ≤ 32 ∧ leadingOnes 32 length = mask.bits := by
  constructor
  · intro found
    have same := List.find?_some found
    have inside := List.mem_range.1 (List.mem_of_find?_eq_some found)
    exact ⟨Nat.le_of_lt_succ inside, beq_iff_eq.1 same⟩
  · rintro ⟨le, same⟩
    -- Masks of different lengths differ where the longer one has its last one.
    have differs (other : Nat) (less : other < length) :
        leadingOnes 32 other ≠ leadingOnes 32 length := by
      intro equal
      have bit : (leadingOnes 32 other).getMsbD other = (leadingOnes 32 length).getMsbD other := by
        rw [equal]
      rw [getMsbD_leadingOnes (Nat.le_trans (Nat.le_of_lt less) le), getMsbD_leadingOnes le,
        decide_eq_true less, decide_eq_false (Nat.lt_irrefl other)] at bit
      cases bit
    unfold maskLength?
    rw [List.find?_range_eq_some]
    refine ⟨beq_iff_eq.2 same, List.mem_range.2 (Nat.lt_succ_of_le le), fun other less => ?_⟩
    rw [Bool.not_eq_true', beq_eq_false_iff_ne, ← same]
    exact differs other less

/-- A length is read from a number that is not too great. -/
theorem numberLength?_eq_some_iff {bound length : Nat} {text : List Char} :
    numberLength? bound text = some length ↔
      Decimal.parse 255 text = .ok length ∧ length ≤ bound := by
  unfold numberLength?
  cases Decimal.parse 255 text with
  | error fault => simp
  | ok n =>
    dsimp only
    rw [Option.ite_none_right_eq_some, Option.some.injEq, Except.ok.injEq]
    constructor
    · rintro ⟨le, rfl⟩
      exact ⟨rfl, le⟩
    · rintro ⟨rfl, le⟩
      exact ⟨le, rfl⟩

/-- A text without a slash has no length. -/
theorem splitLength?_of_notMem {text : List Char} (plain : '/' ∉ text) :
    splitLength? text = some (text, none) := by
  have all : ∀ c ∈ text, (c != '/') = true := fun c member =>
    bne_iff_ne.2 fun slash => plain (slash ▸ member)
  have before : (text ++ []).takeWhile (· != '/') = text ++ _ := List.takeWhile_append_of_pos all
  have after : (text ++ []).dropWhile (· != '/') = _ := List.dropWhile_append_of_pos all
  rw [List.takeWhile_nil, List.append_nil] at before
  rw [List.dropWhile_nil, List.append_nil] at after
  rw [splitLength?, List.span_eq_takeWhile_dropWhile, before, after]

/-- A text with one slash has the length after it. -/
theorem splitLength?_append {front back : List Char} (plain : '/' ∉ front)
    (plain_back : '/' ∉ back) :
    splitLength? (front ++ '/' :: back) = some (front, some back) := by
  have all : ∀ c ∈ front, (c != '/') = true := fun c member =>
    bne_iff_ne.2 fun slash => plain (slash ▸ member)
  have one : back.contains '/' = false := by simpa using plain_back
  have before : ('/' :: back).takeWhile (· != '/') = [] := rfl
  have after : ('/' :: back).dropWhile (· != '/') = '/' :: back := rfl
  rw [splitLength?, List.span_eq_takeWhile_dropWhile, List.takeWhile_append_of_pos all,
    List.dropWhile_append_of_pos all, before, after, List.append_nil]
  dsimp only
  rw [one]
  rfl

/-- A text is split into itself, or into what stands before and after its slash. -/
theorem eq_of_splitLength? {text address : List Char} {length : Option (List Char)}
    (split : splitLength? text = some (address, length)) :
    text = address ++ (length.elim [] fun back => '/' :: back) := by
  unfold splitLength? at split
  have whole := List.takeWhile_append_dropWhile (p := (· != '/')) (l := text)
  rw [List.span_eq_takeWhile_dropWhile] at split
  cases left : text.dropWhile (· != '/') with
  | nil =>
    rw [left] at split whole
    cases split
    exact whole.symm
  | cons c back =>
    have slash : c = '/' := by
      have stopped := List.head_dropWhile_not (p := (· != '/')) (l := text)
        (by rw [left]; exact List.cons_ne_nil c back)
      simpa [left] using stopped
    rw [left] at split whole
    dsimp only at split
    split at split
    case isTrue => cases split
    case isFalse =>
      cases split
      rw [slash] at whole
      exact whole.symm

/-! ## Accepted texts -/

/-- A text that writes an address and a length: the length is left out for a host, a number, or, for
an IPv4 address, a mask. -/
inductive Writes : List Char → IpAddress → Nat → Prop where
  /-- An IPv4 host. -/
  | host4 {text : List Char} {address : Ipv4} (read : Ipv4.parse? text = some address) :
    Writes text (.v4 address) 32
  /-- An IPv6 host. -/
  | host6 {text : List Char} {address : Address} (read : Address.parse? text = some address) :
    Writes text (.v6 address) 128
  /-- An IPv4 address and a number. -/
  | number4 {front back : List Char} {address : Ipv4} {length : Nat}
    (read : Ipv4.parse? front = some address) (number : Decimal.parse 255 back = .ok length)
    (le : length ≤ 32) : Writes (front ++ '/' :: back) (.v4 address) length
  /-- An IPv4 address and a mask. -/
  | mask4 {front back : List Char} {address mask : Ipv4} {length : Nat}
    (read : Ipv4.parse? front = some address) (masks : Ipv4.parse? back = some mask)
    (le : length ≤ 32) (ones : leadingOnes 32 length = mask.bits) :
    Writes (front ++ '/' :: back) (.v4 address) length
  /-- An IPv6 address and a number. -/
  | number6 {front back : List Char} {address : Address} {length : Nat}
    (read : Address.parse? front = some address) (number : Decimal.parse 255 back = .ok length)
    (le : length ≤ 128) : Writes (front ++ '/' :: back) (.v6 address) length

/-- The subnet around an address. -/
def Around : IpAddress → Nat → Subnet → Prop
  | .v4 address, length, subnet => ∃ le, subnet = .v4 (.around address.bits length le)
  | .v6 address, length, subnet => ∃ le, subnet = .v6 (.around address.bits length le)

variable {text : List Char} {address : IpAddress} {length : Nat} {subnet other : Subnet}

/-- There is one subnet around an address. -/
theorem Around.unique (first : Around address length subnet)
    (second : Around address length other) : subnet = other := by
  cases address with
  | v4 address =>
    obtain ⟨_, rfl⟩ := first
    obtain ⟨_, rfl⟩ := second
    rfl
  | v6 address =>
    obtain ⟨_, rfl⟩ := first
    obtain ⟨_, rfl⟩ := second
    rfl

/-- A block is made around a word if the length is possible. -/
theorem block?_eq_some_iff {width : Nat} {word : BitVec width} {block : Block width} :
    block? word length = some block ↔ ∃ le, block = .around word length le := by
  unfold block?
  split
  case isTrue le =>
    rw [Option.some.injEq]
    exact ⟨fun same => ⟨le, same.symm⟩, fun ⟨_, same⟩ => same.symm⟩
  case isFalse great => exact ⟨nofun, fun ⟨le, _⟩ => absurd le great⟩

/-- A number is no mask. -/
theorem ipv4_parse?_of_number {bound : Nat} (number : Decimal.parse bound text = .ok length) :
    Ipv4.parse? text = none := by
  have plain : '.' ∉ text := fun member => by
    have digit := Decimal.isDigit_of_parse number '.' member
    exact absurd digit (by decide)
  rw [Ipv4.parse?, readIpv4_eq_none plain]
  rfl

/-- A number has no slash. -/
theorem slash_notMem_of_number {bound : Nat} (number : Decimal.parse bound text = .ok length) :
    '/' ∉ text := fun member => by
  have digit := Decimal.isDigit_of_parse number '/' member
  exact absurd digit (by decide)

/-- A text is accepted if what stands before its slash is an address and what stands after it a
length of the same family. -/
theorem parse?_eq_some_iff : parse? text = some subnet ↔
    ∃ front written, splitLength? text = some (front, written) ∧
      ((∃ address length, Ipv4.parse? front = some address ∧ length4? written = some length ∧
          Around (.v4 address) length subnet) ∨
        ∃ address length, Address.parse? front = some address ∧ length6? written = some length ∧
          Around (.v6 address) length subnet) := by
  unfold parse?
  simp only [Option.bind_eq_bind, Option.bind_eq_some_iff, Prod.exists, Option.orElse_eq_orElse,
    Option.orElse_eq_or, Option.or_eq_some_iff, Option.pure_def, Option.some.injEq,
    block?_eq_some_iff]
  refine exists_congr fun front => exists_congr fun written => and_congr_right fun _ => ?_
  constructor
  · rintro (⟨address, read, length, four, block, ⟨le, rfl⟩, rfl⟩ |
      ⟨-, address, read, length, six, block, ⟨le, rfl⟩, rfl⟩)
    · exact .inl ⟨address, length, read, four, le, rfl⟩
    · exact .inr ⟨address, length, read, six, le, rfl⟩
  · rintro (⟨address, length, read, four, le, rfl⟩ | ⟨address, length, read, six, le, rfl⟩)
    · exact .inl ⟨address, read, length, four, _, ⟨le, rfl⟩, rfl⟩
    · refine .inr ⟨?_, address, read, length, six, _, ⟨le, rfl⟩, rfl⟩
      rw [Address.ipv4_parse?_eq_none read]
      rfl

/-- What is read from an accepted text is the subnet around an address that the text writes. -/
theorem exists_writes (read : parse? text = some subnet) :
    ∃ address length, Writes text address length ∧ Around address length subnet := by
  obtain ⟨front, written, split, families⟩ := parse?_eq_some_iff.1 read
  have whole := eq_of_splitLength? split
  subst whole
  rcases families with ⟨address, length, front_read, four, around⟩ |
    ⟨address, length, front_read, six, around⟩
  · refine ⟨.v4 address, length, ?_, around⟩
    cases written with
    | none =>
      cases four
      rw [Option.elim_none, List.append_nil]
      exact .host4 front_read
    | some back =>
      unfold length4? at four
      dsimp only at four
      split at four
      case h_1 mask masks =>
        obtain ⟨le, ones⟩ := maskLength?_eq_some_iff.1 four
        exact .mask4 front_read masks le ones
      case h_2 =>
        obtain ⟨number, le⟩ := numberLength?_eq_some_iff.1 four
        exact .number4 front_read number le
  · refine ⟨.v6 address, length, ?_, around⟩
    cases written with
    | none =>
      cases six
      rw [Option.elim_none, List.append_nil]
      exact .host6 front_read
    | some back =>
      obtain ⟨number, le⟩ := numberLength?_eq_some_iff.1 six
      exact .number6 front_read number le

/-- A text that writes an address and a length is accepted. -/
theorem Writes.accepted (writes : Writes text address length) :
    ∃ subnet, parse? text = some subnet ∧ Around address length subnet := by
  cases writes with
  | host4 read =>
    refine ⟨.v4 (.around _ 32 (Nat.le_refl 32)), parse?_eq_some_iff.2 ?_, Nat.le_refl 32, rfl⟩
    exact ⟨_, _, splitLength?_of_notMem (Ipv4.slash_notMem read),
      .inl ⟨_, 32, read, rfl, Nat.le_refl 32, rfl⟩⟩
  | host6 read =>
    refine ⟨.v6 (.around _ 128 (Nat.le_refl 128)), parse?_eq_some_iff.2 ?_, Nat.le_refl 128, rfl⟩
    exact ⟨_, _, splitLength?_of_notMem (Address.slash_notMem read),
      .inr ⟨_, 128, read, rfl, Nat.le_refl 128, rfl⟩⟩
  | number4 read number le =>
    refine ⟨.v4 (.around _ length le), parse?_eq_some_iff.2 ?_, le, rfl⟩
    refine ⟨_, _, splitLength?_append (Ipv4.slash_notMem read) (slash_notMem_of_number number),
      .inl ⟨_, length, read, ?_, le, rfl⟩⟩
    rw [length4?, ipv4_parse?_of_number number]
    exact numberLength?_eq_some_iff.2 ⟨number, le⟩
  | mask4 read masks le ones =>
    refine ⟨.v4 (.around _ length le), parse?_eq_some_iff.2 ?_, le, rfl⟩
    refine ⟨_, _, splitLength?_append (Ipv4.slash_notMem read) (Ipv4.slash_notMem masks),
      .inl ⟨_, length, read, ?_, le, rfl⟩⟩
    rw [length4?, masks]
    exact maskLength?_eq_some_iff.2 ⟨le, ones⟩
  | number6 read number le =>
    refine ⟨.v6 (.around _ length le), parse?_eq_some_iff.2 ?_, le, rfl⟩
    exact ⟨_, _, splitLength?_append (Address.slash_notMem read) (slash_notMem_of_number number),
      .inr ⟨_, length, read, numberLength?_eq_some_iff.2 ⟨number, le⟩, le, rfl⟩⟩

/-- Whatever address and length an accepted text writes, what is read is the subnet around them. -/
theorem Writes.around (writes : Writes text address length) (read : parse? text = some subnet) :
    Around address length subnet := by
  obtain ⟨accepted, parsed, around⟩ := writes.accepted
  rw [read] at parsed
  cases parsed
  exact around

/-! ## Shown subnets -/

/-- The network address in the family of the subnet. -/
def base : Subnet → IpAddress
  | .v4 block => .v4 ⟨block.network⟩
  | .v6 block => .v6 ⟨block.network⟩

/-- A subnet is the one around its network address. -/
theorem around_base (subnet : Subnet) : Around subnet.base subnet.length subnet := by
  have same {width : Nat} (block : Block width) :
      block = .around block.network block.length block.length_le := by
    obtain ⟨network, length, le, cleared⟩ := block
    simp only [Block.around, Block.mk.injEq, and_true]
    exact cleared.symm
  cases subnet with
  | v4 block => exact ⟨block.length_le, congrArg v4 (same block)⟩
  | v6 block => exact ⟨block.length_le, congrArg v6 (same block)⟩

/-- A subnet is shown as its network address and its length. -/
theorem writes_chars (subnet : Subnet) : Writes subnet.chars subnet.base subnet.length := by
  have number {bound length : Nat} (le : length ≤ bound) (small : bound ≤ 255) :
      Decimal.parse 255 (Decimal.digits length) = .ok length :=
    Decimal.parse_digits (Nat.le_trans le small)
  cases subnet with
  | v4 block =>
    exact .number4 (Ipv4.parse?_chars _) (number block.length_le (by decide)) block.length_le
  | v6 block =>
    exact .number6 (Address.parse?_chars _) (number block.length_le (by decide)) block.length_le

/-- A shown subnet is read back. -/
theorem parse?_chars (subnet : Subnet) : parse? subnet.chars = some subnet := by
  obtain ⟨read, parsed, around⟩ := subnet.writes_chars.accepted
  rw [parsed, around.unique subnet.around_base]

/-- The text of a subnet is read back. -/
theorem parse_text (subnet : Subnet) : Subnet.parse subnet.text = .ok subnet := by
  rw [Subnet.parse, text, String.toList_ofList, parse?_chars]

/-- A subnet that was written into a document is read back. -/
theorem reads (depth : Nat) (subnet : Subnet) :
    decoder.Reads depth subnet.toJson subnet := by
  apply Json.Decoder.Reads.refine (Json.Decoder.reads_text depth subnet.text)
  rw [parse_text]
  rfl

end Subnet

/-! ## Addresses under a mask -/

namespace IpAddress

variable {a b c : IpAddress} {length : Nat}

/-- A bit of an address, counted from the left; zeros follow its last one. -/
def bit : IpAddress → Nat → Bool
  | .v4 address, i => address.bits.getMsbD i
  | .v6 address, i => address.bits.getMsbD i

/-- Addresses of one family that have the same first bits. -/
def AgreeOn (length : Nat) : IpAddress → IpAddress → Prop
  | .v4 a, .v4 b => ∀ i < length, a.bits.getMsbD i = b.bits.getMsbD i
  | .v6 a, .v6 b => ∀ i < length, a.bits.getMsbD i = b.bits.getMsbD i
  | _, _ => False

/-- Two addresses that agree with a third one agree. -/
theorem AgreeOn.of_common (first : a.AgreeOn length c) (second : b.AgreeOn length c) :
    a.AgreeOn length b := by
  cases c with
  | v4 c =>
    match a, b, first, second with
    | .v4 a, .v4 b, first, second => exact fun i low => (first i low).trans (second i low).symm
  | v6 c =>
    match a, b, first, second with
    | .v6 a, .v6 b, first, second => exact fun i low => (first i low).trans (second i low).symm

end IpAddress

namespace Block

variable {width length : Nat} {le : length ≤ width}

/-- The network of a block has the first bits of the word around which it was made. -/
theorem getMsbD_network_around (word : BitVec width) (i : Nat) :
    (around word length le).network.getMsbD i = (word.getMsbD i && decide (i < length)) := by
  rw [around, BitVec.getMsbD_and, getMsbD_leadingOnes le]

/-- A word is in the block around another if both have the same first bits. -/
theorem contains_around_iff {word other : BitVec width} :
    (around word length le).contains other = true ↔
      ∀ i < length, word.getMsbD i = other.getMsbD i := by
  rw [contains_iff]
  refine forall₂_congr fun i low => ?_
  have inside : i < length := low
  rw [getMsbD_network_around, decide_eq_true inside, Bool.and_true, eq_comm]

/-- Blocks of one length around words with the same first bits are the same. -/
theorem around_eq_around_iff {word other : BitVec width} {le' : length ≤ width} :
    around word length le = around other length le' ↔
      ∀ i < length, word.getMsbD i = other.getMsbD i := by
  constructor
  · intro same i low
    have bit : (around word length le).network.getMsbD i = _ := getMsbD_network_around word i
    rw [same, getMsbD_network_around, decide_eq_true low, Bool.and_true, Bool.and_true] at bit
    exact bit.symm
  · intro agrees
    refine eq_of_agrees rfl fun i low => ?_
    rw [getMsbD_network_around, getMsbD_network_around, agrees i low]

end Block

namespace Subnet

variable {address address' : IpAddress} {length length' : Nat} {subnet other : Subnet}

/-- What a subnet has from an address and a length. -/
structure Spans (subnet : Subnet) (address : IpAddress) (length : Nat) : Prop where
  /-- It has the length. -/
  common : subnet.length = length
  /-- Its network address has the family and the first bits of the address. -/
  network : address.AgreeOn length subnet.base
  /-- The host bits are zero. -/
  hosts : ∀ i, length ≤ i → subnet.base.bit i = false
  /-- It contains the canonical forms of the addresses of that family with these first bits. -/
  members : ∀ exporter, subnet.contains exporter = true ↔
    ∃ member : IpAddress, exporter = member.canonical ∧ address.AgreeOn length member

/-- The subnet around an address has all of this. -/
theorem Around.spans (around : Around address length subnet) : subnet.Spans address length := by
  have network {width : Nat} (word : BitVec width) (le : length ≤ width) (i : Nat)
      (low : i < length) :
      word.getMsbD i = (Block.around word length le).network.getMsbD i := by
    rw [Block.getMsbD_network_around, decide_eq_true low, Bool.and_true]
  have hosts {width : Nat} (word : BitVec width) (le : length ≤ width) (i : Nat)
      (high : length ≤ i) : (Block.around word length le).network.getMsbD i = false := by
    rw [Block.getMsbD_network_around, decide_eq_false (Nat.not_lt.2 high), Bool.and_false]
  cases address with
  | v4 address =>
    obtain ⟨le, rfl⟩ := around
    refine ⟨rfl, network address.bits le, hosts address.bits le, fun exporter => ?_⟩
    rw [contains_v4_iff]
    constructor
    · rintro ⟨inner, mapped, inside⟩
      exact ⟨.v4 inner, mapped, Block.contains_around_iff.1 inside⟩
    · rintro ⟨member, canonical, agrees⟩
      match member, canonical, agrees with
      | .v4 inner, mapped, agrees => exact ⟨inner, mapped, Block.contains_around_iff.2 agrees⟩
  | v6 address =>
    obtain ⟨le, rfl⟩ := around
    refine ⟨rfl, network address.bits le, hosts address.bits le, fun exporter => ?_⟩
    constructor
    · intro inside
      exact ⟨.v6 exporter, rfl, Block.contains_around_iff.1 inside⟩
    · rintro ⟨member, canonical, agrees⟩
      match member, canonical, agrees with
      | .v6 inner, same, agrees =>
        have same : exporter = inner := same
        exact same ▸ Block.contains_around_iff.2 agrees

/-- The subnets around two addresses are the same if the lengths are and the addresses agree. -/
theorem Around.eq_iff (around : Around address length subnet)
    (around' : Around address' length' other) :
    subnet = other ↔ length = length' ∧ address.AgreeOn length address' := by
  constructor
  · rintro rfl
    have lengths : length = length' := around.spans.common.symm.trans around'.spans.common
    subst lengths
    exact ⟨rfl, around.spans.network.of_common around'.spans.network⟩
  · rintro ⟨rfl, agrees⟩
    match address, address', agrees with
    | .v4 _, .v4 _, agrees =>
      obtain ⟨_, rfl⟩ := around
      obtain ⟨_, rfl⟩ := around'
      exact congrArg v4 (Block.around_eq_around_iff.2 agrees)
    | .v6 _, .v6 _, agrees =>
      obtain ⟨_, rfl⟩ := around
      obtain ⟨_, rfl⟩ := around'
      exact congrArg v6 (Block.around_eq_around_iff.2 agrees)

/-! ## Canonical texts -/

/-- A text is accepted as the subnet that it parses to. -/
theorem parse_eq_ok_iff {text : String} :
    Subnet.parse text = .ok subnet ↔ parse? text.toList = some subnet := by
  unfold Subnet.parse
  cases parse? text.toList with
  | none => exact ⟨nofun, nofun⟩
  | some found => rw [Except.ok.injEq, Option.some.injEq]

/-- An accepted text writes an address and a length, and the subnet has from them its length and its
network address, with host bits of zero, and its members. The text of the subnet is read back, alone
and in a document. Another accepted text is the same subnet if it writes the same length and an
address of the same family with the same first bits, in whatever way both lengths were written. -/
theorem accepted_canonical {text : String} (accepted : Subnet.parse text = .ok subnet) :
    (∃ address length, Writes text.toList address length) ∧
    (∀ address length, Writes text.toList address length → subnet.Spans address length) ∧
    Subnet.parse subnet.text = .ok subnet ∧
    (∀ depth, decoder.Reads depth subnet.toJson subnet) ∧
    ∀ text' other, Subnet.parse text' = .ok other →
      ∀ address length address' length', Writes text.toList address length →
        Writes text'.toList address' length' →
        (subnet = other ↔ length = length' ∧ address.AgreeOn length address') := by
  have read := parse_eq_ok_iff.1 accepted
  refine ⟨?_, fun address length writes => (writes.around read).spans, subnet.parse_text,
    fun depth => subnet.reads depth, ?_⟩
  · obtain ⟨address, length, writes, -⟩ := exists_writes read
    exact ⟨address, length, writes⟩
  · intro text' other accepted' address length address' length' writes writes'
    exact (writes.around read).eq_iff (writes'.around (parse_eq_ok_iff.1 accepted'))

/-- An address with a mask and another one with a number are read as the same subnet. -/
theorem accepted_canonical_mask :
    let subnet : Subnet := .v4 (.around 0x0a010203 20 (by decide))
    Subnet.parse "10.1.2.3/255.255.240.0" = .ok subnet ∧
      Subnet.parse "10.1.15.255/+020" = .ok subnet ∧
      subnet.Spans (.v4 ⟨0x0a010203⟩) 20 ∧ subnet.text = "10.1.0.0/20" ∧
      Subnet.parse subnet.text = .ok subnet ∧
      (.v4 ⟨0x0a010203⟩ : IpAddress).AgreeOn 20 (.v4 ⟨0x0a010fff⟩) := by
  intro subnet
  have masked : Subnet.parse "10.1.2.3/255.255.240.0" = .ok subnet := by decide +kernel
  have numbered : Subnet.parse "10.1.15.255/+020" = .ok subnet := by decide +kernel
  have address : Ipv4.parse? "10.1.2.3".toList = some ⟨0x0a010203⟩ := by decide +kernel
  have ones : Ipv4.parse? "255.255.240.0".toList = some ⟨0xfffff000⟩ := by decide +kernel
  have mask : Writes "10.1.2.3/255.255.240.0".toList (.v4 ⟨0x0a010203⟩) 20 :=
    .mask4 address ones (by decide) (by decide)
  have other : Ipv4.parse? "10.1.15.255".toList = some ⟨0x0a010fff⟩ := by decide +kernel
  have length : Decimal.parse 255 "+020".toList = .ok 20 := by decide +kernel
  have number : Writes "10.1.15.255/+020".toList (.v4 ⟨0x0a010fff⟩) 20 :=
    .number4 other length (by decide)
  obtain ⟨-, spans, again, -, same⟩ := accepted_canonical masked
  exact ⟨masked, numbered, spans _ _ mask, by decide +kernel, again,
    ((same _ _ numbered _ _ _ _ mask number).1 rfl).2⟩

end Subnet

end FlowEnrichment

import FlowEnrichment.Proofs.Address.Reading

/-!
# Characters of addresses

What a reader takes from the front of a text are characters of an address: digits and points for
an IPv4 address, hexadecimal digits, points and colons for an IPv6 address. An IPv6 address has a
colon, so no text is an address of both families, and no address holds a slash.
-/
namespace FlowEnrichment

/-- A text from whose front characters of a kind were taken. -/
def Taken (kind : Char → Prop) (text rest : List Char) : Prop :=
  ∃ front, text = front ++ rest ∧ ∀ c ∈ front, kind c

namespace Taken

variable {kind other : Char → Prop} {text between rest : List Char}

/-- Nothing was taken. -/
theorem refl (kind : Char → Prop) (text : List Char) : Taken kind text text :=
  ⟨[], rfl, nofun⟩

/-- What was taken after more had been taken. -/
theorem trans (first : Taken kind text between) (second : Taken kind between rest) :
    Taken kind text rest := by
  obtain ⟨front, rfl, allowed⟩ := first
  obtain ⟨back, rfl, allowed'⟩ := second
  refine ⟨front ++ back, (List.append_assoc _ _ _).symm, fun c member => ?_⟩
  rcases List.mem_append.1 member with before | after
  · exact allowed c before
  · exact allowed' c after

/-- One character was taken. -/
theorem cons {c : Char} (allowed : kind c) (rest : List Char) : Taken kind (c :: rest) rest :=
  ⟨[c], rfl, fun _ member => List.mem_singleton.1 member ▸ allowed⟩

/-- Characters of a kind are of a wider kind. -/
theorem mono (taken : Taken kind text rest) (wider : ∀ c, kind c → other c) :
    Taken other text rest := by
  obtain ⟨front, same, allowed⟩ := taken
  exact ⟨front, same, fun c member => wider c (allowed c member)⟩

/-- A text that was taken as a whole has only characters of the kind. -/
theorem all (taken : Taken kind text []) : ∀ c ∈ text, kind c := by
  obtain ⟨front, rfl, allowed⟩ := taken
  rw [List.append_nil]
  exact allowed

/-- Nothing is left that was not there. -/
theorem notMem (taken : Taken kind text rest) {c : Char} (absent : c ∉ text) : c ∉ rest := by
  obtain ⟨front, rfl, -⟩ := taken
  exact fun member => absent (List.mem_append_right front member)

end Taken

/-! ## Readers -/

/-- Digits were taken. -/
theorem taken_spanValues (digit? : Char → Option Nat) (text : List Char) :
    Taken (fun c => (digit? c).isSome) text (spanValues digit? text).2 := by
  induction text with
  | nil => exact .refl _ _
  | cons c rest ih =>
    rw [spanValues]
    cases digit : digit? c with
    | none => exact .refl _ _
    | some value => exact .trans (.cons (by rw [digit]; rfl) rest) ih

/-- An expected character was taken. -/
theorem taken_readExpected {kind : Char → Prop} {expected : Char} (allowed : kind expected)
    {text rest : List Char} (read : readExpected expected text = some rest) :
    Taken kind text rest := by
  cases text with
  | nil => cases read
  | cons c more =>
    rw [readExpected] at read
    split at read
    case isTrue same =>
      cases read
      exact .cons (same ▸ allowed) _
    case isFalse => cases read

namespace Ipv4

/-- A character of an IPv4 address. -/
def IsCharacter (c : Char) : Prop := (Decimal.digit? c).isSome ∨ c = '.'

/-- A decimal part was taken. -/
theorem taken_readPart {text rest : List Char} {part : UInt8}
    (read : readPart text = some (part, rest)) : Taken IsCharacter text rest := by
  have taken := taken_spanValues Decimal.digit? text
  unfold readPart at read
  dsimp only at read
  split at read
  · cases read
  · cases read
    exact taken.mono fun _ => .inl

/-- An IPv4 address was taken. -/
theorem taken_readIpv4 {text rest : List Char} {address : Ipv4}
    (read : readIpv4 text = some (address, rest)) : Taken IsCharacter text rest := by
  simp only [readIpv4, Option.bind_eq_bind, Option.bind_eq_some_iff, Prod.exists] at read
  obtain ⟨_, _, first, _, point, _, _, second, _, point', _, _, third, _, point'', _, _, fourth,
    last⟩ := read
  cases last
  have between : IsCharacter '.' := .inr rfl
  have upToSecond := (taken_readPart first).trans (taken_readExpected between point)
  have upToThird := (upToSecond.trans (taken_readPart second)).trans
    (taken_readExpected between point')
  have upToFourth := (upToThird.trans (taken_readPart third)).trans
    (taken_readExpected between point'')
  exact upToFourth.trans (taken_readPart fourth)

/-- A text that is an IPv4 address has only characters of one. -/
theorem isCharacter_of_parse? {text : List Char} {address : Ipv4}
    (read : parse? text = some address) : ∀ c ∈ text, IsCharacter c := by
  unfold parse? whole? at read
  split at read
  case h_1 value taken => exact (taken_readIpv4 taken).all
  case h_2 => cases read

/-- An IPv4 address has no colon. -/
theorem colon_notMem {text : List Char} {address : Ipv4} (read : parse? text = some address) :
    ':' ∉ text :=
  fun member => absurd (isCharacter_of_parse? read ':' member) (by unfold IsCharacter; decide)

/-- An IPv4 address has no slash. -/
theorem slash_notMem {text : List Char} {address : Ipv4} (read : parse? text = some address) :
    '/' ∉ text :=
  fun member => absurd (isCharacter_of_parse? read '/' member) (by unfold IsCharacter; decide)

/-- A written IPv4 address is read back. -/
theorem parse?_chars (address : Ipv4) : parse? address.chars = some address := by
  have read := readIpv4_chars address (stops_nil Decimal.digit?)
  rw [List.append_nil] at read
  rw [parse?, read, whole?]

end Ipv4

namespace Address

/-- A character of an IPv6 address. -/
def IsCharacter (c : Char) : Prop := (Hexadecimal.digit? c).isSome ∨ c = '.' ∨ c = ':'

/-- The characters of IPv4 addresses are among them. -/
theorem isCharacter_of_ipv4 {c : Char} (character : Ipv4.IsCharacter c) : IsCharacter c := by
  rcases character with digit | point
  · unfold Decimal.digit? at digit
    split at digit
    case isTrue decimal =>
      left
      rw [Hexadecimal.digit?, if_pos decimal]
      rfl
    case isFalse => cases digit
  · exact .inr (.inl point)

/-- A group was taken. -/
theorem taken_readGroup {text rest : List Char} {group : Nat}
    (read : readGroup text = some (group, rest)) : Taken IsCharacter text rest := by
  have taken := taken_spanValues Hexadecimal.digit? text
  unfold readGroup at read
  dsimp only at read
  split at read
  · cases read
  · cases read
    exact taken.mono fun _ => .inl

/-- Groups were taken. -/
theorem taken_readGroups (first : Bool) (limit : Nat) (text : List Char) :
    Taken IsCharacter text (readGroups first limit text).rest := by
  induction limit generalizing first text with
  | zero => exact .refl _ _
  | succ limit ih =>
    rw [readGroups]
    cases begun : (if first then some text else readExpected ':' text) with
    | none => exact .refl _ _
    | some start =>
      have colon : Taken IsCharacter text start := by
        cases first with
        | true =>
          cases begun
          exact .refl _ _
        | false => exact taken_readExpected (.inr (.inr rfl)) begun
      dsimp only
      cases dotted : (if limit = 0 then none else readIpv4 start) with
      | some read =>
        have taken : Taken Ipv4.IsCharacter start read.2 := by
          split at dotted
          · cases dotted
          · exact Ipv4.taken_readIpv4 dotted
        exact colon.trans (taken.mono fun _ => isCharacter_of_ipv4)
      | none =>
        dsimp only
        cases group : readGroup start with
        | none => exact .refl _ _
        | some read => exact (colon.trans (taken_readGroup group)).trans (ih false read.2)

/-- An IPv6 address was taken. -/
theorem taken_readIpv6 {text rest : List Char} {address : Address}
    (read : readIpv6 text = some (address, rest)) : Taken IsCharacter text rest := by
  have head := taken_readGroups true 8 text
  unfold readIpv6 at read
  dsimp only at read
  split at read
  · cases read
    exact head
  · split at read
    · cases read
    · split at read
      case h_1 more colons =>
        cases read
        rw [colons] at head
        have colon : IsCharacter ':' := .inr (.inr rfl)
        have upToTail := (head.trans (.cons colon _)).trans (.cons colon more)
        exact upToTail.trans (taken_readGroups true _ more)
      case h_2 => cases read

/-- A text that is an IPv6 address has only characters of one. -/
theorem isCharacter_of_parse? {text : List Char} {address : Address}
    (read : parse? text = some address) : ∀ c ∈ text, IsCharacter c := by
  unfold parse? whole? at read
  split at read
  case h_1 value taken => exact (taken_readIpv6 taken).all
  case h_2 => cases read

/-- An IPv6 address has no slash. -/
theorem slash_notMem {text : List Char} {address : Address} (read : parse? text = some address) :
    '/' ∉ text :=
  fun member => absurd (isCharacter_of_parse? read '/' member) (by unfold IsCharacter; decide)

/-- Without a colon there are at most two groups. -/
theorem length_readGroups_le {text : List Char} (plain : ':' ∉ text) (limit : Nat) :
    (readGroups true limit text).groups.length ≤ 2 := by
  have none_after (limit : Nat) {rest : List Char} (plain : ':' ∉ rest) :
      (readGroups false limit rest).groups = [] := by
    cases limit with
    | zero => rfl
    | succ limit =>
      have colon : readExpected ':' rest = none := by
        cases rest with
        | nil => rfl
        | cons c more =>
          refine if_neg fun same => plain ?_
          rw [same]
          exact List.mem_cons_self
      simp only [readGroups, Bool.false_eq_true, if_false, colon]
  cases limit with
  | zero => exact Nat.zero_le 2
  | succ limit =>
    rw [readGroups, if_pos rfl]
    dsimp only
    cases (if limit = 0 then none else readIpv4 text) with
    | some read => exact Nat.le_refl 2
    | none =>
      dsimp only
      cases group : readGroup text with
      | none => exact Nat.zero_le 2
      | some read =>
        have last := none_after limit ((taken_readGroup group).notMem plain)
        dsimp only
        rw [last]
        exact Nat.le_succ 1

/-- An IPv6 address has a colon. -/
theorem colon_mem {text : List Char} {address : Address} (read : parse? text = some address) :
    ':' ∈ text := by
  refine Decidable.byContradiction fun plain => ?_
  have few := length_readGroups_le plain 8
  have left := (taken_readGroups true 8 text).notMem plain
  have refused : readIpv6 text = none := by
    unfold readIpv6
    dsimp only
    rw [if_neg (by omega)]
    split
    · rfl
    · split
      case h_1 more colons =>
        rw [colons] at left
        exact absurd List.mem_cons_self left
      case h_2 => rfl
  rw [parse?, refused] at read
  cases read

/-- No text is an address of both families. -/
theorem ipv4_parse?_eq_none {text : List Char} {address : Address}
    (read : parse? text = some address) : Ipv4.parse? text = none :=
  Option.eq_none_iff_forall_ne_some.2 fun _ other => Ipv4.colon_notMem other (colon_mem read)

end Address

end FlowEnrichment

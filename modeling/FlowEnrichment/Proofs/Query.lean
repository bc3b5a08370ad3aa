import Mathlib.Data.List.Basic
import FlowEnrichment.CommandLine.Command
import FlowEnrichment.Proofs.Subnet.Text

/-!
# Queries and their texts

A query has one exporter, whichever way the address was written: two addresses stand for the same
exporter if they are the same once mapped forms are taken for their IPv4 addresses
(`IpAddress.canonical_eq_iff`). The shown address is read back in its own family
(`IpAddress.parse?_chars`), and it holds none of the characters that separate it from an index, so
a query can be told from its text, and it is what a command line makes of its address and its
index, with and without brackets. `Query.written_back` states all of this.
-/
namespace FlowEnrichment

/-! ## Families -/

/-- The address that is meant: for a mapped form its IPv4 address. -/
def IpAddress.unmapped : IpAddress → IpAddress
  | .v4 address => .v4 address
  | .v6 address =>
    match address.unmapped? with
    | some inner => .v4 inner
    | none => .v6 address

/-- The shown address stands for the address. -/
theorem Address.canonical_shown (address : Address) : address.shown.canonical = address := by
  unfold shown
  split
  case h_1 v4 mapped => exact (unmapped?_eq_some_iff.1 mapped).symm
  case h_2 => rfl

/-- An exporter is known by the address as which it is shown. -/
theorem Address.shown_injective : Function.Injective shown :=
  Function.LeftInverse.injective canonical_shown

/-- What stands for an address is shown as the address that is meant. -/
theorem IpAddress.shown_canonical (address : IpAddress) :
    address.canonical.shown = address.unmapped := by
  cases address with
  | v4 address =>
    have unmapped : address.mapped.unmapped? = some address :=
      Address.unmapped?_eq_some_iff.2 rfl
    rw [canonical, Address.shown, unmapped]
    rfl
  | v6 address => rfl

/-- Two addresses stand for the same exporter if the same address is meant. -/
theorem IpAddress.canonical_eq_iff {x y : IpAddress} :
    x.canonical = y.canonical ↔ x.unmapped = y.unmapped := by
  rw [← x.shown_canonical, ← y.shown_canonical]
  constructor
  · exact congrArg Address.shown
  · intro shown
    rw [← x.canonical.canonical_shown, shown, Address.canonical_shown]

/-! ## Shown addresses -/

/-- A text is read as a whole if nothing is left of it. -/
theorem whole?_eq_some_iff {α : Type} {read : Option (α × List Char)} {x : α} :
    whole? read = some x ↔ read = some (x, []) := by
  unfold whole?
  split
  case h_1 => simp
  case h_2 other =>
    refine ⟨nofun, fun taken => ?_⟩
    exact absurd taken (other x)

/-- Groups hold no point. -/
theorem Address.point_notMem_groupsText (groups : List Nat) : '.' ∉ groupsText groups := by
  cases groups with
  | nil => exact List.not_mem_nil
  | cons group groups =>
    rw [groupsText_cons, List.mem_append, not_or]
    exact ⟨point_notMem_digits group, point_notMem_colonGroups groups⟩

/-- A written IPv6 address does not start with an IPv4 address: a mapped form starts with a colon,
and another one holds no point. -/
theorem Address.readIpv4_chars (address : Address) : readIpv4 address.chars = none := by
  unfold chars
  split
  case h_1 => exact readIpv4_of_stops (stops_cons (by decide) _)
  case h_2 =>
    dsimp only
    split
    case isTrue =>
      apply readIpv4_eq_none
      simp [point_notMem_groupsText]
    case isFalse => exact readIpv4_eq_none (point_notMem_groupsText _)

namespace IpAddress

/-- A written address is read back in its family. -/
theorem parse?_chars (address : IpAddress) : parse? address.chars = some address := by
  cases address with
  | v4 address =>
    have read := whole?_eq_some_iff.1 address.parse?_chars
    rw [parse?, chars, read]
    rfl
  | v6 address =>
    have read := whole?_eq_some_iff.1 address.parse?_chars
    rw [parse?, chars, address.readIpv4_chars, read]
    rfl

/-- An address is known by its text. -/
theorem chars_injective : Function.Injective chars := by
  intro x y same
  have read := congrArg parse? same
  rwa [parse?_chars, parse?_chars, Option.some.injEq] at read

/-- A written address has only the characters of an IPv6 address. -/
theorem isCharacter_of_mem_chars {address : IpAddress} {c : Char} (member : c ∈ address.chars) :
    Address.IsCharacter c := by
  cases address with
  | v4 address =>
    exact Address.isCharacter_of_ipv4 (Ipv4.isCharacter_of_parse? address.parse?_chars c member)
  | v6 address => exact Address.isCharacter_of_parse? address.parse?_chars c member

/-- What separates an address from what stands beside it is not in its text. -/
theorem notMem_chars (address : IpAddress) {c : Char} (separator : c ∈ ['#', '[', ']']) :
    c ∉ address.chars := by
  intro member
  have character := isCharacter_of_mem_chars member
  simp only [List.mem_cons, List.not_mem_nil, or_false] at separator
  rcases separator with rfl | rfl | rfl
  all_goals exact absurd character (by unfold Address.IsCharacter; decide)

end IpAddress

/-! ## Indexes -/

/-- The digits of a number hold no other character. -/
theorem Decimal.notMem_digits (n : Nat) {c : Char} (other : isDigit c = false) :
    c ∉ digits n := by
  intro member
  rw [isDigit_of_mem_digits member] at other
  cases other

/-- A number is known by its digits. -/
theorem Decimal.digits_injective : Function.Injective digits := by
  intro n m same
  have first := parse_digits (Nat.le_max_left n m)
  have second := parse_digits (Nat.le_max_right n m)
  rw [same, second] at first
  exact (Except.ok.inj first).symm

/-! ## Texts of queries -/

namespace CommandLine

/-- A text is split at its last colon. -/
theorem splitLastColon_append (before : List Char) {after : List Char} (plain : ':' ∉ after) :
    splitLastColon (before ++ ':' :: after) = some (before, after) := by
  have unsplit : splitLastColon after = none := by
    clear before
    induction after with
    | nil => rfl
    | cons c rest ih =>
      rw [List.mem_cons, not_or] at plain
      rw [splitLastColon, ih plain.2]
      exact if_neg (Ne.symm plain.1)
  induction before with
  | nil =>
    rw [List.nil_append, splitLastColon, unsplit]
    rfl
  | cons c before ih => rw [List.cons_append, splitLastColon, ih]

/-- A text without opening brackets starts as it is. -/
theorem dropWhile_of_notMem {bracket : Char} {text : List Char} (plain : bracket ∉ text) :
    text.dropWhile (· = bracket) = text := by
  cases text with
  | nil => rfl
  | cons c rest =>
    have other : ¬ c = bracket := fun same => plain (same ▸ List.mem_cons_self)
    exact List.dropWhile_cons_of_neg (by simpa using other)

/-- Without brackets nothing is stripped. -/
theorem stripBrackets_of_notMem {text : List Char} (unopened : '[' ∉ text)
    (unclosed : ']' ∉ text) : stripBrackets text = text := by
  rw [stripBrackets, dropWhile_of_notMem unopened,
    dropWhile_of_notMem (mt List.mem_reverse.1 unclosed), List.reverse_reverse]

/-- The brackets around a text are stripped. -/
theorem stripBrackets_bracketed {text : List Char} (unopened : '[' ∉ text)
    (unclosed : ']' ∉ text) : stripBrackets ('[' :: (text ++ [']'])) = text := by
  have opened : ('[' :: (text ++ [']'])).dropWhile (· = '[') = text ++ [']'] := by
    rw [List.dropWhile_cons_of_pos (by decide)]
    apply dropWhile_of_notMem
    simp [unopened]
  have closed : (']' :: text.reverse).dropWhile (· = ']') = text.reverse := by
    rw [List.dropWhile_cons_of_pos (by decide)]
    exact dropWhile_of_notMem (mt List.mem_reverse.1 unclosed)
  rw [stripBrackets, opened, List.reverse_append, List.reverse_singleton, List.singleton_append,
    closed, List.reverse_reverse]

/-- What is a query, written as an exporter and an index after a colon. -/
theorem parseQuery_of_exporter {text : String} {exporter : List Char} {query : Query}
    (written : text.toList = exporter ++ ':' :: Decimal.digits query.index.toNat)
    (stripped : stripBrackets exporter = query.exporter.shown.chars) :
    parseQuery text = .ok query := by
  have bound : query.index.toNat ≤ UInt32.size - 1 := Nat.le_pred_of_lt query.index.toNat_lt
  have plain : ':' ∉ Decimal.digits query.index.toNat := Decimal.notMem_digits _ (by decide)
  have address : (Query.of query.exporter.shown query.index) = query := by
    rw [Query.of, Address.canonical_shown]
  simp only [parseQuery, written, splitLastColon_append exporter plain, stripped,
    IpAddress.parse?_chars, Decimal.parse_digits bound, UInt32.ofNat_toNat, address]

end CommandLine

namespace Query

/-- A query is known by its text: the number sign is in neither of its parts. -/
theorem text_injective : Function.Injective text := by
  intro a b same
  have written : a.chars = b.chars := String.ofList_injective same
  have parts := (List.append_cons_inj_of_notMem
    (a.exporter.shown.notMem_chars (c := '#') (by decide))
    (Decimal.notMem_digits a.index.toNat (by decide))).1 written
  obtain ⟨exporters, -, indexes⟩ := parts
  have exporter := Address.shown_injective (IpAddress.chars_injective exporters)
  have index : a.index = b.index := UInt32.toNat_inj.1 (Decimal.digits_injective indexes)
  cases a
  cases b
  rw [Query.mk.injEq]
  exact ⟨exporter, index⟩

/-- A device has one query for each index: queries are the same if their indexes are and the same
exporter is meant. Every query can be written back: it is the query of its shown exporter and its
index, no other query has its text, and a command line reads it from the shown exporter and the
index, whether or not the exporter stands in brackets. -/
theorem written_back :
    (∀ (x y : IpAddress) (n m : UInt32), of x n = of y m ↔ n = m ∧ x.unmapped = y.unmapped) ∧
    (∀ query : Query, of query.exporter.shown query.index = query) ∧
    (∀ query other : Query, query.text = other.text ↔ query = other) ∧
    (∀ query : Query,
      let exporter := query.exporter.shown.text
      let index := String.ofList (Decimal.digits query.index.toNat)
      CommandLine.parseQuery (exporter ++ ":" ++ index) = .ok query ∧
        CommandLine.parseQuery ("[" ++ exporter ++ "]:" ++ index) = .ok query) := by
  refine ⟨fun x y n m => ?_, fun query => ?_, fun query other => text_injective.eq_iff,
    fun query => ?_⟩
  · rw [of, of, Query.mk.injEq, IpAddress.canonical_eq_iff]
    exact and_comm
  · rw [of, Address.canonical_shown]
  · have unopened : '[' ∉ query.exporter.shown.chars := IpAddress.notMem_chars _ (by decide)
    have unclosed : ']' ∉ query.exporter.shown.chars := IpAddress.notMem_chars _ (by decide)
    constructor
    · apply CommandLine.parseQuery_of_exporter _
        (CommandLine.stripBrackets_of_notMem unopened unclosed)
      simp [IpAddress.text]
    · apply CommandLine.parseQuery_of_exporter _
        (CommandLine.stripBrackets_bracketed unopened unclosed)
      simp [IpAddress.text]

/-- The last colon of a text without brackets stands before the index, also after two others. -/
example :
    (CommandLine.parseQuery ":::5").toOption = some ⟨⟨0⟩, 5⟩ ∧
      (CommandLine.parseQuery "[::ffff:10.0.0.1]:7").toOption =
        (CommandLine.parseQuery "10.0.0.1:7").toOption := by
  decide

end Query

end FlowEnrichment

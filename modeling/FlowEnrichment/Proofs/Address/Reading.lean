import FlowEnrichment.Address.Text
import FlowEnrichment.Proofs.Address.Groups
import FlowEnrichment.Proofs.Text.Numerals

/-!
# Reading written addresses

`Address.parse?_chars` is the round trip of addresses: whichever form the writer chooses, with a
run of zero groups left out or with an IPv4 address at the end, the reader finds the address
again. A reader of digits takes as many as there are, so the text after a number must not go on
with a digit.
-/
namespace FlowEnrichment

/-- A text that does not go on with a digit. -/
def Stops (digit? : Char → Option Nat) (rest : List Char) : Prop :=
  ∀ c more, rest = c :: more → digit? c = none

/-- Nothing does not go on with a digit. -/
theorem stops_nil (digit? : Char → Option Nat) : Stops digit? [] := by
  intro c more same
  cases same

/-- A text does not go on with a digit if its first character is none. -/
theorem stops_cons {digit? : Char → Option Nat} {c : Char} (other : digit? c = none)
    (rest : List Char) : Stops digit? (c :: rest) := by
  intro d more same
  cases same
  exact other

/-! ## Numbers -/

/-- All digits in front of something else are read. -/
theorem spanValues_map_digitChar {digit? : Char → Option Nat} {base : Nat}
    (known : ∀ value, value < base → digit? value.digitChar = some value) {values : List Nat}
    (bounded : ∀ value ∈ values, value < base) {rest : List Char} (stops : Stops digit? rest) :
    spanValues digit? (values.map Nat.digitChar ++ rest) = (values, rest) := by
  induction values with
  | nil =>
    cases rest with
    | nil => rfl
    | cons c more =>
      have other := stops c more rfl
      simp only [List.map_nil, List.nil_append, spanValues, other]
  | cons value values ih =>
    have digit := known value (bounded value List.mem_cons_self)
    have others := ih fun other member => bounded other (List.mem_cons_of_mem value member)
    simp only [List.map_cons, List.cons_append, spanValues, digit, others]

/-- A text that starts with no digit has no digits to read. -/
theorem spanValues_of_stops {digit? : Char → Option Nat} {rest : List Char}
    (stops : Stops digit? rest) : spanValues digit? rest = ([], rest) := by
  cases rest with
  | nil => rfl
  | cons c more =>
    have other := stops c more rfl
    simp only [spanValues, other]

/-- What is left after the digits is an end of the text. -/
theorem spanValues_suffix (digit? : Char → Option Nat) (text : List Char) :
    (spanValues digit? text).2 <:+ text := by
  induction text with
  | nil => exact List.suffix_rfl
  | cons c rest ih =>
    cases digit : digit? c with
    | none => simp only [spanValues, digit, List.suffix_rfl]
    | some value =>
      simp only [spanValues, digit]
      exact ih.trans (List.suffix_cons c rest)

/-- A decimal part is read up to its end. -/
theorem readPart_digits {n : Nat} (byte : n < 256) {rest : List Char}
    (stops : Stops Decimal.digit? rest) :
    readPart (Decimal.digits n ++ rest) = some (UInt8.ofNat n, rest) := by
  obtain ⟨values, written, some_digit, bounded, sum, leading⟩ :=
    toDigits_eq_map (by decide : 1 < 10) n
  have short : values.length ≤ 3 := by
    have digits := (Nat.length_toDigits_le_iff (b := 10) (n := n) (k := 3) (by decide)
      (by decide)).2 (by omega)
    rwa [written, List.length_map] at digits
  have span := spanValues_map_digitChar (fun _ => Decimal.digit?_digitChar) bounded stops
  have number : numberOfDigits 10 values = n := sum
  have clear : ¬ (values = [] ∨ 3 < values.length ∨
      (1 < values.length ∧ values.head? = some 0) ∨ 255 < numberOfDigits 10 values) := by
    rintro (none_left | long | ⟨several, zero⟩ | large)
    · exact some_digit none_left
    · omega
    · rw [leading zero] at several
      exact absurd several (by decide)
    · omega
  rw [readPart, Decimal.digits, written, span]
  dsimp only
  rw [if_neg clear, number]

/-- A hexadecimal group is read up to its end. -/
theorem readGroup_digits {n : Nat} (small : n < 65536) {rest : List Char}
    (stops : Stops Hexadecimal.digit? rest) :
    readGroup (Hexadecimal.digits n ++ rest) = some (n, rest) := by
  obtain ⟨values, written, some_digit, bounded, sum, -⟩ :=
    toDigits_eq_map (by decide : 1 < 16) n
  have short : values.length ≤ 4 := by
    have digits := (Nat.length_toDigits_le_iff (b := 16) (n := n) (k := 4) (by decide)
      (by decide)).2 (by omega)
    rwa [written, List.length_map] at digits
  have span := spanValues_map_digitChar (fun _ => Hexadecimal.digit?_digitChar) bounded stops
  have number : numberOfDigits 16 values = n := sum
  have clear : ¬ (values = [] ∨ 4 < values.length) := by
    rintro (none_left | long)
    · exact some_digit none_left
    · omega
  rw [readGroup, Hexadecimal.digits, written, span]
  dsimp only
  rw [if_neg clear, number]

/-- Where no hexadecimal digit stands there is no group. -/
theorem readGroup_of_stops {rest : List Char} (stops : Stops Hexadecimal.digit? rest) :
    readGroup rest = none := by
  rw [readGroup, spanValues_of_stops stops]
  simp

/-! ## IPv4 addresses -/

/-- A written IPv4 address is read back up to its end. -/
theorem readIpv4_chars (address : Ipv4) {rest : List Char} (stops : Stops Decimal.digit? rest) :
    readIpv4 (address.chars ++ rest) = some (address, rest) := by
  have point (more : List Char) : Stops Decimal.digit? ('.' :: more) :=
    stops_cons (by decide) more
  simp only [readIpv4, Ipv4.chars, List.append_assoc, List.cons_append,
    readPart_digits (address.part_lt _) (point _), readPart_digits (address.part_lt _) stops,
    readExpected, if_true, bind, Option.bind, pure, Ipv4.ofParts_part]

/-- A part that was read leaves an end of the text. -/
theorem suffix_of_readPart {text rest : List Char} {part : UInt8}
    (read : readPart text = some (part, rest)) : rest <:+ text := by
  have suffix := spanValues_suffix Decimal.digit? text
  unfold readPart at read
  dsimp only at read
  split at read
  · cases read
  · cases read
    exact suffix

/-- Where no decimal digit stands there is no IPv4 address. -/
theorem readIpv4_of_stops {rest : List Char} (stops : Stops Decimal.digit? rest) :
    readIpv4 rest = none := by
  have first : readPart rest = none := by
    rw [readPart, spanValues_of_stops stops]
    simp
  simp [readIpv4, first]

/-- A text without a point does not start with an IPv4 address. -/
theorem readIpv4_eq_none {text : List Char} (plain : '.' ∉ text) : readIpv4 text = none := by
  cases first : readPart text with
  | none => simp [readIpv4, first]
  | some read =>
    obtain ⟨part, rest⟩ := read
    have absent : '.' ∉ rest := fun member => plain ((suffix_of_readPart first).subset member)
    have expected : readExpected '.' rest = none := by
      cases rest with
      | nil => rfl
      | cons c more =>
        rw [readExpected, if_neg]
        rintro rfl
        exact absent List.mem_cons_self
    simp [readIpv4, first, expected]

/-! ## Groups -/

/-- Hexadecimal digits hold no point. -/
theorem point_notMem_digits (n : Nat) : '.' ∉ Hexadecimal.digits n := by
  obtain ⟨values, written, -, bounded, -⟩ := toDigits_eq_map (by decide : 1 < 16) n
  intro member
  rw [Hexadecimal.digits, written] at member
  obtain ⟨value, inside, same⟩ := List.mem_map.1 member
  have digit := Hexadecimal.digit?_digitChar (bounded value inside)
  rw [same] at digit
  cases digit

/-- Groups, each after a colon. -/
def colonGroups (groups : List Nat) : List Char :=
  groups.flatMap fun group => ':' :: Hexadecimal.digits group

/-- The groups after the first follow a colon each. -/
theorem groupsText_cons (group : Nat) (groups : List Nat) :
    Address.groupsText (group :: groups) = Hexadecimal.digits group ++ colonGroups groups := by
  induction groups generalizing group with
  | nil => rw [Address.groupsText, colonGroups, List.flatMap_nil, List.append_nil]
  | cons next groups ih =>
    rw [Address.groupsText, ih next, colonGroups, colonGroups, List.flatMap_cons, List.cons_append]
    exact List.cons_ne_nil next groups

/-- Groups hold no point. -/
theorem point_notMem_colonGroups (groups : List Nat) : '.' ∉ colonGroups groups := by
  intro member
  obtain ⟨group, -, inside⟩ := List.mem_flatMap.1 member
  rcases List.mem_cons.1 inside with colon | digit
  · cases colon
  · exact point_notMem_digits group digit

/-- A place where groups end: the end of the text, or two colons. -/
def GroupsEnd (rest : List Char) : Prop := rest = [] ∨ ∃ more, rest = ':' :: ':' :: more

/-- Where groups end there is no hexadecimal digit. -/
theorem GroupsEnd.stops {rest : List Char} (last : GroupsEnd rest) :
    Stops Hexadecimal.digit? rest := by
  rcases last with rfl | ⟨more, rfl⟩
  · exact stops_nil _
  · exact stops_cons (by decide) _

/-- After a colon, or at the end of groups, there is no hexadecimal digit. -/
theorem stops_colonGroups (groups : List Nat) {rest : List Char} (last : GroupsEnd rest) :
    Stops Hexadecimal.digit? (colonGroups groups ++ rest) := by
  cases groups with
  | nil => exact last.stops
  | cons group groups =>
    rw [colonGroups, List.flatMap_cons, List.cons_append, List.cons_append]
    exact stops_cons (by decide) _

/-- One group is read from a text without a point, before the others. -/
theorem readGroups_group (first : Bool) (limit : Nat) {group : Nat} (small : group < 65536)
    {rest : List Char} (stops : Stops Hexadecimal.digit? rest)
    (plain : '.' ∉ Hexadecimal.digits group ++ rest) :
    readGroups first (limit + 1)
        ((if first then [] else [':']) ++ (Hexadecimal.digits group ++ rest)) =
      { readGroups false limit rest with
        groups := group :: (readGroups false limit rest).groups } := by
  have start : (if first then
      some ((if first then [] else [':']) ++ (Hexadecimal.digits group ++ rest))
      else readExpected ':' ((if first then [] else [':']) ++ (Hexadecimal.digits group ++ rest))) =
      some (Hexadecimal.digits group ++ rest) := by
    cases first
    all_goals rfl
  have dotless : (if limit = 0 then none else readIpv4 (Hexadecimal.digits group ++ rest)) =
      none := by
    rw [readIpv4_eq_none plain, ite_self]
  rw [readGroups, start]
  simp only [dotless, readGroup_digits small stops]

/-- Where groups end no more are read. -/
theorem readGroups_end (first : Bool) (limit : Nat) {rest : List Char} (last : GroupsEnd rest) :
    readGroups first limit rest = { rest } := by
  cases limit with
  | zero => rfl
  | succ limit =>
    rcases last with rfl | ⟨more, rfl⟩
    · cases first
      all_goals cases limit
      all_goals rfl
    · have group (rest : List Char) : readGroup (':' :: rest) = none :=
        readGroup_of_stops (stops_cons (by decide) rest)
      have dotted (rest : List Char) : readIpv4 (':' :: rest) = none :=
        readIpv4_of_stops (stops_cons (by decide) rest)
      cases first with
      | true => simp only [readGroups, if_true, dotted, ite_self, group]
      | false =>
        simp only [readGroups, readExpected, Bool.false_eq_true, if_false, if_true, dotted,
          ite_self, group]

/-- Groups after colons are read up to their end. -/
theorem readGroups_colonGroups {groups : List Nat} {limit : Nat} (fit : groups.length ≤ limit)
    (bounded : ∀ group ∈ groups, group < 65536) {rest : List Char} (last : GroupsEnd rest)
    (plain : '.' ∉ rest) :
    readGroups false limit (colonGroups groups ++ rest) = { groups, rest } := by
  induction groups generalizing limit with
  | nil => exact readGroups_end false limit last
  | cons group groups ih =>
    obtain ⟨limit, rfl⟩ : ∃ less, limit = less + 1 := ⟨limit - 1, by
      rw [List.length_cons] at fit
      omega⟩
    have others := ih (Nat.le_of_succ_le_succ fit) fun other member =>
      bounded other (List.mem_cons_of_mem group member)
    have dotless : '.' ∉ Hexadecimal.digits group ++ (colonGroups groups ++ rest) := by
      simp only [List.mem_append, not_or]
      exact ⟨point_notMem_digits group, point_notMem_colonGroups groups, plain⟩
    have read := readGroups_group false limit (bounded group List.mem_cons_self)
      (stops_colonGroups groups last) dotless
    rw [others] at read
    rw [colonGroups, List.flatMap_cons, List.append_assoc]
    exact read

/-- Written groups are read up to their end. -/
theorem readGroups_groupsText (groups : List Nat) (limit : Nat) (fit : groups.length ≤ limit)
    (bounded : ∀ group ∈ groups, group < 65536) {rest : List Char} (last : GroupsEnd rest)
    (plain : '.' ∉ rest) :
    readGroups true limit (Address.groupsText groups ++ rest) = { groups, rest } := by
  cases groups with
  | nil => exact readGroups_end true limit last
  | cons group groups =>
    obtain ⟨limit, rfl⟩ : ∃ less, limit = less + 1 := ⟨limit - 1, by
      rw [List.length_cons] at fit
      omega⟩
    have others := readGroups_colonGroups (Nat.le_of_succ_le_succ fit) (fun other member =>
      bounded other (List.mem_cons_of_mem group member)) last plain
    have dotless : '.' ∉ Hexadecimal.digits group ++ (colonGroups groups ++ rest) := by
      simp only [List.mem_append, not_or]
      exact ⟨point_notMem_digits group, point_notMem_colonGroups groups, plain⟩
    have read := readGroups_group true limit (bounded group List.mem_cons_self)
      (stops_colonGroups groups last) dotless
    rw [others] at read
    rw [groupsText_cons, List.append_assoc]
    exact read

/-! ## The left-out run -/

/-- A run of zero groups: its position and its length. -/
def ZeroRun (groups : List Nat) (run : Nat × Nat) : Prop :=
  run.1 + run.2 ≤ groups.length ∧ (groups.drop run.1).take run.2 = List.replicate run.2 0

/-- The zeros at the front of a list are zeros. -/
theorem take_leadingZeros (groups : List Nat) :
    groups.take (Address.leadingZeros groups) =
      List.replicate (Address.leadingZeros groups) 0 := by
  induction groups with
  | nil => rfl
  | cons group groups ih =>
    by_cases zero : group = 0
    · have count : Address.leadingZeros (group :: groups) = Address.leadingZeros groups + 1 := by
        simp [Address.leadingZeros, zero]
      rw [count, List.take_succ_cons, ih, zero, List.replicate_succ]
    · have count : Address.leadingZeros (group :: groups) = 0 := by
        simp [Address.leadingZeros, zero]
      rw [count, List.take_zero, List.replicate_zero]

/-- The run that the writer leaves out consists of zeros. -/
theorem zeroRun_longestZeroRun (groups : List Nat) :
    ZeroRun groups (Address.longestZeroRun groups) := by
  apply List.foldlRecOn
  · exact ⟨Nat.zero_le groups.length, rfl⟩
  · intro best run index member
    have inside : index < groups.length := List.mem_range.1 member
    have short : Address.leadingZeros (groups.drop index) ≤ (groups.drop index).length :=
      (List.takeWhile_prefix (· == 0)).length_le
    rw [List.length_drop] at short
    dsimp only
    split
    · refine ⟨?_, take_leadingZeros (groups.drop index)⟩
      dsimp only
      omega
    · exact run

/-- A list is made up again around a run of zeros. -/
theorem ZeroRun.split {groups : List Nat} {run : Nat × Nat} (zeros : ZeroRun groups run) :
    groups.take run.1 ++ List.replicate run.2 0 ++ groups.drop (run.1 + run.2) = groups := by
  rw [← zeros.2, List.append_assoc, ← List.drop_drop, List.take_append_drop,
    List.take_append_drop]

/-! ## IPv6 addresses -/

/-- Eight written groups are read back. -/
theorem readIpv6_groups (address : Address) :
    readIpv6 (Address.groupsText address.groups) = some (address, []) := by
  have read := readGroups_groupsText address.groups 8 (Nat.le_of_eq address.length_groups)
    (fun _ => Address.lt_of_mem_groups) (.inl rfl) List.not_mem_nil
  rw [List.append_nil] at read
  rw [readIpv6, read]
  simp only [address.length_groups, if_true, address.ofGroups_groups]

/-- Groups with two colons in place of a run of zeros are read back. -/
theorem readIpv6_compressed (address : Address) {run : Nat × Nat}
    (zeros : ZeroRun address.groups run) (several : 1 < run.2) :
    readIpv6 (Address.groupsText (address.groups.take run.1) ++ ':' :: ':' ::
      Address.groupsText (address.groups.drop (run.1 + run.2))) = some (address, []) := by
  have whole := zeros.split
  have inside : run.1 + run.2 ≤ 8 := address.length_groups ▸ zeros.1
  have front : (address.groups.take run.1).length = run.1 := by
    rw [List.length_take, address.length_groups]
    omega
  have back : (address.groups.drop (run.1 + run.2)).length = 8 - (run.1 + run.2) := by
    rw [List.length_drop, address.length_groups]
  have plain : '.' ∉ Address.groupsText (address.groups.drop (run.1 + run.2)) := by
    cases address.groups.drop (run.1 + run.2) with
    | nil => exact List.not_mem_nil
    | cons group groups =>
      rw [groupsText_cons, List.mem_append, not_or]
      exact ⟨point_notMem_digits group, point_notMem_colonGroups groups⟩
  have colons : GroupsEnd
      (':' :: ':' :: Address.groupsText (address.groups.drop (run.1 + run.2))) := .inr ⟨_, rfl⟩
  have head := readGroups_groupsText (address.groups.take run.1) 8 (by omega)
    (fun _ member => Address.lt_of_mem_groups (List.mem_of_mem_take member)) colons
    (by simp [plain])
  have tail := readGroups_groupsText (address.groups.drop (run.1 + run.2)) (7 - run.1) (by omega)
    (fun _ member => Address.lt_of_mem_groups (List.mem_of_mem_drop member)) (.inl rfl)
    List.not_mem_nil
  have gap : 8 - run.1 - (8 - (run.1 + run.2)) = run.2 := by omega
  have short : ¬ run.1 = 8 := by omega
  rw [List.append_nil] at tail
  rw [readIpv6, head]
  simp only [front, short, if_false, Bool.false_eq_true, tail, back, gap, whole,
    address.ofGroups_groups]

/-- A mapped form with its IPv4 address at the end is read back. -/
theorem readIpv6_mapped {address : Address} {v4 : Ipv4}
    (mapped : address.unmapped? = some v4) :
    readIpv6 (':' :: ':' :: 'f' :: 'f' :: 'f' :: 'f' :: ':' :: v4.chars) = some (address, []) := by
  have head := readGroups_end true 8
    (.inr ⟨'f' :: 'f' :: 'f' :: 'f' :: ':' :: v4.chars, rfl⟩)
  have written := readIpv4_chars v4 (stops_nil Decimal.digit?)
  rw [List.append_nil] at written
  have parts : readGroups false 6 (':' :: v4.chars) =
      { groups := [v4.part 0 * 256 + v4.part 1, v4.part 2 * 256 + v4.part 3]
        dotted := true, rest := [] } := by
    simp only [readGroups, readExpected, Bool.false_eq_true, if_false, if_true, written,
      show ¬ 5 = 0 by decide]
  have dotless : readIpv4 ('f' :: 'f' :: 'f' :: 'f' :: ':' :: v4.chars) = none :=
    readIpv4_of_stops (stops_cons (by decide) _)
  have mark : readGroup ('f' :: 'f' :: 'f' :: 'f' :: ':' :: v4.chars) =
      some (0xffff, ':' :: v4.chars) :=
    readGroup_digits (n := 0xffff) (by decide) (stops_cons (by decide) v4.chars)
  have tail : readGroups true 7 ('f' :: 'f' :: 'f' :: 'f' :: ':' :: v4.chars) =
      { groups := [0xffff, v4.part 0 * 256 + v4.part 1, v4.part 2 * 256 + v4.part 3]
        dotted := true, rest := [] } := by
    simp only [readGroups.eq_def true 7, if_true, dotless, ite_self, mark, parts]
  rw [readIpv6, head]
  simp only [List.length_nil, show ¬ 0 = 8 by decide, Bool.false_eq_true, if_false, Nat.sub_zero,
    tail]
  have groups := Address.groups_of_unmapped? mapped
  rw [← address.ofGroups_groups, groups]
  rfl

/-- A written address is read back. -/
theorem Address.parse?_chars (address : Address) : Address.parse? address.chars = some address := by
  unfold Address.chars
  split
  case h_1 v4 mapped =>
    exact congrArg whole? (readIpv6_mapped mapped)
  case h_2 =>
    dsimp only
    split
    case isTrue several =>
      exact congrArg whole? (readIpv6_compressed address (zeroRun_longestZeroRun _) several)
    case isFalse => exact congrArg whole? (readIpv6_groups address)

end FlowEnrichment

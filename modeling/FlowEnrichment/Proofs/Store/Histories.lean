import FlowEnrichment.Proofs.Store.Loading

/-!
# Stores and their histories

A history is the list of operations that were done on a store. What is under a key after it can be
told without running it (`Store.Recorded`): the entry of the last operation that wrote the key, if
no replacement came after it and no deletion met it with an access clock that was too old; only
its access clock has moved, to the latest of the times at which the key was read since.

One operation does to the entry under a key what it adds to that account
(`Store.find?_apply_eq_some_iff`, `Store.recorded_append_iff`), so the two agree over every
history (`Store.find?_after_eq_some_iff`).
-/
namespace FlowEnrichment.Store

variable {κ ν : Type} [DecidableEq κ]

/-! ## Entries -/

/-- The entry of a key is the one that bears it. -/
theorem find?_eq_some_iff {store : Store κ ν} {key : κ} {entry : StoreEntry κ ν} :
    store.find? key = some entry ↔ entry ∈ store.entries ∧ entry.key = key := by
  constructor
  · intro found
    exact ⟨List.mem_of_find?_eq_some found, by simpa using List.find?_some found⟩
  · rintro ⟨member, rfl⟩
    have some_entry : (store.find? entry.key).isSome :=
      List.find?_isSome.2 ⟨entry, member, decide_eq_true rfl⟩
    obtain ⟨first, found⟩ := Option.isSome_iff_exists.1 some_entry
    have same_key : first.key = entry.key := by simpa using List.find?_some found
    have same : first = entry :=
      List.inj_on_of_nodup_map store.distinct (List.mem_of_find?_eq_some found) member same_key
    exact same ▸ found

/-- Reading moves the access clock of the key that is read. -/
theorem find?_get (store : Store κ ν) (now : Timestamp) (other key : κ) :
    (store.get now other).1.find? key =
      if other = key then (store.find? key).map (touch now) else store.find? key := by
  unfold get
  split
  case h_1 entry found =>
    have named : entry.key = other := (find?_eq_some_iff.1 found).2
    rw [find?_insert]
    by_cases own : other = key
    · subst own
      rw [if_pos rfl, found, Option.map_some]
      exact if_pos named
    · rw [if_neg own]
      exact if_neg (named ▸ own)
  case h_2 absent =>
    by_cases own : other = key
    · subst own
      rw [if_pos rfl, absent, Option.map_none]
    · rw [if_neg own]

/-- What was accessed late enough stays when entries are deleted. -/
theorem find?_deleteAccessedBefore {store : Store κ ν} {before : Timestamp} {key : κ}
    {entry : StoreEntry κ ν} :
    (store.deleteAccessedBefore before).1.find? key = some entry ↔
      store.find? key = some entry ∧ before.word ≤ entry.lastAccess := by
  simp only [find?_eq_some_iff, deleteAccessedBefore, filter, List.mem_filter, decide_eq_true_eq]
  exact and_right_comm

/-- The last entry of a key is found of those that came from outside. -/
theorem find?_ofStored (entries : List (StoredEntry κ ν)) (key : κ) :
    (ofStored entries).find? key =
      (entries.reverse.find? fun entry => entry.key = key).map StoredEntry.entry := by
  rw [ofStored, find?_ofEntries, ← List.map_reverse, List.find?_map]
  rfl

/-! ## Operations -/

/-- An operation on a store. -/
inductive Operation (κ ν : Type) where
  /-- Writes a value. -/
  | put (now : Timestamp) (key : κ) (value : ν)
  /-- Reads a value. -/
  | get (now : Timestamp) (key : κ)
  /-- Deletes entries. -/
  | deleteAccessedBefore (before : Timestamp)
  /-- Lists values. -/
  | updatedBefore (before : Timestamp)
  /-- Replaces all entries. -/
  | replace (entries : List (StoredEntry κ ν))

namespace Operation

/-- The store after an operation. -/
def apply (store : Store κ ν) : Operation κ ν → Store κ ν
  | put now key value => store.put now key value
  | get now key => (store.get now key).1
  | deleteAccessedBefore before => (store.deleteAccessedBefore before).1
  | updatedBefore _ => store
  | replace entries => ofStored entries

/-- The entry that an operation writes under a key, with both clocks. Of several for the key a
replacement brings the last. -/
def written? (key : κ) : Operation κ ν → Option (StoreEntry κ ν)
  | put now other value => if other = key then some ⟨other, value, now.word, now.word⟩ else none
  | replace entries =>
    (entries.reverse.find? fun entry => entry.key = key).map StoredEntry.entry
  | _ => none

/-- Nothing is left under a key of what was there before the operation. -/
def Overwrites (key : κ) : Operation κ ν → Prop
  | put _ other _ => other = key
  | replace _ => True
  | _ => False

/-- An operation leaves an entry under a key: it neither overwrites nor deletes it. -/
def Spares (operation : Operation κ ν) (key : κ) (entry : StoreEntry κ ν) : Prop :=
  ¬ operation.Overwrites key ∧
    ∀ before, operation = .deleteAccessedBefore before → before.word ≤ entry.lastAccess

/-- The time at which an operation reads a key. -/
def read? (key : κ) : Operation κ ν → Option UInt64
  | get now other => if other = key then some now.word else none
  | _ => none

end Operation

/-- The store after a history that starts without entries. -/
def after (history : List (Operation κ ν)) : Store κ ν :=
  history.foldl (fun store operation => operation.apply store) empty

/-! ## What a history says -/

/-- An access clock after operations: the latest of where it stood and the times of reading. -/
def accessed (key : κ) (access : UInt64) (operations : List (Operation κ ν)) : UInt64 :=
  (operations.filterMap (Operation.read? key)).foldl max access

/-- An entry after operations, all but the access clock being as it was written. -/
def aged (written : StoreEntry κ ν) (key : κ) (operations : List (Operation κ ν)) :
    StoreEntry κ ν :=
  { written with lastAccess := accessed key written.lastAccess operations }

/-- An entry that was written under a key has not been removed since. -/
structure Standing (written : StoreEntry κ ν) (key : κ) (since : List (Operation κ ν)) : Prop where
  /-- The key was not written again, and not all entries were replaced. -/
  last : ∀ operation ∈ since, ¬ operation.Overwrites key
  /-- Whenever entries were deleted the entry had been accessed late enough. -/
  spared : ∀ earlier before later,
    since = earlier ++ .deleteAccessedBefore before :: later →
      before.word ≤ accessed key written.lastAccess earlier

/-- The entry under a key that a history tells of: the one that was written last and has not been
removed since, with its access clock at the latest time of reading. -/
def Recorded (history : List (Operation κ ν)) (key : κ) (entry : StoreEntry κ ν) : Prop :=
  ∃ before operation since written, history = before ++ operation :: since ∧
    operation.written? key = some written ∧ Standing written key since ∧
    entry = aged written key since

variable {history since : List (Operation κ ν)} {operation : Operation κ ν} {key : κ}
  {store : Store κ ν} {entry written : StoreEntry κ ν}

/-- An entry ages on. -/
theorem aged_append (written : StoreEntry κ ν) (key : κ) (operations more : List (Operation κ ν)) :
    aged written key (operations ++ more) = aged (aged written key operations) key more := by
  simp only [aged, accessed, List.filterMap_append, List.foldl_append]

/-- An operation that does not read a key leaves the clock where it is. -/
theorem aged_of_unread (entry : StoreEntry κ ν) (unread : operation.read? key = none) :
    aged entry key [operation] = entry := by
  rw [aged, accessed, List.filterMap_cons_none unread]
  rfl

/-- Reading moves the clock. -/
theorem aged_get (entry : StoreEntry κ ν) (now : Timestamp) (key : κ) :
    aged entry key [.get now key] = touch now entry := by
  simp [aged, accessed, Operation.read?, touch]

/-- What is left of an entry that an operation neither writes, reads nor deletes. -/
theorem spared_unread_iff {found : Option (StoreEntry κ ν)} (unread : operation.read? key = none)
    (spares : ∀ entry, operation.Spares key entry) (unwritten : operation.written? key = none) :
    found = some entry ↔ operation.written? key = some entry ∨
      ∃ earlier, found = some earlier ∧ operation.Spares key earlier ∧
        entry = aged earlier key [operation] := by
  simp [unwritten, spares, aged_of_unread _ unread]

omit [DecidableEq κ] in
/-- An operation of a history that goes on by one is that one or one before it. -/
theorem split_append_singleton {before : List (Operation κ ν)} {first : Operation κ ν}
    (split : history ++ [operation] = before ++ first :: since) :
    (since = [] ∧ before = history ∧ first = operation) ∨
      ∃ rest, since = rest ++ [operation] ∧ history = before ++ first :: rest := by
  rcases List.eq_nil_or_concat since with rfl | ⟨rest, last, rfl⟩
  · obtain ⟨rfl, same⟩ := List.append_inj' split rfl
    rw [List.cons.injEq] at same
    exact .inl ⟨rfl, rfl, same.1.symm⟩
  · rw [List.concat_eq_append, ← List.cons_append, ← List.append_assoc] at split
    obtain ⟨rfl, same⟩ := List.append_inj' split rfl
    obtain ⟨rfl, -⟩ := List.cons.inj same
    exact .inr ⟨rest, List.concat_eq_append, rfl⟩

/-- An entry still stands after one more operation if that spares it as it was. -/
theorem standing_append_iff :
    Standing written key (since ++ [operation]) ↔
      Standing written key since ∧ operation.Spares key (aged written key since) := by
  constructor
  · intro standing
    refine ⟨⟨fun other among => ?_, fun earlier before later split => ?_⟩, ?_, ?_⟩
    · exact standing.last other (List.mem_append_left _ among)
    · exact standing.spared earlier before (later ++ [operation]) (by simp [split])
    · exact standing.last operation (by simp)
    · rintro before rfl
      exact standing.spared since before [] rfl
  · rintro ⟨standing, keeps, spares⟩
    refine ⟨fun other among => ?_, fun earlier before later split => ?_⟩
    · rcases List.mem_append.1 among with early | late
      · exact standing.last other early
      · rw [List.mem_singleton.1 late]
        exact keeps
    · rcases split_append_singleton split with ⟨-, rfl, deletes⟩ | ⟨rest, -, inside⟩
      · exact spares before deletes.symm
      · exact standing.spared earlier before rest inside

/-- One more operation writes an entry itself, or leaves the one that was told of before. -/
theorem recorded_append_iff :
    Recorded (history ++ [operation]) key entry ↔
      operation.written? key = some entry ∨
        ∃ earlier, Recorded history key earlier ∧ operation.Spares key earlier ∧
          entry = aged earlier key [operation] := by
  constructor
  · rintro ⟨before, first, since, written, split, wrote, standing, rfl⟩
    rcases split_append_singleton split with ⟨rfl, -, rfl⟩ | ⟨since, rfl, rfl⟩
    · exact .inl wrote
    · obtain ⟨standing, spares⟩ := standing_append_iff.1 standing
      refine .inr ⟨_, ⟨before, first, since, written, rfl, wrote, standing, rfl⟩, spares, ?_⟩
      exact aged_append _ _ _ _
  · rintro (wrote | ⟨_, ⟨before, first, since, written, rfl, wrote, standing, rfl⟩, spares, rfl⟩)
    · refine ⟨history, operation, [], entry, rfl, wrote, ⟨nofun, ?_⟩, rfl⟩
      intro earlier before later split
      simp at split
    · refine ⟨before, first, since ++ [operation], written, by simp, wrote,
        standing_append_iff.2 ⟨standing, spares⟩, ?_⟩
      exact (aged_append _ _ _ _).symm

/-! ## What a store holds -/

/-- An operation writes an entry itself, or leaves the one that was there. -/
theorem find?_apply_eq_some_iff :
    (operation.apply store).find? key = some entry ↔
      operation.written? key = some entry ∨
        ∃ earlier, store.find? key = some earlier ∧ operation.Spares key earlier ∧
          entry = aged earlier key [operation] := by
  cases operation with
  | put now other value =>
    rw [Operation.apply, put, find?_insert]
    by_cases own : other = key
    · simp [Operation.written?, Operation.Spares, Operation.Overwrites, own]
    · rw [if_neg own]
      exact spared_unread_iff rfl (fun _ => ⟨own, nofun⟩) (if_neg own)
  | get now other =>
    rw [Operation.apply, find?_get]
    by_cases own : other = key
    · subst own
      simp [Operation.written?, Operation.Spares, Operation.Overwrites, aged_get, @eq_comm _ entry]
    · rw [if_neg own]
      exact spared_unread_iff (if_neg own) (fun _ => ⟨id, nofun⟩) rfl
  | deleteAccessedBefore before =>
    have unread (earlier : StoreEntry κ ν) :
        aged earlier key [.deleteAccessedBefore before] = earlier := aged_of_unread earlier rfl
    rw [Operation.apply, find?_deleteAccessedBefore]
    simp [Operation.written?, Operation.Spares, Operation.Overwrites, unread]
  | updatedBefore before => exact spared_unread_iff rfl (fun _ => ⟨id, nofun⟩) rfl
  | replace entries =>
    rw [Operation.apply, find?_ofStored]
    simp [Operation.written?, Operation.Spares, Operation.Overwrites]

/-- The last operation of a history is done on the store after those before it. -/
theorem after_append (history : List (Operation κ ν)) (operation : Operation κ ν) :
    after (history ++ [operation]) = operation.apply (after history) := by
  rw [after, List.foldl_append]
  rfl

/-- After every history, what is found under a key is what the history tells of. -/
theorem find?_after_eq_some_iff (history : List (Operation κ ν)) :
    (after history).find? key = some entry ↔ Recorded history key entry := by
  induction history using List.reverseRecOn generalizing entry with
  | nil =>
    constructor
    · exact nofun
    · rintro ⟨before, operation, since, written, split, -⟩
      simp at split
  | append_singleton history operation ih =>
    rw [recorded_append_iff, after_append]
    refine find?_apply_eq_some_iff.trans (or_congr_right (exists_congr fun earlier => ?_))
    exact and_congr_left' ih

/-! ## What operations answer -/

/-- What is read is the value under the key, and reading an absent key changes nothing. -/
theorem get_eq (store : Store κ ν) (now : Timestamp) (key : κ) :
    (store.get now key).2 = (store.find? key).map StoreEntry.value ∧
      (store.find? key = none → (store.get now key).1 = store) := by
  unfold get
  cases found : store.find? key with
  | some entry => exact ⟨rfl, nofun⟩
  | none => exact ⟨rfl, fun _ => rfl⟩

omit [DecidableEq κ] in
/-- As many entries are deleted as were last accessed before the time. -/
theorem deleteAccessedBefore_count (store : Store κ ν) (before : Timestamp) :
    (store.deleteAccessedBefore before).2 =
      store.entries.countP fun entry => entry.lastAccess < before.word := by
  have parts : store.size =
      (store.entries.countP fun entry => entry.lastAccess < before.word) +
        store.entries.countP fun entry => ¬ decide (entry.lastAccess < before.word) :=
    List.length_eq_countP_add_countP _
  have kept : (store.filter fun entry => before.word ≤ entry.lastAccess).size =
      store.entries.countP fun entry => ¬ decide (entry.lastAccess < before.word) := by
    simp [size, filter, List.countP_eq_length_filter, UInt64.not_lt]
  show store.size - (store.filter fun entry => before.word ≤ entry.lastAccess).size = _
  omega

/-- Every entry that was last updated before the time is listed once, under its key. -/
theorem updatedBefore_lists (store : Store κ ν) (before : Timestamp) :
    ((store.updatedBefore before).map Prod.fst).Nodup ∧
      ∀ key value, (key, value) ∈ store.updatedBefore before ↔
        ∃ entry, store.find? key = some entry ∧ entry.value = value ∧
          entry.lastUpdate < before.word := by
  constructor
  · rw [updatedBefore, List.map_map]
    exact store.distinct.sublist (List.Sublist.map _ List.filter_sublist)
  · intro key value
    simp only [updatedBefore, List.mem_map, List.mem_filter, decide_eq_true_eq, Prod.mk.injEq,
      find?_eq_some_iff]
    constructor
    · rintro ⟨entry, ⟨member, early⟩, named, same⟩
      exact ⟨entry, ⟨member, named⟩, same, early⟩
    · rintro ⟨entry, ⟨member, named⟩, same, early⟩
      exact ⟨entry, ⟨member, early⟩, named, same⟩

/-- The entries of a store make up that store. -/
theorem ofStored_stored (store : Store κ ν) : ofStored store.stored = store := by
  rw [ofStored, stored, map_entry_stored, ofEntries_entries]

/-- A store is after every history what the history tells. What is under a key is told by the
operations, and so is what is read; deleting removes the entries that were last accessed before a
time and counts them; those last updated before a time are listed once each; and the entries of a
store replace all others. -/
theorem matches_history (history : List (Operation κ ν)) :
    (∀ key entry, (after history).find? key = some entry ↔ Recorded history key entry) ∧
    (∀ now key,
      ((after history).get now key).2 = ((after history).find? key).map StoreEntry.value ∧
      ((after history).find? key = none → after (history ++ [.get now key]) = after history)) ∧
    (∀ before,
      (∀ key entry,
        (after (history ++ [.deleteAccessedBefore before])).find? key = some entry ↔
          (after history).find? key = some entry ∧ ¬ entry.lastAccess < before.word) ∧
      ((after history).deleteAccessedBefore before).2 =
        (after history).entries.countP fun entry => entry.lastAccess < before.word) ∧
    (∀ before,
      (((after history).updatedBefore before).map Prod.fst).Nodup ∧
      (∀ key value, (key, value) ∈ (after history).updatedBefore before ↔
        ∃ entry, (after history).find? key = some entry ∧ entry.value = value ∧
          entry.lastUpdate < before.word) ∧
      after (history ++ [.updatedBefore before]) = after history) ∧
    ∀ other : Store κ ν, after (history ++ [.replace other.stored]) = other := by
  simp only [after_append]
  refine ⟨fun key entry => find?_after_eq_some_iff history, fun now key => get_eq _ now key,
    fun before => ⟨fun key entry => ?_, deleteAccessedBefore_count _ before⟩, fun before => ?_,
    fun other => ofStored_stored other⟩
  · rw [UInt64.not_lt]
    exact find?_deleteAccessedBefore
  · obtain ⟨once, listed⟩ := updatedBefore_lists (after history) before
    exact ⟨once, listed, rfl⟩

/-- A value that was read at an earlier time keeps its clock, and a deletion that comes too late
for another one removes only that. -/
example :
    (after [.put ⟨5⟩ 'a' true, .put ⟨2⟩ 'b' true, .get ⟨3⟩ 'a',
      .deleteAccessedBefore ⟨5⟩]).entries = [⟨'a', true, 5, 5⟩] := by
  decide

end FlowEnrichment.Store

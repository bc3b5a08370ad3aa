import FlowEnrichment.Proofs.FileTree
import Mathlib.Data.List.Basic

/-!
# Paths and places

A place is told by the names of its path: all but the last lead to its directory. So a path with
more characters at its end names another place: one in the same directory under a longer name, or
one inside of the place if the path ends with a slash (`location_append_ne`). A path without a way
back leads one step down for each of its names (`Reaches.eq`), and its parent has all of them but
the last (`Path.parts_parent`). What is found at a path depends on nothing but its place and what
is there.
-/
namespace FlowEnrichment

namespace Path

/-- Splitting at slashes is splitting at a character. -/
theorem splitSlashes_eq_splitOn (chars : List Char) : splitSlashes chars = chars.splitOn '/' := by
  induction chars with
  | nil => rfl
  | cons c chars ih =>
    rw [splitSlashes, ih, List.splitOn_cons_eq_if_modifyHead]
    cases rest : chars.splitOn '/' with
    | nil => exact absurd rest (List.splitOn_ne_nil _ _)
    | cons first others => simp

/-- Characters without a slash at the end of a path belong to what comes after its last slash. -/
theorem splitSlashes_append (chars : List Char) {suffix : List Char} (plain : '/' ∉ suffix) :
    ∃ before last, splitSlashes chars = before ++ [last] ∧
      splitSlashes (chars ++ suffix) = before ++ [last ++ suffix] := by
  induction chars with
  | nil =>
    refine ⟨[], [], rfl, ?_⟩
    rw [List.nil_append, splitSlashes_eq_splitOn, List.splitOn_eq_singleton plain]
    rfl
  | cons c chars ih =>
    obtain ⟨before, last, split, appended⟩ := ih
    rw [List.cons_append, splitSlashes, splitSlashes, split, appended]
    by_cases slash : c = '/'
    · cases before with
      | nil => exact ⟨[[]], last, by simp [slash], by simp [slash]⟩
      | cons first before => exact ⟨[] :: first :: before, last, by simp [slash], by simp [slash]⟩
    · cases before with
      | nil => exact ⟨[], c :: last, by simp [slash], by simp [slash]⟩
      | cons first before => exact ⟨(c :: first) :: before, last, by simp [slash], by simp [slash]⟩

/-- Characters without a slash at the end of a path are a name of their own after a slash, and
otherwise make its last name longer. -/
theorem names_append (path : String) {suffix : String} (plain : '/' ∉ suffix.toList)
    (some_char : suffix ≠ "") :
    (parts (path ++ suffix)).names = (parts path).names ++ [suffix] ∨
      ∃ before last, (parts path).names = before ++ [last] ∧
        (parts (path ++ suffix)).names = before ++ [last ++ suffix] := by
  obtain ⟨before, last, split, appended⟩ := splitSlashes_append path.toList plain
  have some_chars : suffix.toList ≠ [] := by simpa using some_char
  simp only [parts, String.toList_append, split, appended, List.filter_append, List.map_append]
  by_cases ended : last = []
  · exact .inl (by simp [ended, some_chars])
  · refine .inr ⟨(before.filter (· ≠ [])).map String.ofList, String.ofList last, ?_, ?_⟩
    · simp [ended]
    · simp [ended, String.ofList_append, String.ofList_toList]

/-- Characters at the end of a path do not change where it starts. -/
theorem absolute_append (path : String) {suffix : String} (plain : '/' ∉ suffix.toList) :
    (parts (path ++ suffix)).absolute = (parts path).absolute := by
  have apart : suffix.toList.head? ≠ some '/' := fun slash =>
    plain (List.mem_of_mem_head? slash)
  simp only [parts, String.toList_append]
  cases path.toList with
  | nil => simp [apart]
  | cons c chars => rfl

/-! ## Parents -/

/-- No slash is left in what is between slashes. -/
theorem not_mem_of_mem_splitSlashes {chars piece : List Char}
    (among : piece ∈ splitSlashes chars) : '/' ∉ piece := by
  induction chars generalizing piece with
  | nil =>
    rw [splitSlashes, List.mem_singleton] at among
    simp [among]
  | cons c chars ih =>
    rw [splitSlashes] at among
    split at among
    case h_1 none_left =>
      rw [splitSlashes_eq_splitOn] at none_left
      exact absurd none_left (List.splitOn_ne_nil _ _)
    case h_2 first others rest =>
      rw [rest] at ih
      split at among
      · rcases List.mem_cons.1 among with rfl | old
        · exact List.not_mem_nil
        · exact ih old
      · rename_i apart
        rcases List.mem_cons.1 among with rfl | old
        · rw [List.mem_cons, not_or]
          exact ⟨Ne.symm apart, ih List.mem_cons_self⟩
        · exact ih (List.mem_cons_of_mem _ old)

/-- A name has characters, and no slash is one of them. -/
theorem plain_of_mem_names {path name : String} (among : name ∈ (parts path).names) :
    name ≠ "" ∧ '/' ∉ name.toList := by
  obtain ⟨piece, found, rfl⟩ := List.mem_map.1 among
  obtain ⟨among, some_char⟩ := List.mem_filter.1 found
  rw [String.toList_ofList]
  refine ⟨?_, not_mem_of_mem_splitSlashes among⟩
  simpa [← String.toList_inj] using some_char

/-- Names that are put together with slashes between them are the names of the path. -/
theorem names_intercalate {names : List String}
    (plain : ∀ name ∈ names, name ≠ "" ∧ '/' ∉ name.toList) :
    (parts ("/".intercalate names)).names = names ∧
      (parts ("/" ++ "/".intercalate names)).names = names := by
  have split : (splitSlashes ("/".intercalate names).toList).filter (· ≠ []) =
      names.map String.toList := by
    rw [splitSlashes_eq_splitOn, String.toList_intercalate]
    cases names with
    | nil => rfl
    | cons name names =>
      have apart : ∀ piece ∈ (name :: names).map String.toList, '/' ∉ piece := by
        simpa using ⟨(plain name List.mem_cons_self).2,
          fun other among => (plain other (List.mem_cons_of_mem _ among)).2⟩
      rw [show "/".toList = ['/'] from rfl,
        List.splitOn_intercalate '/' apart (List.cons_ne_nil _ _), List.filter_eq_self]
      intro piece among
      obtain ⟨other, held, rfl⟩ := List.mem_map.1 among
      simpa using (plain other held).1
  have rooted : (splitSlashes ("/" ++ "/".intercalate names).toList).filter (· ≠ []) =
      (splitSlashes ("/".intercalate names).toList).filter (· ≠ []) := by
    rw [String.toList_append, show "/".toList = ['/'] from rfl, List.singleton_append,
      splitSlashes_eq_splitOn, splitSlashes_eq_splitOn, List.splitOn_cons_eq_if_modifyHead]
    simp
  have back : (names.map String.toList).map String.ofList = names := by
    simp [Function.comp_def]
  exact ⟨(congrArg _ split).trans back, (congrArg _ (rooted.trans split)).trans back⟩

/-- Names with slashes between them are a path that does not start at the root. -/
theorem absolute_intercalate {names : List String}
    (plain : ∀ name ∈ names, name ≠ "" ∧ '/' ∉ name.toList) :
    (parts ("/".intercalate names)).absolute = false := by
  simp only [parts, String.toList_intercalate]
  cases names with
  | nil => rfl
  | cons name names =>
    obtain ⟨some_char, apart⟩ := plain name List.mem_cons_self
    cases chars : name.toList with
    | nil => exact absurd (String.toList_inj.1 chars) some_char
    | cons c rest =>
      rw [chars, List.mem_cons, not_or] at apart
      cases names <;> simp [chars, Ne.symm apart.1]

/-- The names that count are among all names. -/
theorem places_subset (path : String) : places path ⊆ (parts path).names := by
  unfold places
  dsimp only
  split
  case h_1 => exact List.nil_subset _
  case h_2 first rest split =>
    rw [split]
    intro name among
    rcases List.mem_append.1 among with early | late
    · split at early
      · cases early
      · rw [List.mem_singleton.1 early]
        exact List.mem_cons_self
    · exact List.mem_cons_of_mem _ (List.mem_of_mem_filter late)

/-- The names that lead on: those but single points. -/
def steps (path : String) : List String := (parts path).names.filter (· ≠ ".")

/-- A single point that counts is the first name. -/
theorem steps_eq_places (path : String) :
    steps path = (places path).filter (· ≠ ".") ∧ "." ∉ (places path).tail := by
  unfold steps places
  dsimp only
  cases (parts path).names with
  | nil => exact ⟨rfl, List.not_mem_nil⟩
  | cons first rest =>
    dsimp only
    split
    case isTrue here =>
      refine ⟨by simp [here.1], ?_⟩
      exact fun among => by simpa using List.mem_of_mem_tail among
    case isFalse => exact ⟨by simp [List.filter_cons], by simp⟩

/-- The parent of a path has its names but the last. -/
theorem parts_parent {path parent : String} (taken : parent? path = some parent) :
    (parts parent).absolute = (parts path).absolute ∧
      (parts parent).names = (places path).dropLast ∧ places path ≠ [] := by
  have plain : ∀ name ∈ (places path).dropLast, name ≠ "" ∧ '/' ∉ name.toList := fun name among =>
    plain_of_mem_names (places_subset path (List.dropLast_subset _ among))
  unfold parent? at taken
  dsimp only at taken
  split at taken
  case h_1 => cases taken
  case h_2 some_name =>
    cases taken
    split
    case isTrue absolute =>
      refine ⟨?_, (names_intercalate plain).2, some_name⟩
      rw [absolute, parts]
      simp
    case isFalse relative =>
      refine ⟨?_, (names_intercalate plain).1, some_name⟩
      rw [absolute_intercalate plain, Bool.eq_false_iff.2 relative]

end Path

namespace FileTree

variable {tree before between after : FileTree} {path : String}

/-! ## Walks -/

/-- Names lead on from where the names before them have led to. -/
theorem walk_append (tree : FileTree) (here : Location) (names more : List String) :
    tree.walk here (names ++ more) =
      (tree.walk here names).bind fun there => tree.walk there more := by
  induction names generalizing here with
  | nil => rfl
  | cons name names ih =>
    rw [List.cons_append, walk, walk]
    split
    · exact ih here
    · split
      · exact ih _
      · split
        · rfl
        · split
          · rfl
          · rfl
          · exact ih _

/-- A name that stands for itself leads one step down. -/
theorem walk_singleton {here there : Location} {name : String} (plain : name ≠ "." ∧ name ≠ "..")
    (led : tree.walk here [name] = .ok there) : there = here ++ [name] := by
  rw [walk, if_neg plain.1, if_neg plain.2] at led
  split at led
  · cases led
  · split at led
    · cases led
    · cases led
    · rw [walk] at led
      cases led
      rfl

/-- Without a way back every name but a single point leads one step down. -/
theorem walk_eq_ok {here there : Location} {names : List String} (onward : ".." ∉ names)
    (led : tree.walk here names = .ok there) : there = here ++ names.filter (· ≠ ".") := by
  induction names generalizing here with
  | nil =>
    cases led
    simp
  | cons name names ih =>
    rw [List.mem_cons, not_or] at onward
    rw [walk] at led
    split at led
    case isTrue point =>
      rw [ih onward.2 led]
      simp [point]
    case isFalse point =>
      rw [if_neg (Ne.symm onward.1)] at led
      split at led
      · cases led
      split at led
      · cases led
      · cases led
      · rw [ih onward.2 led]
        simp [point]

/-- No walk ends at a directory that is in the way. -/
theorem walk_ne_isADirectory (tree : FileTree) (here : Location) (names : List String) :
    tree.walk here names ≠ .error .isADirectory := by
  induction names generalizing here with
  | nil => rintro ⟨⟩
  | cons name names ih =>
    rw [walk]
    split
    · exact ih here
    · split
      · exact ih _
      · split
        · rintro ⟨⟩
        · split
          · rintro ⟨⟩
          · rintro ⟨⟩
          · exact ih _

/-! ## Places -/

/-- Where a path starts. -/
def origin (tree : FileTree) (path : String) : Location :=
  if (Path.parts path).absolute then [] else tree.working

/-- All names of a path but the last lead to the directory of its place. -/
theorem place_eq_ok {place : Place} (named : tree.place path = .ok place) :
    ∃ names, (Path.parts path).names = names ++ [place.name] ∧
      tree.walk (tree.origin path) names = .ok place.parent := by
  unfold FileTree.place at named
  simp only [bind, Except.bind, pure, Except.pure] at named
  split at named
  · cases named
  split at named
  · cases named
  split at named
  case h_1 => cases named
  case h_2 name last =>
    split at named
    case h_1 => cases named
    case h_2 parent led =>
      split at named
      · cases named
      · cases named
        exact ⟨_, (List.dropLast_append_getLast? name last).symm, led⟩

/-- Only the root is no place and yet a directory. -/
theorem place_eq_isADirectory_iff : tree.place path = .error .isADirectory ↔
    ¬ path.toList.contains '\x00' = true ∧ ¬ maxPath < path.utf8ByteSize ∧
      (Path.parts path).names = [] ∧ (Path.parts path).absolute = true := by
  unfold FileTree.place
  simp only [bind, Except.bind, pure, Except.pure]
  split
  · simp_all
  split
  · simp_all
  split
  case h_1 none_last =>
    have no_names := List.getLast?_eq_none_iff.1 none_last
    cases absolute : (Path.parts path).absolute <;> simp_all
  case h_2 name last =>
    have some_name : (Path.parts path).names ≠ [] := by
      intro no_names
      simp [no_names] at last
    constructor
    · intro failed
      split at failed
      case h_1 fault stopped =>
        cases failed
        exact absurd stopped (walk_ne_isADirectory _ _ _)
      case h_2 =>
        split at failed <;> cases failed
    · intro root
      exact absurd root.2.2.1 some_name

/-- A path with more characters at its end names another place. -/
theorem location_append_ne {suffix : String} {place longer : Place} (plain : '/' ∉ suffix.toList)
    (some_char : suffix ≠ "") (named : tree.place path = .ok place)
    (itself : place.isDots = false) (appended : tree.place (path ++ suffix) = .ok longer) :
    longer.location ≠ place.location := by
  obtain ⟨names, split, led⟩ := place_eq_ok named
  obtain ⟨names', split', led'⟩ := place_eq_ok appended
  have start : tree.origin (path ++ suffix) = tree.origin path := by
    rw [origin, origin, Path.absolute_append path plain]
  rw [start] at led'
  rcases Path.names_append path plain some_char with inside | ⟨first, last, old, new⟩
  · -- The longer path leads through the place.
    rw [inside, split] at split'
    obtain ⟨rfl, -⟩ := List.append_inj' split' rfl
    rw [walk_append, led] at led'
    have down : longer.parent = place.parent ++ [place.name] :=
      walk_singleton (by simpa [Place.isDots] using itself) led'
    intro same
    have lengths := congrArg List.length same
    simp [Place.location, down] at lengths
  · -- Both are in one directory.
    obtain ⟨rfl, shorter⟩ := List.append_inj' (old.symm.trans split) rfl
    obtain ⟨rfl, further⟩ := List.append_inj' (new.symm.trans split') rfl
    intro same
    have names := (List.append_inj' same rfl).2
    rw [← further, ← shorter, List.cons.injEq, String.append_eq_left_iff] at names
    exact some_char names.1

/-! ## What is found at a path -/

/-- A path leads to a location: its directory is there, and its last name stands for itself. -/
def Reaches (tree : FileTree) (path : String) (location : Location) : Prop :=
  ∃ place, tree.place path = .ok place ∧ place.isDots = false ∧ place.location = location

/-- Without a way back the steps of a path lead to its location. -/
theorem Reaches.eq {location : Location} (onward : ".." ∉ (Path.parts path).names)
    (led : tree.Reaches path location) : location = tree.origin path ++ Path.steps path := by
  obtain ⟨place, named, itself, rfl⟩ := led
  obtain ⟨names, split, led⟩ := place_eq_ok named
  rw [split, List.mem_append, not_or] at onward
  have point : place.name ≠ "." := by
    simp [Place.isDots] at itself
    exact itself.1
  rw [Place.location, walk_eq_ok onward.1 led, Path.steps, split]
  simp [point]

/-- Directories that stay twice stay. -/
theorem SameDirectories.trans (first : SameDirectories before between)
    (second : SameDirectories between after) : SameDirectories before after where
  working := second.working.trans first.working
  kept location found := second.kept location (first.kept location found)

/-- A path that led to a location leads there still. -/
theorem SameDirectories.reaches (same : SameDirectories before after) {location : Location}
    (led : before.Reaches path location) : after.Reaches path location := by
  obtain ⟨place, named, itself, there⟩ := led
  exact ⟨place, same.place named, itself, there⟩

/-- The root is a directory in every tree. -/
theorem place_root (root : before.place path = .error .isADirectory) (after : FileTree) :
    after.place path = .error .isADirectory :=
  place_eq_isADirectory_iff.2 (place_eq_isADirectory_iff.1 root)

/-- What is found at a path stays if whatever is at its place does. -/
theorem SameDirectories.found (same : SameDirectories before after)
    (kept : ∀ location node, before.Reaches path location → before.node? location = some node →
      after.node? location = some node) :
    (∀ content, before.read path = .ok content → after.read path = .ok content) ∧
      (before.isDirectory path = true → after.isDirectory path = true) := by
  cases named : before.place path with
  | error fault =>
    constructor
    · intro content read
      obtain ⟨place, found, -⟩ := read_eq_ok read
      rw [named] at found
      cases found
    · intro directory
      rw [isDirectory, named] at directory
      have root : fault = .isADirectory := by simpa using directory
      rw [root] at named
      rw [isDirectory, place_root named after]
      rfl
  | ok place =>
    have still := same.place named
    cases dots : place.isDots with
    | true => simp [FileTree.read, isDirectory, named, still, dots, bind, Except.bind]
    | false =>
      have node := kept place.location
      cases there : before.node? place.location with
      | none => simp [FileTree.read, isDirectory, named, dots, there, bind, Except.bind]
      | some found =>
        have stays := node found ⟨place, named, dots, rfl⟩ there
        simp [FileTree.read, isDirectory, named, still, dots, there, stays, bind, Except.bind]

/-! ## Operations on files -/

/-- Two trees differ at most in what is at the places of some paths, and not in directories. -/
structure Differs (paths : String → Prop) (before after : FileTree) : Prop where
  /-- What was a directory is one. -/
  same : SameDirectories before after
  /-- What has changed is at the place of one of the paths. -/
  nodes : ∀ location, after.node? location = before.node? location ∨
    ∃ path, paths path ∧ after.Reaches path location

variable {paths more : String → Prop} {source target : String} {content : List UInt8}

namespace Differs

/-- A tree does not differ from itself. -/
theorem refl (paths : String → Prop) (tree : FileTree) : Differs paths tree tree :=
  ⟨⟨rfl, fun _ => id⟩, fun _ => .inl rfl⟩

/-- Differences may follow others. -/
theorem trans (first : Differs paths before between) (second : Differs more between after) :
    Differs (fun path => paths path ∨ more path) before after where
  same := first.same.trans second.same
  nodes location := by
    rcases second.nodes location with still | ⟨path, among, led⟩
    · rcases first.nodes location with unchanged | ⟨path, among, led⟩
      · exact .inl (still.trans unchanged)
      · exact .inr ⟨path, .inl among, second.same.reaches led⟩
    · exact .inr ⟨path, .inr among, led⟩

/-- Trees that differ at some paths differ at more paths. -/
theorem mono (differs : Differs paths before after) (wider : ∀ path, paths path → more path) :
    Differs more before after where
  same := differs.same
  nodes location := (differs.nodes location).imp_right fun ⟨path, among, led⟩ =>
    ⟨path, wider path among, led⟩

end Differs

/-- A file that is put at a place makes no other difference. -/
theorem Free.differs {place : Place} (free : Free tree path place) (content : List UInt8) :
    Differs (· = path) tree (tree.set place.location (.file content)) := by
  have same := sameDirectories_set free.fileless (.file content)
  refine ⟨same, fun location => ?_⟩
  rw [node?_set]
  by_cases above : location <+: tree.working
  · exact .inl (by rw [if_pos above, node?_of_above above])
  · rw [if_neg above]
    by_cases there : location = place.location
    · exact .inr ⟨path, rfl, place, same.place free.named, free.plain, there.symm⟩
    · exact .inl (if_neg there)

/-- There is nothing at the place of a file that is removed, and there is no other difference. -/
theorem differs_remove {place : Place} (named : tree.place path = .ok place)
    (itself : place.isDots = false) (fileless : tree.node? place.location ≠ some .directory) :
    Differs (· = path) tree (tree.remove place.location) ∧
      (tree.remove place.location).node? place.location = none := by
  have same := sameDirectories_remove fileless
  refine ⟨⟨same, fun location => ?_⟩, ?_⟩
  · rw [node?_remove]
    by_cases above : location <+: tree.working
    · exact .inl (by rw [if_pos above, node?_of_above above])
    · rw [if_neg above]
      by_cases there : location = place.location
      · exact .inr ⟨path, rfl, place, same.place named, itself, there.symm⟩
      · exact .inl (if_neg there)
  · rw [node?_remove, if_neg fun above => fileless (node?_of_above above), if_pos rfl]

/-- Writing a file makes no other difference. -/
theorem differs_write (written : tree.write path content = .ok after) :
    Differs (· = path) tree after := by
  obtain ⟨place, free, rfl⟩ := write_eq_ok written
  exact free.differs content

/-- There is nothing at a path whose place is empty. -/
theorem exists?_eq_false {place : Place} (named : tree.place path = .ok place)
    (itself : place.isDots = false) (empty : tree.node? place.location = none) :
    tree.exists? path = false := by
  simp [exists?, named, itself, empty]

/-- A file that was written can be removed again; then it is gone, and nothing else. -/
theorem removeFile_of_write {written : FileTree}
    (wrote : tree.write path content = .ok written) :
    ∃ removed, written.removeFile path = .ok removed ∧ removed.exists? path = false ∧
      Differs (· = path) tree removed := by
  have apart := differs_write wrote
  obtain ⟨place, free, rfl⟩ := write_eq_ok wrote
  have named := apart.same.place free.named
  have there : (tree.set place.location (.file content)).node? place.location =
      some (.file content) := by
    rw [node?_set, if_neg fun above => free.fileless (node?_of_above above), if_pos rfl]
  obtain ⟨differs, gone⟩ := differs_remove named free.plain (by rw [there]; exact nofun)
  refine ⟨_, ?_, exists?_eq_false (differs.same.place named) free.plain gone, ?_⟩
  · simp only [removeFile, named, free.plain, there, free.optional, bind, Except.bind,
      Bool.false_eq_true, if_false]
  · exact (apart.trans differs).mono fun _ among => or_self_iff.1 among

/-- The name of a file that is read stands for itself. -/
theorem plain_of_read {place : Place} (read : tree.read path = .ok content)
    (named : tree.place path = .ok place) : place.isDots = false := by
  simp only [FileTree.read, named, bind, Except.bind] at read
  split at read
  · cases read
  case isFalse plain => simpa using plain

/-- A file that was moved to another place is gone from where it was, and there is no difference
but at the two places. -/
theorem differs_renameFile (moved : tree.renameFile source target = .ok after)
    (apart : ∀ first second, tree.place source = .ok first → tree.place target = .ok second →
      second.isDots = false → first.location ≠ second.location) :
    after.exists? source = false ∧
      Differs (fun path => path = source ∨ path = target) tree after := by
  obtain ⟨content, first, second, read, left, free, rfl⟩ := renameFile_eq_ok moved
  have plain := plain_of_read read left
  obtain ⟨_, found, file⟩ := read_eq_ok read
  rw [left] at found
  cases found
  have fileless : tree.node? first.location ≠ some .directory := by
    rw [file]
    exact nofun
  obtain ⟨cleared, gone⟩ := differs_remove left plain fileless
  have room : (tree.remove first.location).node? second.location ≠ some .directory := by
    rw [node?_remove, if_neg fun above => free.fileless (node?_of_above above)]
    split
    · exact nofun
    · exact free.fileless
  have put := Free.differs ⟨cleared.same.place free.named, free.plain, free.optional, room⟩ content
  have differs := cleared.trans put
  have outside : ¬ first.location <+: (tree.remove first.location).working := fun above =>
    fileless (node?_of_above above)
  refine ⟨exists?_eq_false (differs.same.place left) plain ?_, differs⟩
  rw [node?_set, if_neg outside, if_neg (apart first second left free.named free.plain)]
  exact gone

end FileTree

end FlowEnrichment

import FlowEnrichment.Cache
import FlowEnrichment.Proofs.FileTree.Places
import FlowEnrichment.Proofs.Store.Snapshot

/-!
# What saving leaves behind

A snapshot is written to a second file, which is then moved to its place. Whatever is in the way,
the file that was there stays until the whole of the new one is moved over it: making the parents
of a path only adds directories (`FileTree.Grows`), and a second file that cannot be moved is
removed again (`Snapshot.replaceFile_cases`). `Store.save_atomic` tells what is where after a save
that succeeded and after one that failed. A path may lead back through one of its own parents;
then the directory that is made for it is the place where the file should have gone.
-/
namespace FlowEnrichment

namespace Path

/-- A path is the parent of another one, or the parent of such a path. -/
inductive Above : String → String → Prop where
  /-- The parent is above a path. -/
  | parent {path parent : String} (taken : Path.parent? path = some parent) : Above parent path
  /-- What is above the parent is above a path. -/
  | up {ancestor path parent : String} (taken : Path.parent? path = some parent)
      (above : Above ancestor parent) : Above ancestor path

/-- A path with a parent has a name. -/
theorem named_of_parent? {path parent : String} (taken : parent? path = some parent) :
    (parts path).names ≠ [] := by
  intro no_names
  have none_counts := places_subset path
  rw [no_names, List.subset_nil] at none_counts
  exact (parts_parent taken).2.2 none_counts

/-- What something is above has a name. -/
theorem Above.named {path made : String} (above : Above made path) : (parts path).names ≠ [] := by
  cases above with
  | parent taken => exact named_of_parent? taken
  | up taken _ => exact named_of_parent? taken

/-- The parent of a path starts where the path does. If the path has no way back its parent has
none, and no name or fewer steps. -/
theorem parent?_fewer {path parent : String} (taken : parent? path = some parent)
    (onward : ".." ∉ (parts path).names) :
    (parts parent).absolute = (parts path).absolute ∧ ".." ∉ (parts parent).names ∧
      ((parts parent).names = [] ∨ (steps parent).length < (steps path).length) := by
  obtain ⟨start, names, some_name⟩ := parts_parent taken
  obtain ⟨steps_path, late⟩ := steps_eq_places path
  refine ⟨start, fun among => ?_, ?_⟩
  · rw [names] at among
    exact onward (places_subset path (List.dropLast_subset _ among))
  · rw [steps_path, steps, names]
    cases split : places path with
    | nil => exact absurd split some_name
    | cons name others =>
      rw [split, List.tail_cons] at late
      rcases List.eq_nil_or_concat others with rfl | ⟨middle, last, rfl⟩
      · exact .inl rfl
      · -- The last name is not the first one, so it counts as a step.
        right
        have point : last ≠ "." := by
          rintro rfl
          exact late (by simp)
        rw [List.concat_eq_append, ← List.cons_append, List.dropLast_concat, List.filter_append,
          List.length_append]
        simp [point]

/-- Without a way back, what is above a path has no name or fewer steps. -/
theorem Above.fewer {path made : String} (above : Above made path)
    (onward : ".." ∉ (parts path).names) :
    (parts made).absolute = (parts path).absolute ∧ ".." ∉ (parts made).names ∧
      ((parts made).names = [] ∨ (steps made).length < (steps path).length) := by
  induction above with
  | parent taken => exact parent?_fewer taken onward
  | up taken above ih =>
    obtain ⟨start, onward, fewer⟩ := parent?_fewer taken onward
    obtain ⟨start', onward', fewer'⟩ := ih onward
    refine ⟨start'.trans start, onward', fewer'.imp_right fun further => ?_⟩
    exact Nat.lt_trans further (fewer.resolve_left above.named)

/-- The second path is the first one or above it. -/
def AtOrAbove (path made : String) : Prop := made = path ∨ Above made path

/-- What is at the parent of a path or above it is above the path. -/
theorem AtOrAbove.above {path parent made : String} (among : AtOrAbove parent made)
    (taken : parent? path = some parent) : Above made path := by
  rcases among with rfl | above
  · exact .parent taken
  · exact .up taken above

end Path

namespace FileTree

variable {tree before between after : FileTree} {path : String} {location : Location}
  {paths more : String → Prop}

/-- Without a way back, nothing above a path leads to its place. -/
theorem not_reaches_above {made : String} {location : Location} (above : Path.Above made path)
    (onward : ".." ∉ (Path.parts path).names) (led : tree.Reaches path location) :
    ¬ tree.Reaches made location := by
  intro other
  obtain ⟨start, onward', fewer⟩ := above.fewer onward
  have named : (Path.parts made).names ≠ [] := by
    obtain ⟨place, named, -⟩ := other
    obtain ⟨names, split, -⟩ := place_eq_ok named
    simp [split]
  have same := (led.eq onward).symm.trans (other.eq onward')
  rw [origin, origin, start] at same
  have lengths := congrArg List.length (List.append_cancel_left same)
  exact absurd (fewer.resolve_left named) (by omega)

/-! ## Directories that are made -/

/-- Where nothing was there is a directory to which one of some paths leads. -/
structure Made (paths : String → Prop) (before after : FileTree) (location : Location) :
    Prop where
  /-- Nothing was there. -/
  absent : before.node? location = none
  /-- A directory is there. -/
  present : after.node? location = some .directory
  /-- It is the place of one of the paths. -/
  placed : ∃ path, paths path ∧ after.Reaches path location

/-- Nothing has changed but that directories were made to which some paths lead. -/
structure Grows (paths : String → Prop) (before after : FileTree) : Prop where
  /-- What was a directory is one. -/
  same : SameDirectories before after
  /-- What has changed was made. -/
  nodes : ∀ location, after.node? location = before.node? location ∨
    Made paths before after location

namespace Grows

/-- Doing nothing makes nothing. -/
theorem refl (paths : String → Prop) (tree : FileTree) : Grows paths tree tree :=
  ⟨⟨rfl, fun _ => id⟩, fun _ => .inl rfl⟩

/-- Directories may be made after others. -/
theorem trans (first : Grows paths before between) (second : Grows paths between after) :
    Grows paths before after where
  same := ⟨second.same.working.trans first.same.working,
    fun location found => second.same.kept location (first.same.kept location found)⟩
  nodes location := by
    rcases first.nodes location, second.nodes location with
      ⟨unchanged | ⟨absent, present, path, among, led⟩, still | made⟩
    · exact .inl (still.trans unchanged)
    · exact .inr ⟨unchanged ▸ made.absent, made.present, made.placed⟩
    · exact .inr ⟨absent, still.trans present, path, among, second.same.reaches led⟩
    · have twice := made.absent
      rw [present] at twice
      cases twice

/-- Directories of some paths are directories of more paths. -/
theorem mono (grows : Grows paths before after) (wider : ∀ path, paths path → more path) :
    Grows more before after where
  same := grows.same
  nodes location := (grows.nodes location).imp_right fun made =>
    ⟨made.absent, made.present, made.placed.imp fun path placed =>
      ⟨wider path placed.1, placed.2⟩⟩

end Grows

/-- When directories were made and then the places of some paths changed, anything else is as it
was or was made. -/
theorem Grows.differs (grows : Grows paths before between) (differs : Differs more between after)
    (location : Location) :
    after.node? location = before.node? location ∨ Made paths before after location ∨
      ∃ path, more path ∧ after.Reaches path location := by
  rcases differs.nodes location with still | changed
  · rcases grows.nodes location with unchanged | ⟨absent, present, path, among, led⟩
    · exact .inl (still.trans unchanged)
    · exact .inr (.inl ⟨absent, still.trans present, path, among, differs.same.reaches led⟩)
  · exact .inr (.inr changed)

/-- A directory that was made is at the place of its path. -/
theorem grows_makeDirectory (made : tree.makeDirectory path = .ok after) :
    Grows (· = path) tree after := by
  unfold makeDirectory at made
  split at made
  case h_1 => cases made
  case h_2 => cases made
  case h_3 place named =>
    simp only [bind, Except.bind, pure, Except.pure] at made
    split at made
    · cases made
    case isFalse itself =>
      split at made
      case h_1 => cases made
      case h_2 absent =>
        cases made
        have free : tree.node? place.location ≠ some .directory := by
          rw [absent]
          exact nofun
        have same := sameDirectories_set free .directory
        refine ⟨same, fun location => ?_⟩
        rw [node?_set]
        by_cases above : location <+: tree.working
        · exact .inl (by rw [if_pos above, node?_of_above above])
        · rw [if_neg above]
          by_cases there : location = place.location
          · subst there
            refine .inr ⟨absent, ?_, path, rfl, place, same.place named, by simpa using itself, rfl⟩
            rw [node?_set, if_neg above, if_pos rfl]
          · exact .inl (if_neg there)

/-- Whether or not it succeeds, making a directory and those above it makes nothing else. -/
theorem grows_makeDirectories (fuel : Nat) (tree : FileTree) (path : String) :
    Grows (Path.AtOrAbove path) tree (makeDirectories fuel tree path).1 := by
  induction fuel generalizing tree path with
  | zero => exact .refl _ tree
  | succ fuel ih =>
    have only {start made : FileTree} (grown : start.makeDirectory path = .ok made) :
        Grows (Path.AtOrAbove path) start made :=
      (grows_makeDirectory grown).mono fun _ => .inl
    unfold makeDirectories
    split
    · exact .refl _ tree
    split
    case h_1 made grown => exact only grown
    case h_2 =>
      split
      case h_1 => exact .refl _ tree
      case h_2 parent taken =>
        have parents : Grows (Path.AtOrAbove path) tree (makeDirectories fuel tree parent).1 :=
          (ih tree parent).mono fun _ among => .inr (among.above taken)
        cases reached : makeDirectories fuel tree parent with
        | mk between outcome =>
          rw [reached] at parents
          cases outcome with
          | error fault => exact parents
          | ok done =>
            dsimp only
            split
            case h_1 made grown => exact parents.trans (only grown)
            case h_2 => exact parents
    case h_3 => exact .refl _ tree

end FileTree

namespace Snapshot

open FileTree

variable {files after : FileTree} {path : String} {content : List UInt8}

/-- The parents of a path are made from above. -/
theorem grows_makeParents (files : FileTree) (path : String) :
    Grows (Path.Above · path) files (makeParents files path).1 := by
  unfold makeParents parent?
  cases taken : Path.parent? path with
  | none => exact .refl _ files
  | some parent =>
    by_cases here : parent = ""
    · simp only [here, Option.filter_some, ne_eq, not_true_eq_false, decide_false]
      exact .refl _ files
    · simp only [Option.filter_some, ne_eq, here, not_false_eq_true, decide_true, if_true]
      exact (grows_makeDirectories _ files parent).mono fun _ among => among.above taken

/-- The path of the second file names another place than the path. -/
theorem location_temporary_ne {place second : Place} (named : files.place path = .ok place)
    (itself : place.isDots = false) (other : files.place (temporary path) = .ok second) :
    second.location ≠ place.location :=
  location_append_ne (by decide) (by decide) named itself other

/-- A path leads to no place of the second file. -/
theorem not_reaches_temporary {location : Location} (led : files.Reaches path location) :
    ¬ files.Reaches (temporary path) location := by
  rintro ⟨second, other, -, rfl⟩
  obtain ⟨place, named, itself, there⟩ := led
  exact location_temporary_ne named itself other there.symm

/-- Whatever was found at a path stays as long as only directories above it are made and the
second file changes. Only a way back leads to a directory that was made. -/
theorem kept_of_grows {made : FileTree} (grows : Grows (Path.Above · path) files made)
    (differs : Differs (· = temporary path) made after) :
    (∀ content, files.read path = .ok content → after.read path = .ok content) ∧
      (files.isDirectory path = true → after.isDirectory path = true) ∧
      ∀ location, after.Reaches path location →
        after.node? location = files.node? location ∨
          ".." ∈ (Path.parts path).names ∧ Made (Path.Above · path) files after location := by
  have there (location : Location) (led : after.Reaches path location) :
      after.node? location = files.node? location ∨
        ".." ∈ (Path.parts path).names ∧ Made (Path.Above · path) files after location := by
    rcases grows.differs differs location with unchanged | made | ⟨_, rfl, second⟩
    · exact .inl unchanged
    · refine .inr ⟨?_, made⟩
      by_contra onward
      obtain ⟨_, above, other⟩ := made.placed
      exact not_reaches_above above onward led other
    · exact absurd second (not_reaches_temporary led)
  have same := grows.same.trans differs.same
  have kept (location : Location) (node : FileNode) (led : files.Reaches path location)
      (found : files.node? location = some node) : after.node? location = some node := by
    rcases there location (same.reaches led) with unchanged | ⟨-, made⟩
    · exact unchanged.trans found
    · have absent := made.absent
      rw [found] at absent
      cases absent
  obtain ⟨read, directory⟩ := same.found kept
  exact ⟨read, directory, there⟩

/-- Everything that can come of writing a file as a whole. The parents may be made in part or the
second file not be written; or it is written and then either removed, because it cannot be moved,
or moved to its place. -/
theorem replaceFile_cases (files : FileTree) (path : String) (content : List UInt8) :
    ∃ made, Grows (Path.Above · path) files made ∧
      ((∃ fault, replaceFile files path content = (made, .error fault)) ∨
        ∃ written, made.write (temporary path) content = .ok written ∧
          ((∃ fault removed, written.removeFile (temporary path) = .ok removed ∧
              replaceFile files path content = (removed, .error fault)) ∨
            ∃ moved, written.renameFile (temporary path) path = .ok moved ∧
              replaceFile files path content = (moved, .ok ()))) := by
  have grows := grows_makeParents files path
  cases parents : makeParents files path with
  | mk made outcome =>
    rw [parents] at grows
    refine ⟨made, grows, ?_⟩
    unfold replaceFile
    rw [parents]
    cases outcome with
    | error fault => exact .inl ⟨fault, rfl⟩
    | ok done =>
      dsimp only
      cases wrote : made.write (temporary path) content with
      | error fault => exact .inl ⟨fault, rfl⟩
      | ok written =>
        refine .inr ⟨written, rfl, ?_⟩
        dsimp only
        cases moved : written.renameFile (temporary path) path with
        | error fault =>
          obtain ⟨removed, taken, -⟩ := removeFile_of_write wrote
          exact .inl ⟨fault, removed, taken, by rw [taken]; rfl⟩
        | ok reached => exact .inr ⟨reached, rfl, rfl⟩

/-- A file that was written to the second place and could not be moved is gone. -/
theorem replaceFile_of_unmoved {made written : FileTree} {content : List UInt8} {fault : FileFault}
    (parents : makeParents files path = (made, .ok ()))
    (wrote : made.write (temporary path) content = .ok written)
    (unmoved : written.renameFile (temporary path) path = .error fault) :
    ∃ removed, replaceFile files path content = (removed, .error fault) ∧
      removed.exists? (temporary path) = false := by
  obtain ⟨removed, taken, gone, -⟩ := removeFile_of_write wrote
  exact ⟨removed, by simp [replaceFile, parents, wrote, unmoved, taken, Except.toOption], gone⟩

end Snapshot

namespace Store

open FileTree Snapshot

variable {κ ν : Type} {format : EntryFormat κ ν} {store : Store κ ν} {files after : FileTree}
  {path : String} {outcome : Except Failure Unit}

/-- Saving writes the snapshot as a whole. -/
theorem save_eq_replaceFile (format : EntryFormat κ ν) (store : Store κ ν) (files : FileTree)
    (path : String) :
    store.save format files path =
      ((replaceFile files path (encode format store.entries)).1,
        (replaceFile files path (encode format store.entries)).2.mapError .file) := by
  rw [save, stored, map_entry_stored]

/-- A save that succeeds leaves the whole new snapshot and nothing in the second place. One that
fails leaves what was found at the path, and nothing is then at its place but what was there
before or, if the path has a way back, a directory that was made because it is above the path. If
the second file could not be moved it is gone. Nothing else is touched but the second place,
except that missing directories above the path were made. -/
theorem save_atomic (saved : store.save format files path = (after, outcome)) :
    (outcome = .ok () →
      after.read path = .ok (encode format store.entries) ∧
        after.exists? (temporary path) = false) ∧
    (∀ failure, outcome = .error failure →
      (∀ content, files.read path = .ok content → after.read path = .ok content) ∧
      (files.isDirectory path = true → after.isDirectory path = true) ∧
      ∀ location, after.Reaches path location →
        after.node? location = files.node? location ∨
          ".." ∈ (Path.parts path).names ∧ Made (Path.Above · path) files after location) ∧
    (∀ made written fault, makeParents files path = (made, .ok ()) →
      made.write (temporary path) (encode format store.entries) = .ok written →
      written.renameFile (temporary path) path = .error fault →
      outcome = .error (.file fault) ∧ after.exists? (temporary path) = false) ∧
    ∀ location, after.node? location = files.node? location ∨
      Made (Path.Above · path) files after location ∨
      after.Reaches (temporary path) location ∨ after.Reaches path location := by
  rw [save_eq_replaceFile] at saved
  have unmoved (made written : FileTree) (fault : FileFault)
      (parents : makeParents files path = (made, .ok ()))
      (wrote : made.write (temporary path) (encode format store.entries) = .ok written)
      (unmoved : written.renameFile (temporary path) path = .error fault) :
      outcome = .error (.file fault) ∧ after.exists? (temporary path) = false := by
    obtain ⟨removed, replaced, gone⟩ := replaceFile_of_unmoved parents wrote unmoved
    rw [replaced] at saved
    cases saved
    exact ⟨rfl, gone⟩
  obtain ⟨made, grows, ⟨fault, replaced⟩ | ⟨written, wrote, ⟨fault, removed, taken, replaced⟩ |
    ⟨moved, taken, replaced⟩⟩⟩ := replaceFile_cases files path (encode format store.entries)
  · rw [replaced] at saved
    cases saved
    have differs : Differs (· = temporary path) made made := .refl _ made
    refine ⟨nofun, fun _ _ => kept_of_grows grows differs, unmoved, fun location => ?_⟩
    exact (grows.differs differs location).imp_right (·.imp_right fun ⟨_, same, led⟩ =>
      .inl (same ▸ led))
  · rw [replaced] at saved
    cases saved
    obtain ⟨_, taken', -, differs⟩ := removeFile_of_write wrote
    rw [taken] at taken'
    cases taken'
    refine ⟨nofun, fun _ _ => kept_of_grows grows differs, unmoved, fun location => ?_⟩
    exact (grows.differs differs location).imp_right (·.imp_right fun ⟨_, same, led⟩ =>
      .inl (same ▸ led))
  · have read := read_replaceFile replaced
    rw [replaced] at saved
    cases saved
    obtain ⟨gone, differs⟩ := differs_renameFile taken fun first second source target plain =>
      location_temporary_ne target plain source
    have differs := (differs_write wrote).trans differs
    refine ⟨fun _ => ⟨read, gone⟩, nofun, unmoved, fun location => ?_⟩
    refine (grows.differs differs location).imp_right (·.imp_right ?_)
    rintro ⟨_, rfl | rfl | rfl, led⟩
    · exact .inl led
    · exact .inl led
    · exact .inr led

/-- With a directory where the snapshot should go, the second file is written beside it and is
gone when it cannot be moved. -/
theorem save_atomic_over_directory :
    let files : FileTree := ⟨[(["a"], .directory), (["a", "b"], .directory)], []⟩
    let saved := save Cache.format ({} : Store Query Answer) files "a/b"
    saved.2 = .error (.file .isADirectory) ∧ saved.1.isDirectory "a/b" = true ∧
      saved.1.exists? "a/b.tmp" = false := by
  intro files saved
  obtain ⟨-, failed, unmoved, -⟩ := save_atomic (show saved = (saved.1, saved.2) from rfl)
  have gone := unmoved files (files.set ["a", "b.tmp"] (.file (encode Cache.format [])))
    .isADirectory rfl rfl rfl
  exact ⟨gone.1, (failed _ gone.1).2.1 rfl, gone.2⟩

/-- A path that leads back through its own missing parent: where nothing was there is a directory
after the save has failed. -/
theorem save_makes_directory_at_path :
    (save Cache.format ({} : Store Query Answer) {} "a/../a").2 = .error (.file .isADirectory) ∧
      ({} : FileTree).exists? "a/../a" = false ∧
      (save Cache.format ({} : Store Query Answer) {} "a/../a").1.isDirectory "a/../a" = true := by
  decide

end Store

end FlowEnrichment

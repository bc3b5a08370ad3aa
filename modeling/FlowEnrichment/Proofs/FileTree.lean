import FlowEnrichment.FileTree

/-!
# What file operations leave behind

A path leads through directories only, so it keeps its place while files come and go:
`SameDirectories` is that relation between trees. Writing a file and moving one to another place
keep it, which gives `read_write` and `read_renameFile`.
-/
namespace FlowEnrichment.FileTree

variable {before after tree : FileTree}

/-! ## Nodes -/

/-- Clearing a location leaves what is at the others. -/
theorem lookup_filter (nodes : List (Location × FileNode)) (location other : Location) :
    (nodes.filter fun (place, _) => place ≠ location).lookup other =
      if other = location then none else nodes.lookup other := by
  induction nodes with
  | nil => simp
  | cons first rest ih =>
    obtain ⟨place, there⟩ := first
    by_cases cleared : place = location
    · rw [List.filter_cons_of_neg (by simp [cleared]), ih, List.lookup_cons]
      by_cases same : other = location
      · rw [if_pos same, if_pos same]
      · have passed : (other == place) = false := by simp [cleared, same]
        rw [if_neg same, if_neg same, passed]
    · rw [List.filter_cons_of_pos (by simp [cleared]), List.lookup_cons, List.lookup_cons, ih]
      by_cases same : other = location
      · have passed : (other == place) = false := by simp [same, Ne.symm cleared]
        simp only [passed, if_pos same]
      · rw [if_neg same, if_neg same]

/-- What is at a location when one has been cleared. -/
theorem node?_remove (tree : FileTree) (location other : Location) :
    (tree.remove location).node? other =
      if other <+: tree.working then some .directory
      else if other = location then none
      else tree.node? other := by
  unfold node? remove
  dsimp only
  by_cases above : other <+: tree.working
  · rw [if_pos above, if_pos above]
  · rw [if_neg above, if_neg above, if_neg above]
    exact lookup_filter tree.nodes location other

/-- What is at a location when something has been put at one. -/
theorem node?_set (tree : FileTree) (location : Location) (node : FileNode) (other : Location) :
    (tree.set location node).node? other =
      if other <+: tree.working then some .directory
      else if other = location then some node
      else tree.node? other := by
  unfold node? set remove
  dsimp only
  by_cases above : other <+: tree.working
  · rw [if_pos above, if_pos above]
  · rw [if_neg above, if_neg above, if_neg above, List.lookup_cons]
    by_cases same : other = location
    · simp [same]
    · have passed : (other == location) = false := by simp [same]
      have others := lookup_filter tree.nodes location other
      rw [if_neg same] at others
      rw [passed, if_neg same]
      exact others

/-- The working directory and those above it are directories. -/
theorem node?_of_above {location : Location} (above : location <+: tree.working) :
    tree.node? location = some .directory := if_pos above

/-! ## Directories -/

/-- Two trees with the same working directory and the same directories. -/
structure SameDirectories (before after : FileTree) : Prop where
  /-- The working directory is the same. -/
  working : after.working = before.working
  /-- What was a directory is one. -/
  kept : ∀ location, before.node? location = some .directory →
    after.node? location = some .directory

/-- Clearing a place that is no directory clears no directory. -/
theorem sameDirectories_remove {location : Location}
    (other : tree.node? location ≠ some .directory) :
    SameDirectories tree (tree.remove location) where
  working := rfl
  kept := by
    intro place found
    rw [node?_remove]
    split
    · rfl
    · rw [if_neg]
      · exact found
      · rintro rfl
        exact other found

/-- Putting something at a place that is no directory covers no directory. -/
theorem sameDirectories_set {location : Location} (other : tree.node? location ≠ some .directory)
    (node : FileNode) : SameDirectories tree (tree.set location node) where
  working := rfl
  kept := by
    intro place found
    rw [node?_set]
    split
    · rfl
    · rw [if_neg]
      · exact found
      · rintro rfl
        exact other found

namespace SameDirectories

/-- Names lead to where they led. -/
theorem walk (same : SameDirectories before after) {here there : Location} {names : List String}
    (led : before.walk here names = .ok there) : after.walk here names = .ok there := by
  induction names generalizing here with
  | nil => exact led
  | cons name rest ih =>
    unfold FileTree.walk at led ⊢
    split
    case isTrue point =>
      rw [if_pos point] at led
      exact ih led
    case isFalse point =>
      rw [if_neg point] at led
      split
      case isTrue points =>
        rw [if_pos points] at led
        exact ih led
      case isFalse points =>
        rw [if_neg points] at led
        split
        case isTrue long =>
          rw [if_pos long] at led
          cases led
        case isFalse long =>
          rw [if_neg long] at led
          split at led
          case h_1 => cases led
          case h_2 => cases led
          case h_3 found =>
            rw [same.kept _ found]
            exact ih led

/-- A path has the place that it had. -/
theorem place (same : SameDirectories before after) {path : String} {place : Place}
    (had : before.place path = .ok place) : after.place path = .ok place := by
  unfold FileTree.place at had ⊢
  simp only [bind, Except.bind, pure, Except.pure] at had ⊢
  by_cases zero : path.toList.contains '\x00' = true
  · rw [if_pos zero] at had
    cases had
  rw [if_neg zero] at had ⊢
  by_cases long : maxPath < path.utf8ByteSize
  · rw [if_pos long] at had
    cases had
  rw [if_neg long] at had ⊢
  rw [same.working]
  cases last : (Path.parts path).names.getLast? with
  | none =>
    rw [last] at had
    cases had
  | some name =>
    rw [last] at had
    dsimp only at had ⊢
    cases led : before.walk (if (Path.parts path).absolute = true then [] else before.working)
        (Path.parts path).names.dropLast with
    | error fault =>
      rw [led] at had
      cases had
    | ok there =>
      rw [led] at had
      rw [same.walk led]
      exact had

end SameDirectories

/-! ## Operations -/

/-- A file can be put at a place: its name stands for itself, and no directory is there. -/
structure Free (tree : FileTree) (path : String) (place : Place) : Prop where
  /-- The path names the place. -/
  named : tree.place path = .ok place
  /-- The name is a name. -/
  plain : place.isDots = false
  /-- The path demands no directory. -/
  optional : place.directory = false
  /-- There is no directory. -/
  fileless : tree.node? place.location ≠ some .directory

/-- A file that was put at a place is read back. -/
theorem Free.read_set {path : String} {place : Place} (free : Free tree path place)
    (content : List UInt8) :
    (tree.set place.location (.file content)).read path = .ok content := by
  have named := (sameDirectories_set free.fileless (.file content)).place free.named
  have above : ¬ place.location <+: tree.working := by
    intro above
    exact free.fileless (node?_of_above above)
  have there := node?_set tree place.location (.file content) place.location
  rw [if_neg above, if_pos rfl] at there
  simp only [FileTree.read, named, bind, Except.bind, free.plain, there, free.optional,
    Bool.false_eq_true, if_false]

/-- A file that was written is at a place that was free for it. -/
theorem write_eq_ok {path : String} {content : List UInt8}
    (written : tree.write path content = .ok after) :
    ∃ place, Free tree path place ∧ after = tree.set place.location (.file content) := by
  unfold write at written
  simp only [bind, Except.bind, pure, Except.pure] at written
  cases named : tree.place path with
  | error fault =>
    rw [named] at written
    cases written
  | ok place =>
    rw [named] at written
    dsimp only at written
    by_cases unfit : (place.isDots || place.directory) = true
    · rw [if_pos unfit] at written
      cases written
    rw [if_neg unfit] at written
    by_cases taken : tree.node? place.location = some .directory
    · rw [if_pos taken] at written
      cases written
    rw [if_neg taken] at written
    cases written
    have fit : place.isDots = false ∧ place.directory = false := by simpa using unfit
    exact ⟨place, ⟨named, fit.1, fit.2, taken⟩, rfl⟩

/-- What is read is a file at the place of the path. -/
theorem read_eq_ok {path : String} {content : List UInt8} (read : tree.read path = .ok content) :
    ∃ place, tree.place path = .ok place ∧ tree.node? place.location = some (.file content) := by
  unfold FileTree.read at read
  simp only [bind, Except.bind] at read
  cases named : tree.place path with
  | error fault =>
    rw [named] at read
    cases read
  | ok place =>
    rw [named] at read
    dsimp only at read
    split at read
    · cases read
    split at read
    case h_1 => cases read
    case h_2 => cases read
    case h_3 found there =>
      split at read
      · cases read
      · cases read
        exact ⟨place, rfl, there⟩

/-- A file that was moved was read, and is at a place that was free for it. -/
theorem renameFile_eq_ok {source target : String}
    (moved : tree.renameFile source target = .ok after) :
    ∃ content origin place, tree.read source = .ok content ∧ tree.place source = .ok origin ∧
      Free tree target place ∧
      after = (tree.remove origin.location).set place.location (.file content) := by
  unfold renameFile at moved
  simp only [bind, Except.bind, pure, Except.pure] at moved
  cases read : tree.read source with
  | error fault =>
    rw [read] at moved
    cases moved
  | ok content =>
    obtain ⟨origin, left, -⟩ := read_eq_ok read
    rw [read, left] at moved
    dsimp only at moved
    split at moved
    case h_1 => cases moved
    case h_2 => cases moved
    case h_3 place named =>
      by_cases dots : place.isDots = true
      · rw [if_pos dots] at moved
        cases moved
      rw [if_neg dots] at moved
      by_cases directory : place.directory = true
      · rw [if_pos directory] at moved
        cases moved
      rw [if_neg directory] at moved
      by_cases taken : tree.node? place.location = some .directory
      · rw [if_pos taken] at moved
        cases moved
      rw [if_neg taken] at moved
      cases moved
      exact ⟨content, origin, place, rfl, left,
        ⟨named, by simpa using dots, by simpa using directory, taken⟩, rfl⟩

/-- A file that was written is read back. -/
theorem read_write {path : String} {content : List UInt8}
    (written : tree.write path content = .ok after) : after.read path = .ok content := by
  obtain ⟨place, free, rfl⟩ := write_eq_ok written
  exact free.read_set content

/-- A file that was moved is read back at its new place. -/
theorem read_renameFile {source target : String} {content : List UInt8}
    (held : tree.read source = .ok content)
    (moved : tree.renameFile source target = .ok after) : after.read target = .ok content := by
  obtain ⟨found, origin, place, read, left, free, rfl⟩ := renameFile_eq_ok moved
  obtain ⟨there, named, file⟩ := read_eq_ok read
  have same : found = content := by
    rw [held] at read
    cases read
    rfl
  have other : tree.node? origin.location ≠ some .directory := by
    rw [left] at named
    cases named
    rw [file]
    exact nofun
  have cleared : Free (tree.remove origin.location) target place := by
    refine ⟨(sameDirectories_remove other).place free.named, free.plain, free.optional, ?_⟩
    rw [node?_remove]
    split
    case isTrue above => exact absurd (node?_of_above above) free.fileless
    case isFalse =>
      split
      · exact nofun
      · exact free.fileless
  rw [same]
  exact cleared.read_set content

end FlowEnrichment.FileTree

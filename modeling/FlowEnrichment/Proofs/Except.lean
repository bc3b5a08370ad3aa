import Mathlib.Data.List.Forall2

/-!
# Computations that may fail

A computation of several parts succeeds if every part does, each with what the parts before it
came to.
-/
namespace FlowEnrichment

variable {ε α β : Type}

/-- A computation of two parts succeeds if both do. -/
theorem bind_eq_ok_iff {first : Except ε α} {second : α → Except ε β} {y : β} :
    (first >>= second) = .ok y ↔ ∃ x, first = .ok x ∧ second x = .ok y := by
  cases first with
  | error fault => simp [bind, Except.bind]
  | ok x => simp [bind, Except.bind]

/-- A computation for every element of a list succeeds if it does for each. -/
theorem mapM_eq_ok_iff {f : α → Except ε β} {xs : List α} {ys : List β} :
    xs.mapM f = .ok ys ↔ List.Forall₂ (fun x y => f x = .ok y) xs ys := by
  induction xs generalizing ys with
  | nil => cases ys <;> simp [pure, Except.pure]
  | cons x xs ih =>
    rw [List.mapM_cons, bind_eq_ok_iff]
    simp only [bind_eq_ok_iff, ih, pure, Except.pure, Except.ok.injEq]
    cases ys with
    | nil => simp
    | cons y ys => simp

/-- What a computation for every element of a list comes to, it comes to for one of them. -/
theorem exists_of_mem_mapM {f : α → Except ε β} {xs : List α} {ys : List β} {y : β}
    (each : xs.mapM f = .ok ys) (member : y ∈ ys) : ∃ x ∈ xs, f x = .ok y := by
  rw [mapM_eq_ok_iff] at each
  induction each with
  | nil => cases member
  | cons first _ ih =>
    cases member with
    | head => exact ⟨_, List.mem_cons_self, first⟩
    | tail _ inside =>
      obtain ⟨x, among, made⟩ := ih inside
      exact ⟨x, List.mem_cons_of_mem _ among, made⟩

/-- A computation whose failures are named otherwise succeeds if the computation does. -/
theorem mapError_eq_ok_iff {ε' : Type} {f : ε → ε'} {first : Except ε α} {x : α} :
    first.mapError f = .ok x ↔ first = .ok x := by
  cases first with
  | error fault => exact ⟨nofun, nofun⟩
  | ok y =>
    constructor
    · rintro ⟨⟩
      rfl
    · rintro ⟨⟩
      rfl

/-- A computation has a result if it succeeds. -/
theorem toOption_eq_some_iff {first : Except ε α} {x : α} :
    first.toOption = some x ↔ first = .ok x := by
  cases first with
  | error fault => exact ⟨nofun, nofun⟩
  | ok y => rw [Except.toOption, Option.some.injEq, Except.ok.injEq]

end FlowEnrichment

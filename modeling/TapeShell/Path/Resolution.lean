/-
This file says which paths resolve to themselves.
-/

import TapeShell.Path.Components

namespace TapeShell.Path

/-- A proper name leads one directory down. -/
def IsProper (name : String) : Prop :=
  name ≠ "." ∧ name ≠ ".."

instance (name : String) : Decidable (IsProper name) :=
  inferInstanceAs (Decidable (_ ∧ _))

/-- A canonical path is normal, and each of its components leads one directory down. -/
def IsCanonical (path : String) : Prop :=
  isNormal path = true ∧ ∀ name ∈ components path, IsProper name

instance (path : String) : Decidable (IsCanonical path) :=
  inferInstanceAs (Decidable (_ ∧ _))

/-- A proper name is entered. -/
theorem follow_of_isProper {name : String} (proper : IsProper name) (place : List String) :
    follow place name = place ++ [name] := by
  rw [follow, if_neg proper.1, if_neg proper.2]

/-- Proper names are entered one behind the other. -/
theorem foldl_follow_of_isProper {names : List String} (proper : ∀ name ∈ names, IsProper name)
    (place : List String) : names.foldl follow place = place ++ names := by
  induction names generalizing place with
  | nil => simp
  | cons name names inductionHypothesis =>
      obtain ⟨first, others⟩ := List.forall_mem_cons.mp proper
      rw [List.foldl_cons, follow_of_isProper first, inductionHypothesis others]
      simp

/-- A step leads up, or down by a proper name. -/
theorem mem_follow {place : List String} {component name : String}
    (member : name ∈ follow place component) :
    name ∈ place ∨ name = component ∧ IsProper component := by
  rw [follow] at member
  split at member
  next => exact .inl member
  next notHere =>
    split at member
    next => exact .inl (List.dropLast_subset place member)
    next notUp =>
      rcases List.mem_append.mp member with inPlace | isLast
      · exact .inl inPlace
      · exact .inr ⟨List.mem_singleton.mp isLast, notHere, notUp⟩

/-- A name that was reached is an old one or a proper one. -/
theorem mem_foldl_follow {names place : List String} {name : String}
    (member : name ∈ names.foldl follow place) :
    name ∈ place ∨ name ∈ names ∧ IsProper name := by
  induction names generalizing place with
  | nil => exact .inl member
  | cons first names inductionHypothesis =>
      rcases inductionHypothesis member with inPlace | ⟨inNames, proper⟩
      · rcases mem_follow inPlace with before | ⟨rfl, proper⟩
        · exact .inl before
        · exact .inr ⟨List.mem_cons_self, proper⟩
      · exact .inr ⟨List.mem_cons_of_mem _ inNames, proper⟩

/-- A path of proper names is canonical. -/
theorem isCanonical_ofComponents {names : List String} (valid : ∀ name ∈ names, IsName name)
    (proper : ∀ name ∈ names, IsProper name) : IsCanonical (ofComponents names) := by
  refine ⟨isNormal_ofComponents valid, ?_⟩
  rwa [components_ofComponents valid]

/-- Whatever is resolved, the result is canonical. -/
theorem isCanonical_resolve (directory input : String) : IsCanonical (resolve directory input) := by
  rw [resolve]
  generalize (if input.toList.head? = some '/' then input else below directory ++ input) = whole
  have reached {name : String} (member : name ∈ (components whole).foldl follow []) :
      name ∈ components whole ∧ IsProper name :=
    (mem_foldl_follow member).resolve_left List.not_mem_nil
  apply isCanonical_ofComponents
  · intro name member
    exact isName_of_mem_components (reached member).1
  · intro name member
    exact (reached member).2

/-- A dot resolves to the directory without its dots. -/
theorem resolve_dot (directory : String) :
    resolve directory "." = ofComponents ((components directory).foldl follow []) := by
  have relative : ".".toList.head? ≠ some '/' := by decide
  have named : IsName "." := by
    unfold IsName
    decide
  rw [resolve]
  simp only [if_neg relative, components_below directory named, List.foldl_append,
    List.foldl_cons, List.foldl_nil, follow, if_true]

/-- A directory without dots resolves to its normal form. -/
theorem resolve_dot_of_isProper {directory : String}
    (proper : ∀ name ∈ components directory, IsProper name) :
    resolve directory "." = normalize directory := by
  rw [resolve_dot, foldl_follow_of_isProper proper, List.nil_append, normalize_eq]

/-- The canonical paths are those that resolve to themselves. -/
theorem isCanonical_iff {path : String} : IsCanonical path ↔ resolve path "." = path := by
  constructor
  · rintro ⟨normal, proper⟩
    rw [resolve_dot_of_isProper proper, normalize_of_isNormal normal]
  · intro fixed
    rw [← fixed]
    exact isCanonical_resolve path "."

/-- A canonical path stays as it is. -/
theorem IsCanonical.normalize_eq {path : String} (canonical : IsCanonical path) :
    normalize path = path :=
  normalize_of_isNormal canonical.1

end TapeShell.Path

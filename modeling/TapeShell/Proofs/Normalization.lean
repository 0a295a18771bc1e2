/-
This file shows that the normal form of a path is made of its components, whether or not the path is
returned as it stands.
-/

import TapeShell.Path.Components

namespace TapeShell.Path

/-- The text consists of these names and of slashes, at least one between two names. -/
inductive Consists : List Char → List String → Prop where
  | empty : Consists [] []
  | slash {rest : List Char} {names : List String} (behind : Consists rest names) :
      Consists ('/' :: rest) names
  | name {name : String} {rest : List Char} {names : List String} (valid : IsName name)
      (ended : rest.head?.all (fun next => next == '/') = true) (behind : Consists rest names) :
      Consists (name.toList ++ rest) (name :: names)

section Consists

variable {text : List Char} {names : List String}

/-- A slash in front adds no component. -/
theorem components_slash_cons (rest : List Char) :
    components (String.ofList ('/' :: rest)) = components (String.ofList rest) :=
  components_append_slash [] rest

/-- A text consists of its components. -/
theorem Consists.components_eq (consists : Consists text names) :
    components (String.ofList text) = names := by
  induction consists with
  | empty => rfl
  | slash behind inductionHypothesis => rw [components_slash_cons, inductionHypothesis]
  | @name name rest names valid ended behind inductionHypothesis =>
      cases rest with
      | nil =>
          rw [List.append_nil, String.ofList_toList, components_name valid, ← inductionHypothesis]
          rfl
      | cons next more =>
          obtain rfl : next = '/' := by simpa using ended
          rw [components_slash_cons] at inductionHypothesis
          rw [components_append_slash, String.ofList_toList, components_name valid,
            inductionHypothesis, List.singleton_append]

/-- Every text consists of some names. -/
theorem exists_consists (text : List Char) : ∃ names, Consists text names := by
  induction text with
  | nil => exact ⟨[], .empty⟩
  | cons character rest inductionHypothesis =>
      obtain ⟨names, behind⟩ := inductionHypothesis
      by_cases slash : character = '/'
      · rw [slash]
        exact ⟨names, .slash behind⟩
      · have single : IsName (String.ofList [character]) := by
          simpa [IsName] using Ne.symm slash
        -- The character is a name of its own, or the first one of the name that comes next.
        cases behind with
        | empty => exact ⟨_, by simpa using Consists.name single rfl .empty⟩
        | slash more => exact ⟨_, by simpa using Consists.name single rfl (.slash more)⟩
        | @name name rest names valid ended more =>
            have longer : IsName (String.ofList (character :: name.toList)) := by
              simpa [IsName, Ne.symm slash] using valid.2
            exact ⟨_, by simpa using Consists.name longer ended more⟩

/-- The components of a path are the names that it consists of. -/
theorem consists_iff (path : String) (names : List String) :
    Consists path.toList names ↔ names = components path := by
  constructor
  · intro consists
    rw [← consists.components_eq, String.ofList_toList]
  · rintro rfl
    obtain ⟨names, consists⟩ := exists_consists path.toList
    rwa [← String.ofList_toList (s := path), consists.components_eq, String.ofList_toList]

end Consists

section Tests

/-- The test finds two slashes side by side anywhere. -/
theorem hasDoubleSlash_iff (text : List Char) :
    hasDoubleSlash text = true ↔ ['/', '/'] <:+: text := by
  induction text with
  | nil => simp [hasDoubleSlash]
  | cons character rest inductionHypothesis =>
      rw [hasDoubleSlash_cons, Bool.or_eq_true, inductionHypothesis, List.infix_cons_iff]
      refine or_congr_left ?_
      cases rest with
      | nil => simp
      | cons next more => simp [eq_comm (a := '/')]

/-- Of the paths that start with a slash, only the root has one character. -/
theorem eq_root_iff {path : String} (starts : path.toList.head? = some '/') :
    path = root ↔ path.length = 1 := by
  obtain ⟨rest, text⟩ := List.head?_eq_some_iff.mp starts
  rw [← String.toList_inj, ← String.length_toList, text]
  change '/' :: rest = ['/'] ↔ _
  simp

/-- A path is normal exactly if it passes the three tests. -/
theorem isNormal_iff (path : String) :
    isNormal path = true ↔ path.toList.head? = some '/' ∧ ¬ ['/', '/'] <:+: path.toList ∧
      (path.length = 1 ∨ path.toList.getLast? ≠ some '/') := by
  rw [isNormal, Bool.and_eq_true, Bool.and_eq_true, and_assoc, beq_iff_eq, Bool.or_eq_true,
    Bool.not_eq_true', ← Bool.not_eq_true, hasDoubleSlash_iff, beq_iff_eq, bne_iff_ne]
  refine and_congr_right fun starts => and_congr_right fun _ => ?_
  rw [eq_root_iff starts]

/-- The normal paths are those that normalization leaves as they are. -/
theorem isNormal_iff_normalize_eq (path : String) :
    isNormal path = true ↔ normalize path = path := by
  constructor
  · exact normalize_of_isNormal
  · intro unchanged
    rw [← unchanged]
    exact isNormal_normalize path

end Tests

/-- A path is normalized to its components with one slash before each. -/
theorem normalize_components (path : String) :
    (∀ names, Consists path.toList names ↔ names = components path) ∧
    normalize path = "/" ++ "/".intercalate (components path) ∧
    ((path.toList.head? = some '/' ∧ ¬ ['/', '/'] <:+: path.toList ∧
      (path.length = 1 ∨ path.toList.getLast? ≠ some '/')) ↔ normalize path = path) ∧
    normalize (normalize path) = normalize path ∧
    ∀ other, normalize path = normalize other ↔ components path = components other := by
  refine ⟨consists_iff path, normalize_eq path, ?_, ?_, fun other => normalize_inj⟩
  · rw [← isNormal_iff, isNormal_iff_normalize_eq]
  · exact normalize_of_isNormal (isNormal_normalize path)

end TapeShell.Path

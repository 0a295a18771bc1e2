/-
This file shows how the resolution of paths composes.
-/

import TapeShell.Path.Resolution

namespace TapeShell.Path

/-- A path that starts with a slash is followed from the root, any other from the directory. -/
def origin (directory input : String) : List String :=
  if input.toList.head? = some '/' then [] else components directory

/-- Resolution follows the components from the origin on. -/
theorem resolve_eq (directory input : String) :
    resolve directory input =
      ofComponents ((origin directory input ++ components input).foldl follow []) := by
  rw [resolve, origin]
  split
  · rfl
  · rw [components_below_append]

/-- The path starts from names only. -/
theorem isName_of_mem_origin {directory input name : String}
    (member : name ∈ origin directory input) : IsName name := by
  rw [origin] at member
  split at member
  · cases member
  · exact isName_of_mem_components member

/-- A resolved path has the components that are left after following them all. -/
theorem components_resolve (directory input : String) :
    components (resolve directory input) =
      (origin directory input ++ components input).foldl follow [] := by
  rw [resolve_eq, components_ofComponents]
  intro name member
  obtain ⟨followed, -⟩ := (mem_foldl_follow member).resolve_left List.not_mem_nil
  rcases List.mem_append.mp followed with before | after
  · exact isName_of_mem_origin before
  · exact isName_of_mem_components after

/-- A relative path starts from the components of its directory. -/
theorem origin_of_relative {directory input : String} (relative : input.toList.head? ≠ some '/') :
    origin directory input = components directory :=
  if_neg relative

/-- Only the first character of a path decides where it starts. -/
theorem origin_append (directory : String) {input : String} (nonempty : input ≠ "")
    (further : String) : origin directory (input ++ further) = origin directory input := by
  have starts : input.toList ≠ [] := by simpa using nonempty
  obtain ⟨first, rest, text⟩ := List.exists_cons_of_ne_nil starts
  simp [origin, text]

/-- The components of a canonical path lead to the path. -/
theorem IsCanonical.foldl_follow {path : String} (canonical : IsCanonical path) :
    (components path).foldl follow [] = components path := by
  rw [foldl_follow_of_isProper canonical.2, List.nil_append]

/-- A canonical path is absolute. -/
theorem IsCanonical.head? {path : String} (canonical : IsCanonical path) :
    path.toList.head? = some '/' := by
  have normal := canonical.1
  rw [isNormal, Bool.and_eq_true, Bool.and_eq_true] at normal
  simpa using normal.1.1

/-- A canonical path is the same from everywhere. -/
theorem IsCanonical.resolve_eq {path : String} (canonical : IsCanonical path)
    (directory : String) : resolve directory path = path := by
  rw [Path.resolve_eq, origin, if_pos canonical.head?, List.nil_append, canonical.foldl_follow,
    ofComponents_components canonical.1]

/-- A relative path from a place is followed behind the path to the place. -/
theorem resolve_resolve_of_relative (directory : String) {input further : String}
    (nonempty : input ≠ "") (relative : further.toList.head? ≠ some '/') :
    resolve (resolve directory input) further = resolve directory (input ++ "/" ++ further) := by
  calc resolve (resolve directory input) further
      = ofComponents
          ((components (resolve directory input) ++ components further).foldl follow []) := by
        rw [resolve_eq, origin_of_relative relative]
    _ = ofComponents
          ((origin directory input ++ components input ++ components further).foldl follow []) := by
        rw [List.foldl_append, (isCanonical_resolve directory input).foldl_follow,
          components_resolve, ← List.foldl_append]
    _ = resolve directory (input ++ "/" ++ further) := by
        rw [resolve_eq, String.append_assoc, origin_append directory nonempty,
          ← String.append_assoc, components_slash, List.append_assoc]

/-- Paths resolve to canonical ones, and relative paths are followed one behind the other. -/
theorem resolve_composition (directory input : String) :
    IsCanonical (resolve directory input) ∧
      normalize (resolve directory input) = resolve directory input ∧
      (∀ other, resolve other (resolve directory input) = resolve directory input) ∧
      ∀ further, input ≠ "" → further.toList.head? ≠ some '/' →
        resolve (resolve directory input) further =
          resolve directory (input ++ "/" ++ further) := by
  have canonical := isCanonical_resolve directory input
  refine ⟨canonical, canonical.normalize_eq, canonical.resolve_eq, fun further => ?_⟩
  exact resolve_resolve_of_relative directory

/-- The directory is relative and has dots, and the first path climbs above the root. -/
theorem resolve_composition_climbing :
    "../../../a" ≠ "" ∧ "./z//../w".toList.head? ≠ some '/' ∧
      resolve "x/./y" "../../../a" = "/a" ∧
      resolve (resolve "x/./y" "../../../a") "./z//../w" =
        resolve "x/./y" ("../../../a" ++ "/" ++ "./z//../w") ∧
      resolve "x/./y" ("../../../a" ++ "/" ++ "./z//../w") = "/a/w" :=
  ⟨by decide, by decide, by decide +kernel,
    (resolve_composition "x/./y" "../../../a").2.2.2 "./z//../w" (by decide) (by decide),
    by decide +kernel⟩

end TapeShell.Path

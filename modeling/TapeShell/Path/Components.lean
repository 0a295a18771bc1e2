/-
This file takes normal paths apart into the names of their components.
-/

import TapeShell.Path
import TapeShell.Text.Search

namespace TapeShell.Path

/-- A name can stand between two slashes. -/
def IsName (name : String) : Prop :=
  name.toList ≠ [] ∧ '/' ∉ name.toList

/-- This is the text of a path with at least one component. -/
def trail (names : List String) : List Char :=
  names.flatMap fun name => '/' :: name.toList

@[simp]
theorem trail_nil : trail [] = [] := rfl

@[simp]
theorem trail_cons (name : String) (names : List String) :
    trail (name :: names) = '/' :: name.toList ++ trail names := rfl

/-- Trails are joined name by name. -/
@[simp]
theorem trail_append (first second : List String) :
    trail (first ++ second) = trail first ++ trail second :=
  List.flatMap_append ..

/-- A path is a slash and its names with slashes between them. -/
theorem toList_ofComponents (names : List String) :
    (ofComponents names).toList = '/' :: ['/'].intercalate (names.map String.toList) := by
  simp [ofComponents, String.toList_intercalate]

/-- A path with a name is a trail. -/
theorem toList_ofComponents_cons (name : String) (names : List String) :
    (ofComponents (name :: names)).toList = trail (name :: names) := by
  rw [toList_ofComponents]
  induction names generalizing name with
  | nil => simp
  | cons next more inductionHypothesis =>
      have tail := inductionHypothesis next
      rw [List.map_cons, List.map_cons, List.intercalate_cons_cons, ← List.map_cons]
      simp only [List.append_assoc, List.singleton_append, tail]
      simp

/-- A path with any names is their trail. -/
theorem toList_ofComponents_of_ne_nil {names : List String} (some : names ≠ []) :
    (ofComponents names).toList = trail names := by
  cases names with
  | nil => exact absurd rfl some
  | cons name names => exact toList_ofComponents_cons name names

@[simp]
theorem ofComponents_nil : ofComponents [] = root := by decide

/-- The components of a path are names. -/
theorem isName_of_mem_components {path name : String} (member : name ∈ components path) :
    IsName name := by
  simp only [components, List.mem_map, List.mem_filter] at member
  obtain ⟨part, ⟨inParts, notEmpty⟩, rfl⟩ := member
  rw [IsName, String.toList_ofList]
  exact ⟨by simpa using notEmpty, Text.not_mem_of_mem_splitOn inParts⟩

/-- The components of a path are the names that it is made of. -/
theorem components_ofComponents {names : List String} (valid : ∀ name ∈ names, IsName name) :
    components (ofComponents names) = names := by
  have parts : ∀ part ∈ names.map String.toList, part ≠ [] ∧ '/' ∉ part := by
    intro part member
    obtain ⟨name, inNames, rfl⟩ := List.mem_map.mp member
    exact valid name inNames
  have leading : (ofComponents names).toList.splitOn '/' =
      [] :: (['/'].intercalate (names.map String.toList)).splitOn '/' := by
    rw [toList_ofComponents, List.splitOn_cons_eq_if_modifyHead]
    rfl
  rw [components, leading]
  cases names with
  | nil => simp
  | cons name names =>
      rw [List.splitOn_intercalate _ (fun part member => (parts part member).2) (by simp),
        List.filter_cons_of_neg (by simp), List.filter_eq_self.mpr]
      · simp
      · intro part member
        simpa using (parts part member).1

/-- A double slash is at the start or behind it. -/
theorem hasDoubleSlash_cons (character : Char) (rest : List Char) :
    hasDoubleSlash (character :: rest) =
      ((character == '/' && rest.head? == some '/') || hasDoubleSlash rest) := by
  by_cases slash : character = '/'
  · cases rest with
    | nil => simp [hasDoubleSlash]
    | cons next more => by_cases second : next = '/' <;> simp [hasDoubleSlash, slash, second]
  · simp [hasDoubleSlash, slash]

/-- A name adds no double slash. -/
theorem hasDoubleSlash_append {name : List Char} (noSlash : '/' ∉ name) (rest : List Char) :
    hasDoubleSlash (name ++ rest) = hasDoubleSlash rest := by
  induction name with
  | nil => rfl
  | cons character name inductionHypothesis =>
      obtain ⟨apart, noneLeft⟩ := not_or.mp (mt List.mem_cons.mpr noSlash)
      rw [List.cons_append, hasDoubleSlash_cons, inductionHypothesis noneLeft]
      simp [Ne.symm apart]

/-- A trail of names has no double slash. -/
theorem hasDoubleSlash_trail {names : List String} (valid : ∀ name ∈ names, IsName name) :
    hasDoubleSlash (trail names) = false := by
  induction names with
  | nil => rfl
  | cons name names inductionHypothesis =>
      obtain ⟨⟨notEmpty, noSlash⟩, others⟩ := List.forall_mem_cons.mp valid
      obtain ⟨first, rest, text⟩ := List.exists_cons_of_ne_nil notEmpty
      have apart : first ≠ '/' := fun same => noSlash (by simp [text, same])
      rw [trail_cons, List.cons_append, hasDoubleSlash_cons, hasDoubleSlash_append noSlash,
        inductionHypothesis others, text]
      simp [apart]

/-- A trail of names does not end in a slash. -/
theorem getLast?_trail {names : List String} (valid : ∀ name ∈ names, IsName name) :
    (trail names).getLast? ≠ some '/' := by
  rcases List.eq_nil_or_concat names with rfl | ⟨init, name, rfl⟩
  · simp
  · obtain ⟨notEmpty, noSlash⟩ := valid name (by simp)
    have text : trail (init.concat name) = (trail init ++ ['/']) ++ name.toList := by simp
    intro last
    rw [text, List.getLast?_append, List.getLast?_eq_some_getLast notEmpty, Option.some_or] at last
    exact noSlash (Option.some.inj last ▸ List.getLast_mem notEmpty)

/-- Names joined by slashes make a normal path. -/
theorem isNormal_ofComponents {names : List String} (valid : ∀ name ∈ names, IsName name) :
    isNormal (ofComponents names) = true := by
  cases names with
  | nil => decide
  | cons name names =>
      have single := hasDoubleSlash_trail valid
      have last := getLast?_trail valid
      rw [isNormal, toList_ofComponents_cons, single]
      simp only [trail_cons, List.cons_append] at last ⊢
      simp [last]

/-- Between the slashes of a text without double slashes there is always a name. -/
theorem ne_nil_of_mem_tail_splitOn {text part : List Char} (single : hasDoubleSlash text = false)
    (ends : text.getLast? ≠ some '/') (member : part ∈ (text.splitOn '/').tail) : part ≠ [] := by
  induction text with
  | nil => simp at member
  | cons character rest inductionHypothesis =>
      obtain ⟨notDouble, restSingle⟩ := Bool.or_eq_false_iff.mp (hasDoubleSlash_cons .. ▸ single)
      have restEnds : rest.getLast? ≠ some '/' := by
        intro last
        simp [List.getLast?_cons, last] at ends
      obtain ⟨first, others, found⟩ := List.exists_cons_of_ne_nil (List.splitOn_ne_nil '/' rest)
      rw [found] at inductionHypothesis
      rw [List.splitOn_cons_eq_if_modifyHead, found] at member
      split at member
      next slash =>
        rcases List.mem_cons.mp member with rfl | inOthers
        · -- The first part behind a slash is empty only before another slash or the end.
          cases rest with
          | nil => simp_all
          | cons next more =>
              have apart : next ≠ '/' := by simpa [slash] using notDouble
              obtain ⟨head, tail, split⟩ :=
                List.exists_cons_of_ne_nil (List.splitOn_ne_nil '/' more)
              simp [List.splitOn_cons_eq_if_modifyHead, apart, split] at found
              simp [← found.1]
        · exact inductionHypothesis restSingle restEnds inOthers
      next => exact inductionHypothesis restSingle restEnds member

/-- A normal path is made of its components. -/
theorem ofComponents_components {path : String} (normal : isNormal path = true) :
    ofComponents (components path) = path := by
  by_cases isRoot : path = root
  · subst isRoot
    decide
  · simp only [isNormal, Bool.and_eq_true, Bool.or_eq_true, Bool.not_eq_true', beq_iff_eq,
      bne_iff_ne, isRoot, false_or] at normal
    obtain ⟨⟨starts, single⟩, ends⟩ := normal
    obtain ⟨rest, text⟩ := List.head?_eq_some_iff.mp starts
    have parts : path.toList.splitOn '/' = [] :: rest.splitOn '/' := by
      rw [text, List.splitOn_cons_eq_if_modifyHead]
      rfl
    have named : ∀ part ∈ rest.splitOn '/', part ≠ [] := by
      intro part member
      exact ne_nil_of_mem_tail_splitOn single ends (by simpa [parts] using member)
    have kept : (rest.splitOn '/').filter (fun part => !part.isEmpty) = rest.splitOn '/' :=
      List.filter_eq_self.mpr fun part member => by simpa using named part member
    apply String.toList_inj.mp
    rw [toList_ofComponents, components, parts, List.filter_cons_of_neg (by simp), kept, text]
    simp [List.map_map, Function.comp_def]

/-- The normal form is made of the components. -/
theorem normalize_eq (path : String) : normalize path = ofComponents (components path) := by
  rw [normalize]
  split
  next normal => exact (ofComponents_components normal).symm
  next => rfl

/-- The normal form is normal. -/
theorem isNormal_normalize (path : String) : isNormal (normalize path) = true := by
  rw [normalize_eq]
  exact isNormal_ofComponents fun _ => isName_of_mem_components

/-- The normal form has the same components. -/
theorem components_normalize (path : String) : components (normalize path) = components path := by
  rw [normalize_eq, components_ofComponents fun _ => isName_of_mem_components]

/-- A normal path stays as it is. -/
theorem normalize_of_isNormal {path : String} (normal : isNormal path = true) :
    normalize path = path :=
  if_pos normal

/-- Normal paths are equal exactly if their components are. -/
theorem components_inj {first second : String} (normal : isNormal first = true)
    (otherNormal : isNormal second = true) :
    components first = components second ↔ first = second := by
  constructor
  · intro same
    rw [← ofComponents_components normal, same, ofComponents_components otherNormal]
  · rintro rfl
    rfl

/-- Two spellings name the same path exactly if they have the same components. -/
theorem normalize_inj {first second : String} :
    normalize first = normalize second ↔ components first = components second := by
  rw [← components_inj (isNormal_normalize first) (isNormal_normalize second),
    components_normalize, components_normalize]

/-- Every normal path has a list of names. -/
theorem exists_names {path : String} (normal : isNormal path = true) :
    ∃ names, (∀ name ∈ names, IsName name) ∧ path = ofComponents names :=
  ⟨components path, fun _ => isName_of_mem_components, (ofComponents_components normal).symm⟩

/-- Below a directory paths start with its trail and a slash. -/
theorem below_ofComponents {names : List String} (valid : ∀ name ∈ names, IsName name) :
    (below (ofComponents names)).toList = trail names ++ ['/'] := by
  cases names with
  | nil => decide
  | cons name names =>
      have notRoot : ofComponents (name :: names) ≠ root := by
        intro same
        have empty := components_ofComponents valid
        rw [same, ← ofComponents_nil, components_ofComponents (by simp)] at empty
        simp at empty
      rw [below, if_neg notRoot, String.toList_append, toList_ofComponents_cons]
      rfl

/-- A name below a directory is one more component. -/
theorem below_append_name {names : List String} (valid : ∀ name ∈ names, IsName name)
    (name : String) : below (ofComponents names) ++ name = ofComponents (names ++ [name]) := by
  apply String.toList_inj.mp
  rw [String.toList_append, below_ofComponents valid,
    toList_ofComponents_of_ne_nil (List.append_ne_nil_of_right_ne_nil names (by simp))]
  simp

/-- The parent of a path has all of its components but the last one. -/
theorem parent_ofComponents (names : List String) {name : String} (valid : IsName name) :
    parent (ofComponents (names ++ [name])) = ofComponents names := by
  have text : (ofComponents (names ++ [name])).toList.reverse =
      name.toList.reverse ++ '/' :: (trail names).reverse := by
    rw [toList_ofComponents_of_ne_nil (List.append_ne_nil_of_right_ne_nil names (by simp))]
    simp
  have dropped : (name.toList.reverse ++ '/' :: (trail names).reverse).dropWhile
      (fun character => character != '/') = '/' :: (trail names).reverse := by
    rw [List.dropWhile_append_of_pos]
    · simp
    · intro character member
      have inName : character ∈ name.toList := List.mem_reverse.mp member
      have apart : character ≠ '/' := fun same => valid.2 (same ▸ inName)
      simpa using apart
  rw [parent, text, dropped]
  cases names with
  | nil => simp
  | cons first names =>
      obtain ⟨last, before, reversed⟩ :=
        List.exists_cons_of_ne_nil (l := (trail (first :: names)).reverse) (by simp)
      rw [reversed]
      simp only
      rw [← reversed, List.reverse_reverse, ← toList_ofComponents_cons, String.ofList_toList]

/-- A component more makes the path longer. -/
theorem length_ofComponents_lt (names : List String) {name : String} (valid : IsName name) :
    (ofComponents names).length < (ofComponents (names ++ [name])).length := by
  have long : 0 < name.toList.length := List.length_pos_iff.mpr valid.1
  rw [← String.length_toList, ← String.length_toList,
    toList_ofComponents_of_ne_nil (List.append_ne_nil_of_right_ne_nil names (by simp))]
  cases names with
  | nil =>
      have rootLength : root.toList.length = 1 := by decide
      rw [ofComponents_nil, rootLength]
      simpa using long
  | cons first names =>
      rw [toList_ofComponents_cons, trail_append]
      simp

theorem components_root : components root = [] := by decide

@[simp]
theorem parent_root : parent root = root := by decide

@[simp]
theorem isNormal_root : isNormal root = true := by decide

/-- The root has no ancestors. -/
@[simp]
theorem ancestors_root : ancestors root = [] := by
  rw [ancestors, if_neg (by decide)]

section Child

variable {directory name path : String}

/-- A path below a directory is longer. -/
theorem length_lt_below (normal : isNormal directory = true) (valid : IsName name) :
    directory.length < (below directory ++ name).length := by
  obtain ⟨names, allValid, rfl⟩ := exists_names normal
  rw [below_append_name allValid]
  exact length_ofComponents_lt names valid

/-- Every normal path but the root is a name in its parent. -/
theorem exists_child (normal : isNormal path = true) (notRoot : path ≠ root) :
    isNormal (parent path) = true ∧ ∃ name, IsName name ∧ path = below (parent path) ++ name := by
  obtain ⟨names, valid, rfl⟩ := exists_names normal
  rcases List.eq_nil_or_concat names with rfl | ⟨init, name, rfl⟩
  · exact absurd ofComponents_nil notRoot
  · rw [List.concat_eq_append] at valid ⊢
    have validName : IsName name := valid name (by simp)
    have validInit : ∀ name ∈ init, IsName name := fun name member => valid name (by simp [member])
    rw [parent_ofComponents init validName]
    exact ⟨isNormal_ofComponents validInit, name, validName,
      (below_append_name validInit name).symm⟩

/-- The parent of a normal path is normal. -/
theorem isNormal_parent (normal : isNormal path = true) : isNormal (parent path) = true := by
  by_cases isRoot : path = root
  · rw [isRoot, parent_root]
    exact isNormal_root
  · exact (exists_child normal isRoot).1

/-- The parent is shorter. -/
theorem length_parent_lt (normal : isNormal path = true) (notRoot : path ≠ root) :
    (parent path).length < path.length := by
  obtain ⟨parentNormal, name, valid, child⟩ := exists_child normal notRoot
  have longer := length_lt_below parentNormal valid
  rwa [← child] at longer

/-- The ancestors are the parent and its ancestors. -/
theorem ancestors_eq (normal : isNormal path = true) (notRoot : path ≠ root) :
    ancestors path = parent path :: ancestors (parent path) := by
  rw [ancestors, if_pos (length_parent_lt normal notRoot)]

/-- A slash separates the components of its two sides. -/
theorem components_append_slash (first second : List Char) :
    components (String.ofList (first ++ '/' :: second)) =
      components (String.ofList first) ++ components (String.ofList second) := by
  simp only [components, String.toList_ofList, List.splitOn_append_cons_self, List.filter_append,
    List.map_append]

/-- A slash joins the components of its two sides. -/
theorem components_slash (first second : String) :
    components (first ++ "/" ++ second) = components first ++ components second := by
  have text : (first ++ "/" ++ second).toList = first.toList ++ '/' :: second.toList := by simp
  rw [← String.ofList_toList (s := first ++ "/" ++ second), text, components_append_slash,
    String.ofList_toList, String.ofList_toList]

/-- What is written behind a directory adds its components to those of the directory. -/
theorem components_below_append (directory input : String) :
    components (below directory ++ input) = components directory ++ components input := by
  rw [below]
  split
  next isRoot =>
    have slash : root ++ input = "" ++ "/" ++ input := by simp [root]
    rw [isRoot, components_root, slash, components_slash]
    rfl
  next => exact components_slash directory input

/-- A name is its only component. -/
theorem components_name (valid : IsName name) : components name = [name] := by
  have notEmpty : name.toList.isEmpty = false := by simpa using valid.1
  simp [components, List.splitOn_eq_singleton valid.2, notEmpty]

/-- A name below a directory is its last component. -/
theorem components_below (directory : String) (valid : IsName name) :
    components (below directory ++ name) = components directory ++ [name] := by
  rw [components_below_append, components_name valid]

/-- The directory alone is normalized. -/
theorem normalize_below (directory : String) (valid : IsName name) :
    normalize (below directory ++ name) = below (normalize directory) ++ name := by
  rw [normalize_eq, normalize_eq, components_below directory valid,
    below_append_name fun _ => isName_of_mem_components]

/-- A path with a name at its end is not the root. -/
theorem below_append_ne_root (directory : String) (valid : IsName name) :
    below directory ++ name ≠ root := by
  have slash : 0 < (below directory).toList.length := by
    rw [below]
    split <;> simp [root]
  have long : 0 < name.toList.length := List.length_pos_iff.mpr valid.1
  intro same
  have size := congrArg (·.toList.length) same
  simp only [String.toList_append, List.length_append] at size
  change _ = 1 at size
  omega

/-- Below a name in a directory paths go on behind a slash. -/
theorem below_below (directory : String) (valid : IsName name) :
    below (below directory ++ name) = below directory ++ name ++ "/" :=
  if_neg (below_append_ne_root directory valid)

/-- What lies below a name lies below its directory. -/
theorem prefix_below_below (directory : String) (valid : IsName name) :
    (below directory).toList <+: (below (below directory ++ name)).toList := by
  rw [below_below directory valid, String.append_assoc, String.toList_append]
  exact List.prefix_append _ _

/-- Nothing lies below itself. -/
theorem not_below_prefix_self (directory : String) (valid : IsName name) :
    ¬ (below (below directory ++ name)).toList <+: (below directory ++ name).toList := by
  intro starts
  have shorter := starts.length_le
  rw [below_below directory valid, String.toList_append, List.length_append] at shorter
  change _ + 1 ≤ _ at shorter
  omega

/-- A path below another directory than the root has one more slash than its parent. -/
theorem occurrences_parent (normal : isNormal path = true) (notRoot : path ≠ root)
    (deep : parent path ≠ root) :
    Text.occurrences '/' path = Text.occurrences '/' (parent path) + 1 := by
  obtain ⟨-, name, valid, text⟩ := exists_child normal notRoot
  have noSlash : name.toList.count '/' = 0 := List.count_eq_zero.mpr valid.2
  have whole : path.toList = (parent path).toList ++ '/' :: name.toList := by
    conv => lhs; rw [text, below, if_neg deep]
    simp
  rw [Text.occurrences, whole, List.count_append, List.count_cons_self, noSlash, Text.occurrences]

/-- The root has as many slashes as a path in it, and comes before it. -/
theorem root_before (normal : isNormal path = true) (notRoot : path ≠ root)
    (top : parent path = root) :
    Text.occurrences '/' root = Text.occurrences '/' path ∧ root < path := by
  obtain ⟨-, name, valid, text⟩ := exists_child normal notRoot
  obtain ⟨first, rest, spelled⟩ := List.exists_cons_of_ne_nil valid.1
  have noSlash : name.toList.count '/' = 0 := List.count_eq_zero.mpr valid.2
  have whole : path.toList = '/' :: name.toList := by
    rw [text, top, below, if_pos rfl, String.toList_append]
    rfl
  constructor
  · rw [Text.occurrences, Text.occurrences, whole, List.count_cons_self, noSlash]
    rfl
  · change root.toList < path.toList
    rw [whole, spelled]
    exact List.cons_lt_cons_iff.mpr (.inr ⟨rfl, List.nil_lt_cons _ _⟩)

/-- What the root has, and a path has with its parent, every normal path has. -/
@[elab_as_elim]
theorem normalInduction {motive : (path : String) → isNormal path = true → Prop}
    (top : motive root isNormal_root)
    (child : ∀ path normal, path ≠ root → motive (parent path) (isNormal_parent normal) →
      motive path normal)
    (path : String) (normal : isNormal path = true) : motive path normal := by
  by_cases isRoot : path = root
  · subst isRoot
    exact top
  · exact child path normal isRoot
      (normalInduction top child (parent path) (isNormal_parent normal))
termination_by path.length
decreasing_by exact length_parent_lt normal isRoot

/-- The ancestors of a normal path are normal. -/
theorem isNormal_of_mem_ancestors (normal : isNormal path = true) {ancestor : String}
    (member : ancestor ∈ ancestors path) : isNormal ancestor = true := by
  induction path, normal using normalInduction with
  | top => simp at member
  | child path normal notRoot inductionHypothesis =>
      rw [ancestors_eq normal notRoot] at member
      rcases List.mem_cons.mp member with rfl | above
      · exact isNormal_parent normal
      · exact inductionHypothesis above

/-- What is above the parent is above the path. -/
theorem mem_ancestors_of_parent (normal : isNormal path = true) {place : String}
    (above : place ∈ parent path :: ancestors (parent path)) : place ∈ path :: ancestors path := by
  by_cases isRoot : path = root
  · rwa [isRoot, parent_root, ← isRoot] at above
  · rw [ancestors_eq normal isRoot]
    exact List.mem_cons_of_mem path above

/-- A path and its ancestors have the first components of the path. -/
theorem mem_ancestors_iff (normal : isNormal path = true) {place : String}
    (placeNormal : isNormal place = true) :
    place ∈ path :: ancestors path ↔ components place <+: components path := by
  induction path, normal using normalInduction with
  | top =>
      rw [ancestors_root, List.mem_singleton, components_root, List.prefix_nil,
        ← components_root, components_inj placeNormal isNormal_root]
  | child path normal notRoot inductionHypothesis =>
      obtain ⟨-, name, valid, text⟩ := exists_child normal notRoot
      have whole : components path = components (parent path) ++ [name] := by
        conv => lhs; rw [text]
        exact components_below (parent path) valid
      rw [List.mem_cons, ancestors_eq normal notRoot, inductionHypothesis, whole,
        List.prefix_concat_iff, ← whole, components_inj placeNormal normal]

end Child

end TapeShell.Path

/-
This file shows that a catalog is a map from names in any letter case to the commands that were
registered last under them.
-/

import Mathlib.Data.List.Forall2
import Mathlib.Data.List.Pairwise
import TapeShell.Proofs.Command

namespace TapeShell.Catalog

section LetterCase

/-- These are the capitals of the basic alphabet. -/
def IsCapital (character : Char) : Prop :=
  'A' ≤ character ∧ character ≤ 'Z'

/-- Two characters are the same, or one is the capital of the other. -/
def SameLetter (left right : Char) : Prop :=
  left = right ∨ IsCapital left ∧ right.toNat = left.toNat + 32 ∨
    IsCapital right ∧ left.toNat = right.toNat + 32

/-- Two names differ in nothing but the case of basic letters. -/
def Alike (first second : String) : Prop :=
  List.Forall₂ SameLetter first.toList second.toList

instance : DecidablePred IsCapital := fun character =>
  inferInstanceAs (Decidable ('A' ≤ character ∧ character ≤ 'Z'))

instance : DecidableRel SameLetter := fun left right =>
  inferInstanceAs (Decidable (left = right ∨ IsCapital left ∧ right.toNat = left.toNat + 32 ∨
    IsCapital right ∧ left.toNat = right.toNat + 32))

instance : DecidableRel Alike := fun first second =>
  inferInstanceAs (Decidable (List.Forall₂ SameLetter first.toList second.toList))

/-- The capitals are the points from 65 to 90. -/
theorem isCapital_iff (character : Char) :
    IsCapital character ↔ 65 ≤ character.toNat ∧ character.toNat ≤ 90 := by
  rw [IsCapital, Char.le_def, Char.le_def, UInt32.le_iff_toNat_le, UInt32.le_iff_toNat_le]
  rfl

/-- A capital becomes the letter 32 points above it. -/
theorem toNat_toLower (character : Char) :
    character.toLower.toNat =
      if IsCapital character then character.toNat + 32 else character.toNat := by
  split
  next capital =>
    have lower : character.toLower.toNat = (character.val + ('a'.val - 'A'.val)).toNat :=
      congrArg Char.toNat (dif_pos capital)
    have small := ((isCapital_iff character).mp capital).2
    rw [lower, UInt32.toNat_add, Char.toNat_val]
    change (character.toNat + 32) % 2 ^ 32 = _
    omega
  next other => exact congrArg Char.toNat (dif_neg other)

/-- Characters have the same small letter exactly if they are the same letter. -/
theorem toLower_eq_iff (left right : Char) :
    left.toLower = right.toLower ↔ SameLetter left right := by
  rw [← Char.toNat_inj, toNat_toLower, toNat_toLower, SameLetter, ← Char.toNat_inj]
  simp only [isCapital_iff]
  split <;> split <;> omega

/-- Names have the same key exactly if they are alike. -/
theorem foldCase_eq_iff (first second : String) :
    foldCase first = foldCase second ↔ Alike first second := by
  rw [foldCase, foldCase, ← String.toList_inj, String.toList_map, String.toList_map, Alike,
    ← List.forall₂_eq_eq_eq, List.forall₂_map_left_iff, List.forall₂_map_right_iff]
  simp only [toLower_eq_iff]

/-- A name is like itself. -/
theorem alike_refl (name : String) : Alike name name :=
  (foldCase_eq_iff name name).mp rfl

end LetterCase

/-- The names are those of the commands, and no two of them are alike. -/
structure Represents (names : List String) (commands : List Command) : Prop where
  distinct : names.Pairwise fun left right => ¬ Alike left right
  used : ∀ name ∈ names, ∃ command ∈ commands, Alike command.name name
  complete : ∀ command ∈ commands, ∃ name ∈ names, Alike command.name name

/-- The last of the commands whose name is alike. -/
def lastNamed? (commands : List Command) (name : String) : Option Command :=
  (commands.filter fun command => Alike command.name name).getLast?

/-- Some name finds the command. -/
def Offers (catalog : Catalog) (command : Command) : Prop :=
  ∃ name, catalog.resolve? name = some command

section Commands

variable {commands : List Command} {command : Command}

/-- The keys are those of the registered names. -/
theorem mem_keys_ofList {key : String} :
    key ∈ (ofList commands).commands.keys ↔ ∃ command ∈ commands, foldCase command.name = key := by
  rw [Table.mem_keys_iff, Table.contains, find?_ofList, List.getLast?_isSome]
  simp [List.filter_eq_nil_iff]

/-- A name finds the last command with a name like it. -/
theorem resolve?_ofList (commands : List Command) (name : String) :
    (ofList commands).resolve? name = lastNamed? commands name := by
  simp only [resolve?, find?_ofList, foldCase_eq_iff, lastNamed?]

section Names

/-- The keys are in ascending order. -/
theorem ascending_keys (catalog : Catalog) :
    catalog.commands.keys.Pairwise fun left right => left < right :=
  List.pairwise_map.mpr catalog.commands.ascending

/-- No key occurs twice. -/
theorem nodup_keys (catalog : Catalog) : catalog.commands.keys.Nodup :=
  Table.nodup_of_ascending id catalog.ascending_keys

/-- Every command is kept under the key of its name. -/
theorem key_of_mem_entries {entry : String × Command}
    (member : entry ∈ (ofList commands).commands.entries) :
    entry.1 = foldCase entry.2.name := by
  have found := (ofList commands).commands.find?_eq_some_iff.mpr member
  exact (mem_of_find?_ofList found).2.symm

/-- The commands that are kept have names that stand for those of all commands. -/
theorem represents_names (commands : List Command) :
    Represents ((ofList commands).commands.entries.map fun entry => entry.2.name) commands where
  distinct := by
    rw [List.pairwise_map]
    apply (ofList commands).commands.ascending.imp_of_mem
    intro left right inLeft inRight less alike
    rw [← foldCase_eq_iff, ← key_of_mem_entries inLeft, ← key_of_mem_entries inRight] at alike
    rw [alike] at less
    exact String.lt_irrefl _ less
  used name member := by
    obtain ⟨entry, kept, rfl⟩ := List.mem_map.mp member
    have found := (ofList commands).commands.find?_eq_some_iff.mpr kept
    exact ⟨entry.2, (mem_of_find?_ofList found).1, alike_refl entry.2.name⟩
  complete command listed := by
    have inKeys := mem_keys_ofList.mpr ⟨command, listed, rfl⟩
    obtain ⟨entry, kept, same⟩ := List.mem_map.mp inKeys
    rw [key_of_mem_entries kept, eq_comm, foldCase_eq_iff] at same
    exact ⟨entry.2.name, List.mem_map_of_mem kept, same⟩

/-- No two commands that are kept share a name. -/
theorem nodup_names (commands : List Command) :
    ((ofList commands).commands.entries.map fun entry => entry.2.name).Nodup := by
  apply (represents_names commands).distinct.imp
  rintro name _ apart rfl
  exact apart (alike_refl name)

/-- However the names are chosen, there are as many of them as commands. -/
theorem size_of_represents {names : List String} (represents : Represents names commands) :
    (ofList commands).size = names.length := by
  have distinct : (names.map foldCase).Nodup := by
    rw [List.nodup_iff_pairwise_ne, List.pairwise_map]
    exact represents.distinct.imp fun apart => mt (foldCase_eq_iff _ _).mp apart
  have same : ∀ key, key ∈ names.map foldCase ↔ key ∈ (ofList commands).commands.keys := by
    intro key
    rw [mem_keys_ofList, List.mem_map]
    constructor
    · rintro ⟨name, member, rfl⟩
      obtain ⟨command, listed, alike⟩ := represents.used name member
      exact ⟨command, listed, (foldCase_eq_iff _ _).mpr alike⟩
    · rintro ⟨command, listed, rfl⟩
      obtain ⟨name, member, alike⟩ := represents.complete command listed
      exact ⟨name, member, ((foldCase_eq_iff _ _).mpr alike).symm⟩
  have permuted := (List.perm_ext_iff_of_nodup distinct (nodup_keys _)).mpr same
  calc (ofList commands).size
      = (ofList commands).commands.keys.length := (List.length_map _).symm
    _ = (names.map foldCase).length := permuted.length_eq.symm
    _ = names.length := List.length_map _

/-- Items with different keys are sorted into strictly ascending order. -/
theorem ascending_mergeSort {β : Type} (key : β → String) {items : List β}
    (distinct : (items.map key).Nodup) :
    (items.mergeSort fun left right => decide (key left ≤ key right)).Pairwise
      fun left right => key left < key right := by
  have permuted := List.mergeSort_perm items fun left right => decide (key left ≤ key right)
  have sorted : (items.mergeSort fun left right => decide (key left ≤ key right)).Pairwise
      fun left right => decide (key left ≤ key right) = true := by
    apply List.pairwise_mergeSort
    · intro first second third
      simpa using String.le_trans
    · intro first second
      simpa using String.le_total (key first) (key second)
  have apart : (items.mergeSort fun left right => decide (key left ≤ key right)).Pairwise
      fun left right => key left ≠ key right := by
    rw [← List.pairwise_map, ← List.nodup_iff_pairwise_ne, (permuted.map key).nodup_iff]
    exact distinct
  refine (sorted.and apart).imp fun {left right} both => ?_
  exact Table.key_lt_of_not_lt (String.not_lt.mpr (of_decide_eq_true both.1)) both.2.symm

/-- The completions are the keys with the given start. -/
theorem mem_completions_iff {start name : String} :
    name ∈ (ofList commands).completions start ↔
      (∃ command ∈ commands, foldCase command.name = name) ∧
        (foldCase start).toList <+: name.toList := by
  rw [completions, List.mem_mergeSort, List.mem_filter, mem_keys_ofList,
    List.isPrefixOf_iff_prefix]

/-- The completions are in ascending order. -/
theorem ascending_completions (catalog : Catalog) (start : String) :
    (catalog.completions start).Pairwise fun left right => left < right := by
  apply ascending_mergeSort id
  rw [List.map_id]
  exact catalog.nodup_keys.filter _

end Names

section Listing

/-- The commands that a name can find are those that are kept under their keys. -/
theorem offers_ofList_iff :
    (ofList commands).Offers command ↔
      (foldCase command.name, command) ∈ (ofList commands).commands.entries := by
  rw [← Table.find?_eq_some_iff]
  constructor
  · rintro ⟨name, found⟩
    rw [resolve?] at found
    rwa [(mem_of_find?_ofList found).2]
  · intro found
    exact ⟨command.name, found⟩

/-- Two commands that can be found have different names. -/
theorem eq_of_offers {other : Command} (offered : (ofList commands).Offers command)
    (otherOffered : (ofList commands).Offers other) (same : command.name = other.name) :
    command = other := by
  rw [offers_ofList_iff, ← Table.find?_eq_some_iff] at offered otherOffered
  rw [same, otherOffered] at offered
  exact (Option.some.inj offered).symm

/-- The listing shows each command that is kept. -/
theorem perm_listing (catalog : Catalog) :
    catalog.listing.Perm (catalog.commands.entries.map fun entry =>
      (entry.2.name, entry.2.description)) :=
  List.mergeSort_perm _ _

/-- The listing shows the commands that can be found. -/
theorem mem_listing_iff {pair : String × String} :
    pair ∈ (ofList commands).listing ↔
      ∃ command, (ofList commands).Offers command ∧
        (command.name, command.description) = pair := by
  rw [(perm_listing _).mem_iff, List.mem_map]
  constructor
  · rintro ⟨⟨key, command⟩, member, rfl⟩
    obtain rfl : key = foldCase command.name := key_of_mem_entries member
    exact ⟨command, offers_ofList_iff.mpr member, rfl⟩
  · rintro ⟨command, offered, rfl⟩
    exact ⟨_, offers_ofList_iff.mp offered, rfl⟩

/-- The listing is in ascending order of the names. -/
theorem ascending_listing (commands : List Command) :
    (ofList commands).listing.Pairwise fun left right => left.1 < right.1 := by
  apply ascending_mergeSort Prod.fst
  rw [List.map_map]
  exact nodup_names commands

end Listing

/-- Commands with different names can be registered in either order. -/
theorem register_comm (catalog : Catalog) {first second : Command}
    (apart : ¬ Alike first.name second.name) :
    (catalog.register first).register second = (catalog.register second).register first := by
  rw [← foldCase_eq_iff] at apart
  exact congrArg Catalog.mk (Table.insert_comm _ apart _ _)

/-- Where no command replaces another, their order does not matter. -/
theorem ofList_perm {others : List Command} (permuted : commands.Perm others)
    (distinct : commands.Pairwise fun left right => ¬ Alike left.name right.name) :
    ofList commands = ofList others := by
  apply permuted.foldl_eq'
  intro first inFirst second inSecond catalog
  by_cases same : first = second
  · rw [same]
  · have symmetric : Std.Symm fun left right : Command => ¬ Alike left.name right.name := by
      refine ⟨fun left right apart => ?_⟩
      rwa [← foldCase_eq_iff, eq_comm, foldCase_eq_iff]
    exact register_comm catalog (distinct.forall inFirst inSecond same)

end Commands

/-- A catalog finds the last command of each name, and lists and completes them in order. -/
theorem ofList_answers (commands : List Command) :
    (∀ name, (ofList commands).resolve? name = lastNamed? commands name) ∧
    ((∃ names, Represents names commands) ∧
      ∀ names, Represents names commands → (ofList commands).size = names.length) ∧
    (∀ start, ((ofList commands).completions start).Pairwise (fun left right => left < right) ∧
      ∀ name, name ∈ (ofList commands).completions start ↔
        (∃ command ∈ commands, foldCase command.name = name) ∧
          (foldCase start).toList <+: name.toList) ∧
    ((ofList commands).listing.Pairwise (fun left right => left.1 < right.1) ∧
      (∀ command, (ofList commands).Offers command →
        (ofList commands).listing.count (command.name, command.description) = 1) ∧
      ∀ pair ∈ (ofList commands).listing, ∃! command,
        (ofList commands).Offers command ∧ (command.name, command.description) = pair) ∧
    ∀ others, commands.Perm others →
      commands.Pairwise (fun left right => ¬ Alike left.name right.name) →
      (∀ name, (ofList others).resolve? name = (ofList commands).resolve? name) ∧
        (ofList others).size = (ofList commands).size ∧
        (∀ start, (ofList others).completions start = (ofList commands).completions start) ∧
        (ofList others).listing = (ofList commands).listing := by
  refine ⟨resolve?_ofList commands, ⟨⟨_, represents_names commands⟩, fun _ => size_of_represents⟩,
    fun start => ⟨ascending_completions _ start, fun name => mem_completions_iff⟩,
    ⟨ascending_listing commands, fun command offered => ?_, fun pair member => ?_⟩,
    fun others permuted distinct => ?_⟩
  · have distinct := Table.nodup_of_ascending Prod.fst (ascending_listing commands)
    exact List.count_eq_one_of_mem distinct (mem_listing_iff.mpr ⟨command, offered, rfl⟩)
  · obtain ⟨command, offered, rfl⟩ := mem_listing_iff.mp member
    refine ⟨command, ⟨offered, rfl⟩, fun other both => ?_⟩
    exact eq_of_offers both.1 offered (congrArg Prod.fst both.2)
  · rw [ofList_perm permuted distinct]
    exact ⟨fun _ => rfl, rfl, fun _ => rfl, rfl⟩

/-- This command does nothing. -/
def greeting (name description : String) : Command :=
  ⟨name, description, "", "", fun _ _ machine => machine.reply [] [] Status.success⟩

/-- The first greeting is replaced by the second one. -/
def greetings : List Command :=
  [greeting "Hello" "old", greeting "hELLO" "new", greeting "Bye" ""]

/-- The second greeting is found under the name of the first. -/
theorem ofList_answers_greetings :
    ((ofList greetings).resolve? "HELLO").map Command.description = some "new" ∧
      (ofList greetings).size = 2 ∧
      "hello" ∈ (ofList greetings).completions "He" ∧
      (ofList [greeting "Bye" "", greeting "Hello" "old"]).listing =
        (ofList [greeting "Hello" "old", greeting "Bye" ""]).listing := by
  obtain ⟨resolves, ⟨-, counts⟩, completes, -, -⟩ := ofList_answers greetings
  obtain ⟨-, -, -, -, reorders⟩ :=
    ofList_answers [greeting "Hello" "old", greeting "Bye" ""]
  have represents : Represents ["HELLO", "bye"] greetings :=
    ⟨by decide +kernel, by decide +kernel, by decide +kernel⟩
  refine ⟨?_, counts _ represents, ((completes "He").2 "hello").mpr (by decide +kernel), ?_⟩
  · rw [resolves]
    decide +kernel
  · exact (reorders _ (List.Perm.swap _ _ _) (by decide +kernel)).2.2.2

end TapeShell.Catalog

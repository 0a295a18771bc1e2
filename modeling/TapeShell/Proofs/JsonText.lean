/-
This file shows that a JSON value is read back from its text, on one line or indented.
-/

import TapeShell.Proofs.Spelling

namespace TapeShell.Json

/-- The value can be written: its numbers are whole and all its strings have a text. -/
inductive Plain : Json → Prop where
  | null : Plain .null
  | boolean (value : Bool) : Plain (.boolean value)
  | number (value : Nat) : Plain (.number (Text.Decimal.digits value))
  | string (text : String) : Plain (.string (some text))
  | array {items : List Json} (plain : ∀ item ∈ items, Plain item) : Plain (.array items)
  | object {fields : List (Option String × Json)} (keys : ∀ field ∈ fields, field.1.isSome = true)
      (plain : ∀ field ∈ fields, Plain field.2) : Plain (.object fields)

section Symbols

mutual

/-- These are the symbols of a value, whatever space stands between them. -/
def symbols : Json → List Symbol
  | .array items => .openBracket :: itemSymbols items ++ [.closeBracket]
  | .object fields => .openBrace :: fieldSymbols fields ++ [.closeBrace]
  | scalar => [.scalar scalar]

/-- These are the symbols of the items, with commas between them. -/
def itemSymbols : List Json → List Symbol
  | [] => []
  | [item] => symbols item
  | item :: next :: rest => symbols item ++ .comma :: itemSymbols (next :: rest)

/-- These are the symbols of the fields, with commas between them. -/
def fieldSymbols : List (Option String × Json) → List Symbol
  | [] => []
  | [(key, value)] => .scalar (.string key) :: .colon :: symbols value
  | (key, value) :: next :: rest =>
      .scalar (.string key) :: .colon :: symbols value ++ .comma :: fieldSymbols (next :: rest)

end

/-- The text spells these symbols before anything that delimits them. -/
def Writes (text : List Char) (written : List Symbol) : Prop :=
  ∀ rest more, Delimited rest → Spelled rest more → Spelled (text ++ rest) (written ++ more)

/-- The indentation of a line spells nothing. -/
theorem spelled_newline (depth : Nat) {text : List Char} {more : List Symbol}
    (spelled : Spelled text more) : Spelled (newline depth ++ text) more := by
  have spaces (count : Nat) : Spelled (List.replicate count ' ' ++ text) more := by
    induction count with
    | zero => exact spelled
    | succ count inductionHypothesis => exact .space inductionHypothesis
  exact .newline (spaces _)

/-- A new line delimits what stands before it. -/
theorem delimited_newline (depth : Nat) (text : List Char) : Delimited (newline depth ++ text) :=
  delimited_cons (by simp [Delimits]) _

/-- The empty text spells nothing. -/
theorem writes_nil : Writes [] [] :=
  fun _ _ _ spelled => spelled

/-- Commas stand between the written items, as they stand between their symbols. -/
theorem Writes.intercalate {α : Type} {items : List α} {write : α → List Char}
    {read : α → List Symbol} (writes : ∀ item ∈ items, Writes (write item) (read item)) :
    Writes ([','].intercalate (items.map write)) ([.comma].intercalate (items.map read)) := by
  induction items with
  | nil => exact writes_nil
  | cons item items inductionHypothesis =>
      obtain ⟨first, others⟩ := List.forall_mem_cons.mp writes
      cases items with
      | nil => simpa using first
      | cons next items =>
          intro rest more delimited spelled
          have comma : Delimited (',' :: ([','].intercalate ((next :: items).map write) ++ rest)) :=
            delimited_cons (by simp [Delimits]) _
          have tail := Spelled.comma (inductionHypothesis others rest more delimited spelled)
          simpa [List.intercalate_cons_cons] using first _ _ comma tail

/-- A function that puts one separator between what it writes is an intercalation. -/
theorem eq_intercalate {α β : Type} {separator : β} {write : α → List β} {join : List α → List β}
    (empty : join [] = []) (single : ∀ item, join [item] = write item)
    (several : ∀ item next rest,
      join (item :: next :: rest) = write item ++ separator :: join (next :: rest))
    (items : List α) : join items = [separator].intercalate (items.map write) := by
  induction items with
  | nil => exact empty
  | cons item items inductionHypothesis =>
      cases items with
      | nil => simpa using single item
      | cons next rest =>
          rw [several, inductionHypothesis]
          simp [List.intercalate_cons_cons]

/-- The items are joined by commas. -/
theorem itemSymbols_eq (items : List Json) :
    itemSymbols items = [.comma].intercalate (items.map symbols) := by
  apply eq_intercalate <;> intros <;> simp [itemSymbols]

/-- The fields are joined by commas. -/
theorem fieldSymbols_eq (fields : List (Option String × Json)) :
    fieldSymbols fields = [.comma].intercalate (fields.map fun field =>
      .scalar (.string field.1) :: .colon :: symbols field.2) := by
  apply eq_intercalate <;> intros <;> simp [fieldSymbols]

end Symbols

section Texts

/-- The compact form joins the items by commas. -/
theorem compactItems_eq (items : List Json) :
    compactItems items = [','].intercalate (items.map compactText) := by
  apply eq_intercalate <;> intros <;> simp [compactItems]

/-- The compact form joins the fields by commas. -/
theorem compactFields_eq (fields : List (Option String × Json)) :
    compactFields fields = [','].intercalate (fields.map fun field =>
      stringText field.1 ++ ':' :: compactText field.2) := by
  apply eq_intercalate <;> intros <;> simp [compactFields]

/-- The indented form starts a line for each item. -/
theorem prettyItems_eq (depth : Nat) (items : List Json) :
    prettyItems depth items = [','].intercalate (items.map fun item =>
      newline depth ++ prettyText depth item) := by
  apply eq_intercalate <;> intros <;> simp [prettyItems]

/-- The indented form starts a line for each field. -/
theorem prettyFields_eq (depth : Nat) (fields : List (Option String × Json)) :
    prettyFields depth fields = [','].intercalate (fields.map fun field =>
      newline depth ++ stringText field.1 ++ ':' :: ' ' :: prettyText depth field.2) := by
  apply eq_intercalate <;> intros <;> simp [prettyFields]

/-- A key is followed by a colon, and the value may stand off from it. -/
theorem spelled_field {key : Option String} (present : key.isSome = true) {text : List Char}
    {more : List Symbol} (spelled : Spelled text more) :
    Spelled (stringText key ++ ':' :: text) (.scalar (.string key) :: .colon :: more) := by
  obtain ⟨name, rfl⟩ := Option.isSome_iff_exists.mp present
  exact .string name (.colon spelled)

/-- Brackets around the items spell the array. -/
theorem writes_array {text : List Char} {items : List Json}
    (writes : Writes text (itemSymbols items)) :
    Writes ('[' :: text ++ [']']) (symbols (.array items)) := by
  intro rest more _ spelled
  have closing : Delimited (']' :: rest) := delimited_cons (by simp [Delimits]) rest
  simpa [symbols] using Spelled.openBracket (writes _ _ closing (.closeBracket spelled))

/-- Braces around the fields spell the object. -/
theorem writes_object {text : List Char} {fields : List (Option String × Json)}
    (writes : Writes text (fieldSymbols fields)) :
    Writes ('\x7b' :: text ++ ['\x7d']) (symbols (.object fields)) := by
  intro rest more _ spelled
  have closing : Delimited ('\x7d' :: rest) := delimited_cons (by simp [Delimits]) rest
  simpa [symbols] using Spelled.openBrace (writes _ _ closing (.closeBrace spelled))

/-- The compact form spells the value. -/
theorem writes_compact {value : Json} (plain : Plain value) :
    Writes value.compactText value.symbols := by
  induction plain with
  | null => exact fun _ _ delimited spelled => .null delimited spelled
  | boolean value => exact fun _ _ delimited spelled => .boolean value delimited spelled
  | number value => exact fun _ _ delimited spelled => .number value delimited spelled
  | string text => exact fun _ _ _ spelled => .string text spelled
  | array _ inductionHypothesis =>
      rw [compactText]
      apply writes_array
      rw [compactItems_eq, itemSymbols_eq]
      exact .intercalate inductionHypothesis
  | object keys _ inductionHypothesis =>
      rw [compactText]
      apply writes_object
      rw [compactFields_eq, fieldSymbols_eq]
      apply Writes.intercalate
      intro field member rest more delimited spelled
      have value := inductionHypothesis field member rest more delimited spelled
      simpa using spelled_field (keys field member) value

/-- A new line behind a text spells nothing more. -/
theorem Writes.newline {text : List Char} {written : List Symbol} (writes : Writes text written)
    (depth : Nat) : Writes (text ++ newline depth) written := by
  intro rest more _ spelled
  rw [List.append_assoc]
  exact writes _ _ (delimited_newline depth rest) (spelled_newline depth spelled)

/-- The indented form spells the value at every depth. -/
theorem writes_pretty {value : Json} (plain : Plain value) (depth : Nat) :
    Writes (value.prettyText depth) value.symbols := by
  induction plain generalizing depth with
  | null => exact fun _ _ delimited spelled => .null delimited spelled
  | boolean value => exact fun _ _ delimited spelled => .boolean value delimited spelled
  | number value => exact fun _ _ delimited spelled => .number value delimited spelled
  | string text => exact fun _ _ _ spelled => .string text spelled
  | @array items _ inductionHypothesis =>
      cases items with
      | nil =>
          have nothing : Writes [] (itemSymbols []) := writes_nil
          exact writes_array nothing
      | cons item items =>
          rw [prettyText]
          apply writes_array
          apply Writes.newline
          rw [prettyItems_eq, itemSymbols_eq]
          apply Writes.intercalate
          intro item member rest more delimited spelled
          rw [List.append_assoc]
          exact spelled_newline _ (inductionHypothesis item member _ rest more delimited spelled)
  | @object fields keys _ inductionHypothesis =>
      cases fields with
      | nil =>
          have nothing : Writes [] (fieldSymbols []) := writes_nil
          exact writes_object nothing
      | cons field fields =>
          rw [prettyText]
          apply writes_object
          apply Writes.newline
          rw [prettyFields_eq, fieldSymbols_eq]
          apply Writes.intercalate
          intro field member rest more delimited spelled
          have value := inductionHypothesis field member (depth + 1) rest more delimited spelled
          simpa using spelled_newline (depth + 1) (spelled_field (keys field member) (.space value))

end Texts

section Reading

/-- A value is read up to its last symbol and goes to the innermost frame. -/
def Reads (value : Json) : Prop :=
  ∀ frames rest,
    readSymbols (.value frames) (symbols value ++ rest) = readSymbols (deliver value frames) rest

/-- The items of an array are read one by one. -/
theorem readSymbols_items {item : Json} {items : List Json}
    (reads : ∀ other ∈ item :: items, Reads other) (before : List Json) (frames : List Frame)
    (rest : List Symbol) :
    readSymbols (.value (.array before :: frames))
        (itemSymbols (item :: items) ++ .closeBracket :: rest) =
      readSymbols (deliver (.array (before ++ item :: items)) frames) rest := by
  induction items generalizing item before with
  | nil =>
      rw [itemSymbols, reads item List.mem_cons_self]
      rfl
  | cons next items inductionHypothesis =>
      obtain ⟨first, others⟩ := List.forall_mem_cons.mp reads
      have comma (more : List Symbol) :
          readSymbols (deliver item (.array before :: frames)) (.comma :: more) =
            readSymbols (.value (.array (before ++ [item]) :: frames)) more := rfl
      rw [itemSymbols, List.append_assoc, first, List.cons_append, comma,
        inductionHypothesis others, List.append_assoc, List.singleton_append]

/-- The fields of an object are read one by one. -/
theorem readSymbols_fields {field : Option String × Json} {fields : List (Option String × Json)}
    (reads : ∀ other ∈ field :: fields, Reads other.2) (before : List (Option String × Json))
    (frames : List Frame) (rest : List Symbol) :
    readSymbols (.nextKey before frames)
        (fieldSymbols (field :: fields) ++ .closeBrace :: rest) =
      readSymbols (deliver (.object (before ++ field :: fields)) frames) rest := by
  obtain ⟨key, value⟩ := field
  have keyed (more : List Symbol) :
      readSymbols (.nextKey before frames) (.scalar (.string key) :: .colon :: more) =
        readSymbols (.value (.object before key :: frames)) more := rfl
  induction fields generalizing key value before with
  | nil =>
      rw [fieldSymbols, List.cons_append, List.cons_append, keyed,
        reads (key, value) List.mem_cons_self]
      rfl
  | cons next fields inductionHypothesis =>
      obtain ⟨first, others⟩ := List.forall_mem_cons.mp reads
      have comma (more : List Symbol) :
          readSymbols (deliver value (.object before key :: frames)) (.comma :: more) =
            readSymbols (.nextKey (before ++ [(key, value)]) frames) more := rfl
      rw [fieldSymbols, List.append_assoc, List.cons_append, List.cons_append, keyed, first,
        List.cons_append, comma, inductionHypothesis _ _ _ others fun _ => rfl, List.append_assoc,
        List.singleton_append]

/-- No item begins with a closing bracket, so the first one is read as any other. -/
theorem readSymbols_firstItem (item : Json) (items : List Json) (frames : List Frame)
    (rest : List Symbol) :
    readSymbols (.firstItem frames) (itemSymbols (item :: items) ++ rest) =
      readSymbols (.value (.array [] :: frames)) (itemSymbols (item :: items) ++ rest) := by
  cases items <;> cases item <;> rfl

/-- Every plain value is read from its symbols. -/
theorem reads_plain {value : Json} (plain : Plain value) : Reads value := by
  induction plain with
  | null | boolean _ | number _ | string _ => exact fun _ _ => rfl
  | @array items _ inductionHypothesis =>
      intro frames rest
      cases items with
      | nil => rfl
      | cons item items =>
          have opening : readSymbols (.value frames) (symbols (.array (item :: items)) ++ rest) =
              readSymbols (.firstItem frames)
                (itemSymbols (item :: items) ++ .closeBracket :: rest) := by
            rw [symbols, List.append_assoc]
            rfl
          rw [opening, readSymbols_firstItem, readSymbols_items inductionHypothesis,
            List.nil_append]
  | @object fields _ _ inductionHypothesis =>
      intro frames rest
      cases fields with
      | nil => rfl
      | cons field fields =>
          have opening : readSymbols (.value frames) (symbols (.object (field :: fields)) ++ rest) =
              readSymbols (.nextKey [] frames)
                (fieldSymbols (field :: fields) ++ .closeBrace :: rest) := by
            rw [symbols, List.append_assoc]
            cases fields <;> rfl
          rw [opening, readSymbols_fields inductionHypothesis, List.nil_append]

end Reading

/-- A plain value is read from any text that spells it. -/
theorem ofBytes?_writes {value : Json} (plain : Plain value) {text : List Char}
    (writes : Writes text value.symbols) :
    ofBytes? (Text.Utf8.encode (String.ofList text)) = some value := by
  have spelled := writes [] [] delimited_nil .nil
  rw [List.append_nil, List.append_nil] at spelled
  have read := reads_plain plain [] []
  rw [List.append_nil] at read
  rw [ofBytes?, Text.Utf8.encode, String.toList_ofList]
  change (Scanner.scan .between (Scanner.bytesOf text)).bind _ = _
  rw [Scanner.scan_spelled spelled]
  exact read

/-- A plain value is read back from its compact form. -/
theorem ofBytes?_compact {value : Json} (plain : Plain value) :
    ofBytes? (Text.Utf8.encode value.compact) = some value :=
  ofBytes?_writes plain (writes_compact plain)

/-- A plain value is read back from its indented form. -/
theorem ofBytes?_pretty {value : Json} (plain : Plain value) :
    ofBytes? (Text.Utf8.encode value.pretty) = some value :=
  ofBytes?_writes plain (writes_pretty plain 0)

end TapeShell.Json

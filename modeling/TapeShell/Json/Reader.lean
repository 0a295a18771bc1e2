/-
This file reads JSON values from bytes and takes records apart.
-/

import TapeShell.Json.Scanner

namespace TapeShell.Json

/-- A frame is an array that is still open, or an object that waits for a value. -/
inductive Frame where
  | array (items : List Json)
  | object (fields : List (Option String × Json)) (key : Option String)

/-- The reader knows what may come next and which frames are open, the innermost first. -/
inductive State where
  | value (frames : List Frame)
  | firstItem (frames : List Frame)
  | afterItem (items : List Json) (frames : List Frame)
  | firstKey (frames : List Frame)
  | nextKey (fields : List (Option String × Json)) (frames : List Frame)
  | afterKey (fields : List (Option String × Json)) (key : Option String) (frames : List Frame)
  | afterField (fields : List (Option String × Json)) (frames : List Frame)
  | done (value : Json)

/-- A finished value goes to the innermost frame. -/
def deliver (value : Json) : List Frame → State
  | [] => .done value
  | .array items :: frames => .afterItem (items ++ [value]) frames
  | .object fields key :: frames => .afterField (fields ++ [(key, value)]) frames

def beginValue (frames : List Frame) : Symbol → Option State
  | .openBracket => some (.firstItem frames)
  | .openBrace => some (.firstKey frames)
  | .scalar value => some (deliver value frames)
  | _ => none

def beginKey (fields : List (Option String × Json)) (frames : List Frame) : Symbol → Option State
  | .scalar (.string key) => some (.afterKey fields key frames)
  | _ => none

def State.step : State → Symbol → Option State
  | .value frames, symbol => beginValue frames symbol
  | .firstItem frames, .closeBracket => some (deliver (.array []) frames)
  | .firstItem frames, symbol => beginValue (.array [] :: frames) symbol
  | .afterItem items frames, .comma => some (.value (.array items :: frames))
  | .afterItem items frames, .closeBracket => some (deliver (.array items) frames)
  | .firstKey frames, .closeBrace => some (deliver (.object []) frames)
  | .firstKey frames, symbol => beginKey [] frames symbol
  | .nextKey fields frames, symbol => beginKey fields frames symbol
  | .afterKey fields key frames, .colon => some (.value (.object fields key :: frames))
  | .afterField fields frames, .comma => some (.nextKey fields frames)
  | .afterField fields frames, .closeBrace => some (deliver (.object fields) frames)
  | _, _ => none

def readSymbols (state : State) : List Symbol → Option Json
  | [] => match state with
    | .done value => some value
    | _ => none
  | symbol :: rest => (state.step symbol).bind fun next => readSymbols next rest

/-- The bytes hold one value and nothing else but space. -/
def ofBytes? (bytes : List UInt8) : Option Json :=
  (Scanner.scan .between bytes).bind (readSymbols (.value []))

def text? : Json → Option String
  | .string text => text
  | _ => none

/-- An unsigned number is spelled with digits only and fits in 64 bits. -/
def unsigned? : Json → Option UInt64
  | .number literal => do
      let number ← Text.Decimal.natural? literal
      if number < UInt64.size then some (UInt64.ofNat number) else none
  | _ => none

/-- The value of an optional field is absent if the field is missing or null. -/
def optional? {α : Type} (read? : Json → Option α) : Option Json → Option (Option α)
  | none => some none
  | some .null => some none
  | some value => (read? value).map some

def fieldValues (name : String) (fields : List (Option String × Json)) : List Json :=
  fields.filterMap fun field => if field.1 = some name then some field.2 else none

/-- A field may be missing, but it may not be given twice. -/
def field? (fields : List (Option String × Json)) (name : String) : Option (Option Json) :=
  match fieldValues name fields with
  | [] => some none
  | [value] => some (some value)
  | _ => none

/-- A record is an object, whose other fields are ignored, or an array of its fields. -/
def record? (names : List String) : Json → Option (List (Option Json))
  | .object fields =>
      if fields.all fun field => field.1.isSome then names.mapM (field? fields) else none
  | .array items =>
      if items.length ≤ names.length then
        some (items.map some ++ List.replicate (names.length - items.length) none)
      else none
  | _ => none

end TapeShell.Json

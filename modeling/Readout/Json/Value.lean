/-
# JSON values in text

The values that reports hold, and their text: without blanks, and with the fields of an object in the
order given.
-/
import Readout.Json.Quote

namespace Readout.Json

/-- A JSON value; a number is kept as its text. -/
inductive Value where
  | null
  | bool (b : Bool)
  | number (text : String)
  | text (s : String)
  | list (items : List Value)
  | record (fields : List (String × Value))

namespace Value

/-- A whole number. -/
def count (n : Nat) : Value := number (toString n)

/-- A value that may be missing. -/
def optional {α : Type} (value : α → Value) : Option α → Value
  | none => null
  | some a => value a

mutual

/-- The text of a value. -/
def render : Value → String
  | null => "null"
  | bool b => if b then "true" else "false"
  | number digits => digits
  | text s => quoteText s
  | list items => "[" ++ ",".intercalate (renderItems items) ++ "]"
  | record fields => "\x7b" ++ ",".intercalate (renderFields fields) ++ "\x7d"

/-- The texts of some values. -/
def renderItems : List Value → List String
  | [] => []
  | v :: vs => render v :: renderItems vs

/-- The texts of some fields. -/
def renderFields : List (String × Value) → List String
  | [] => []
  | (name, v) :: fields => (quoteText name ++ ":" ++ render v) :: renderFields fields

end

end Value

end Readout.Json

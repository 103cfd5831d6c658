/-
**JSON values as Python reads and writes them.**

- `Json` is a decoded JSON value; an object keeps its fields in order, a number keeps whether it was
  written as an integer.
- `Json.pyEq` is Python's `==` on decoded values: numbers compare by value across `bool`, `int` and
  `float`, objects compare without regard to order.
- `Json.canonical` is `json.dumps` with sorted keys, compact separators and no ASCII escaping; its
  length is what the answer budgets are measured in.
-/

import Mathlib.Data.Rat.Defs
import Mathlib.Data.List.Sort

namespace SerenaLight.Foundation

/-- A decoded JSON value. A `float` carries the text Python prints for it. -/
inductive Json where
  | null
  | bool (value : Bool)
  | int (value : Int)
  | float (value : Rat) (text : String)
  | str (value : String)
  | list (items : List Json)
  | object (fields : List (String × Json))

/-- The fields of a decoded object, in order. -/
abbrev Object := List (String × Json)

namespace Object

/-- `raw.get(key)`: an absent key reads as null. -/
def get (fields : Object) (key : String) : Json := (fields.lookup key).getD .null

/-- `{**raw, key: value}`: the key keeps its place, or is added at the end. -/
def set (fields : Object) (key : String) (value : Json) : Object :=
  match fields with
  | [] => [(key, value)]
  | (name, old) :: rest =>
    if name = key then (name, value) :: rest else (name, old) :: set rest key value

end Object

namespace Json

/-- `isinstance(value, int) and not isinstance(value, bool)`. -/
def int? : Json → Option Int
  | .int value => some value
  | _ => none

def str? : Json → Option String
  | .str value => some value
  | _ => none

/-- `isinstance(value, Mapping)`. -/
def object? : Json → Option Object
  | .object fields => some fields
  | _ => none

/-- The items of a decoded list all of which are objects, in order. -/
def objects? : Json → Option (List Object)
  | .list items => items.mapM object?
  | _ => none

/-- The numeric value of a `bool`, an `int` or a `float`. -/
def number? : Json → Option Rat
  | .bool value => some (if value then 1 else 0)
  | .int value => some value
  | .float value _ => some value
  | _ => none

/-! ### Equality -/

mutual

/-- Python's `==` on decoded values. -/
def pyEq : Json → Json → Bool
  | .null, .null => true
  | .str first, .str second => first == second
  | .list first, .list second => itemsEq first second
  | .object first, .object second => first.length == second.length && fieldsEq first second
  | first, second =>
    match first.number?, second.number? with
    | some left, some right => left == right
    | _, _ => false

def itemsEq : List Json → List Json → Bool
  | [], [] => true
  | first :: rest, second :: others => pyEq first second && itemsEq rest others
  | _, _ => false

/-- Every field of the first object has an equal field in the second. -/
def fieldsEq : List (String × Json) → Object → Bool
  | [], _ => true
  | (key, value) :: rest, others =>
    (match others.lookup key with
      | some other => pyEq value other
      | none => false) && fieldsEq rest others

end

/-! ### Canonical text -/

/-- The escape of one character inside a JSON string. -/
def escape (character : Char) : List Char :=
  match character with
  | '"' => ['\\', '"']
  | '\\' => ['\\', '\\']
  | '\n' => ['\\', 'n']
  | '\r' => ['\\', 'r']
  | '\t' => ['\\', 't']
  | '\x08' => ['\\', 'b']
  | '\x0c' => ['\\', 'f']
  | other =>
    if other.toNat < 0x20 then
      ['\\', 'u', '0', '0', (other.toNat / 16).digitChar, (other.toNat % 16).digitChar]
    else [other]

def quoted (text : String) : List Char :=
  ['"'] ++ text.toList.flatMap escape ++ ['"']

mutual

/-- `json.dumps(value, ensure_ascii=False, separators=(",", ":"), sort_keys=True)`. -/
def canonical : Json → List Char
  | .null => "null".toList
  | .bool value => (if value then "true" else "false").toList
  | .int value => (toString value).toList
  | .float _ text => text.toList
  | .str value => quoted value
  | .list items => ['['] ++ [','].intercalate (canonicalItems items) ++ [']']
  | .object fields =>
    ['\x7b'] ++
      [','].intercalate (((canonicalFields fields).insertionSort (·.1 ≤ ·.1)).map
        fun field => quoted field.1 ++ [':'] ++ field.2) ++ ['\x7d']

def canonicalItems : List Json → List (List Char)
  | [] => []
  | item :: rest => canonical item :: canonicalItems rest

/-- Each key with the canonical text of its value. -/
def canonicalFields : List (String × Json) → List (String × List Char)
  | [] => []
  | (key, value) :: rest => (key, canonical value) :: canonicalFields rest

end

end Json

end SerenaLight.Foundation

import RegexProse.Text.Basic

/-!
# JSON values

The JSON values of a report: strings, flags, lists, and records whose fields keep their order.
-/

set_option autoImplicit false

namespace RegexProse

inductive Json where
  | string (text : Text)
  | flag (value : Bool)
  | list (items : List Json)
  | record (fields : List (Text × Json))

namespace Json

/-- Whether a key may stand before another one: by code points, a shorter key before its extensions.
-/
def keyLe : Text → Text → Bool
  | [], _ => true
  | _ :: _, [] => false
  | left :: lefts, right :: rights => if left = right then keyLe lefts rights else left < right

/-- Puts a field before the first one with a greater key. -/
def insertField (field : Text × Json) : List (Text × Json) → List (Text × Json)
  | [] => [field]
  | other :: fields =>
    if keyLe field.1 other.1 then field :: other :: fields
    else other :: insertField field fields

mutual

/-- The same value with the fields of every record in the order of their keys. -/
def sortKeys : Json → Json
  | .string text => .string text
  | .flag value => .flag value
  | .list items => .list (sortKeysOfItems items)
  | .record fields => .record (sortKeysOfFields fields)

def sortKeysOfItems : List Json → List Json
  | [] => []
  | item :: items => sortKeys item :: sortKeysOfItems items

def sortKeysOfFields : List (Text × Json) → List (Text × Json)
  | [] => []
  | (key, value) :: fields => insertField (key, sortKeys value) (sortKeysOfFields fields)

end

end Json

end RegexProse

import Transparency.Json.Value
import Transparency.Number.Shortest
import Transparency.Text.Quoted

/-! How templates print values and test them. -/
namespace Transparency.Json
open Text (decimal quoted)

namespace Value

mutual

/-- A value as it stands inside a list or an object. -/
def nested : Value → String
  | null => "None"
  | bool true => "True"
  | bool false => "False"
  | number (.integer n) => decimal n
  | number (.double x) => x.compactText
  | text s => quoted s
  | list items => "[" ++ ", ".intercalate (nestedItems items) ++ "]"
  | object fields => "\x7b" ++ ", ".intercalate (nestedFields fields) ++ "\x7d"

/-- The elements of a list. -/
def nestedItems : List Value → List String
  | [] => []
  | item :: rest => item.nested :: nestedItems rest

/-- The fields of an object. -/
def nestedFields : List (String × Value) → List String
  | [] => []
  | (key, value) :: rest => (quoted key ++ ": " ++ value.nested) :: nestedFields rest

end

/-- What a template prints for a value: a text as it is, a double without an exponent, and anything
else as inside a list. -/
def printed : Value → String
  | text s => s
  | number (.double x) => x.plainText
  | value => value.nested

/-- Whether a value passes a test: all do but nothing, the false value, zero, and what is empty. -/
def isTruthy : Value → Bool
  | null => false
  | bool b => b
  | number (.integer n) => n != 0
  | number (.double x) => !x.isZero
  | text s => !s.isEmpty
  | list items => !items.isEmpty
  | object fields => !fields.isEmpty

/-- The variables that a value brings into a template: the fields of an object. -/
def scope (value : Value) (name : String) : Option Value := value.field? name

end Value

end Transparency.Json

import Transparency.Json.Numeral

/-! JSON values, and reading them from a text. -/
namespace Transparency.Json

/-- A JSON value. The fields of an object stand in the order of their keys. -/
inductive Value
  | null
  | bool (b : Bool)
  | number (n : Number)
  | text (s : String)
  | list (items : List Value)
  | object (fields : List (String × Value))

namespace Value

/-- Puts a field into its place among fields in the order of their keys. A field with the same key
gives way. -/
def insertField (key : String) (value : Value) : List (String × Value) → List (String × Value)
  | [] => [(key, value)]
  | (other, held) :: rest =>
    if key < other then (key, value) :: (other, held) :: rest
    else if key = other then (key, value) :: rest
    else (other, held) :: insertField key value rest

/-- The value of a field of an object. -/
def field? (key : String) : Value → Option Value
  | object fields => fields.lookup key
  | _ => none

end Value

/-- A word, a string or a number that begins with the given character. -/
def readScalar (c : Char) (rest : List Char) : Except Failure (Value × List Char) :=
  if c = 'n' then (word ['u', 'l', 'l'] rest).map (Value.null, ·)
  else if c = 't' then (word ['r', 'u', 'e'] rest).map (Value.bool true, ·)
  else if c = 'f' then (word ['a', 'l', 's', 'e'] rest).map (Value.bool false, ·)
  else if c = '"' then
    (readString [] rest).map fun (chars, rest) => (.text (String.ofList chars), rest)
  else if c = '-' ∨ c.isDigit then
    (readNumber (c :: rest)).map fun (n, rest) => (.number n, rest)
  else .error .malformed

/-- Takes the key of a member and the colon after it. -/
def readKey (text : List Char) : Except Failure (String × List Char) := do
  match skipSpace text with
  | [] => .error .truncated
  | '"' :: rest =>
    let (key, rest) ← readString [] rest
    match skipSpace rest with
    | [] => .error .truncated
    | ':' :: rest => return (String.ofList key, rest)
    | _ => .error .malformed
  | _ => .error .malformed

mutual

/-- Takes a value. The fuel bounds the number of values and separators that are read. -/
def readValue : Nat → List Char → Except Failure (Value × List Char)
  | 0, _ => .error .truncated
  | fuel + 1, text =>
    match skipSpace text with
    | [] => .error .truncated
    | c :: rest =>
      if c = '[' then
        match skipSpace rest with
        | ']' :: rest => .ok (.list [], rest)
        | rest => readItems fuel [] rest
      else if c = '\x7b' then
        match skipSpace rest with
        | '\x7d' :: rest => .ok (.object [], rest)
        | rest => readFields fuel [] rest
      else readScalar c rest

/-- Takes the elements of a list up to its end, onto those read before, last one first. -/
def readItems : Nat → List Value → List Char → Except Failure (Value × List Char)
  | 0, _, _ => .error .truncated
  | fuel + 1, read, text => do
    let (item, rest) ← readValue fuel text
    match skipSpace rest with
    | [] => .error .truncated
    | ',' :: rest => readItems fuel (item :: read) rest
    | ']' :: rest => .ok (.list (item :: read).reverse, rest)
    | _ => .error .malformed

/-- Takes the members of an object up to its end, into the fields read before. -/
def readFields : Nat → List (String × Value) → List Char → Except Failure (Value × List Char)
  | 0, _, _ => .error .truncated
  | fuel + 1, read, text => do
    let (key, rest) ← readKey text
    let (value, rest) ← readValue fuel rest
    match skipSpace rest with
    | [] => .error .truncated
    | ',' :: rest => readFields fuel (Value.insertField key value read) rest
    | '\x7d' :: rest => .ok (.object (Value.insertField key value read), rest)
    | _ => .error .malformed

end

/-- The value that the text writes. -/
def Value.read (text : String) : Except Failure Value := do
  let (value, rest) ← readValue (2 * text.length + 2) text.toList
  if (skipSpace rest).isEmpty then return value else .error .malformed

end Transparency.Json

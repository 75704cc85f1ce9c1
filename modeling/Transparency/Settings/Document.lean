import Transparency.Json.Skip
import Transparency.Settings.Basic

/-! Reading settings from a JSON document. The document is an object, whose unknown fields are passed
over, or a list of the fields in order; what is missing keeps its default. Reading stops at the
first thing that is wrong. -/
namespace Transparency.Settings
open Json

/-- What is wrong with a value that begins with the given character, where one of another type is
wanted: a scalar is first read to its end. -/
def refuse (c : Char) (rest : List Char) : Failure :=
  let outcome : Except Failure Unit :=
    if c = 'n' then (word ['u', 'l', 'l'] rest).map fun _ => ()
    else if c = 't' then (word ['r', 'u', 'e'] rest).map fun _ => ()
    else if c = 'f' then (word ['a', 'l', 's', 'e'] rest).map fun _ => ()
    else if c = '"' then (readString [] rest).map fun _ => ()
    else if c = '-' ∨ c.isDigit then (readNumber (c :: rest)).map fun _ => ()
    else if c = '[' ∨ c = '\x7b' then .ok ()
    else .error .malformed
  match outcome with
  | .error failure => failure
  | .ok () => .mismatched

/-- Reads a truth value. -/
def readFlag (text : List Char) : Except Failure (Bool × List Char) :=
  match skipSpace text with
  | [] => .error .truncated
  | c :: rest =>
    if c = 't' then (word ['r', 'u', 'e'] rest).map (true, ·)
    else if c = 'f' then (word ['a', 'l', 's', 'e'] rest).map (false, ·)
    else .error (refuse c rest)

/-- The integer as a 32-bit word, if it fits. -/
def toInt32? (n : Int) : Option Int32 :=
  if Int32.minValue.toInt ≤ n ∧ n ≤ Int32.maxValue.toInt then some (Int32.ofInt n) else none

/-- Reads an integer of 32 bits. -/
def readInt32 (text : List Char) : Except Failure (Int32 × List Char) :=
  match skipSpace text with
  | [] => .error .truncated
  | c :: rest =>
    if c = '-' ∨ c.isDigit then
      match readNumber (c :: rest) with
      | .error failure => .error failure
      | .ok (.integer n, rest) =>
        match toInt32? n with
        | some word => .ok (word, rest)
        | none => .error .mismatched
      | .ok (.double _, _) => .error .mismatched
    else .error (refuse c rest)

/-- Takes the colon between a key and its value. -/
def readColon (text : List Char) : Except Failure (List Char) :=
  match skipSpace text with
  | [] => .error .truncated
  | ':' :: rest => .ok rest
  | _ => .error .malformed

/-- The fields found so far. -/
structure Draft where
  enabled : Option Bool := none
  fallbackSize : Option Int32 := none

/-- The settings of a draft, with defaults for what was not found. -/
def Draft.settings (draft : Draft) : Settings where
  enabled := draft.enabled.getD ({} : Settings).enabled
  fallbackSize := draft.fallbackSize.getD ({} : Settings).fallbackSize

/-- Reads one member whose opening quote was read. A known field may come only once. -/
def readMember (draft : Draft) (text : List Char) : Except Failure (Draft × List Char) := do
  let (key, rest) ← readString [] text
  if key = "enabled".toList then
    if draft.enabled.isSome then .error .mismatched
    else
      let (found, rest) ← readFlag (← readColon rest)
      return ({ draft with enabled := some found }, rest)
  else if key = "fallback_screen_size".toList then
    if draft.fallbackSize.isSome then .error .mismatched
    else
      let (found, rest) ← readInt32 (← readColon rest)
      return ({ draft with fallbackSize := some found }, rest)
  else return (draft, ← skipValue [] (← readColon rest))

/-- Reads the members after the first one, up to the end of the object. The fuel bounds their
number. -/
def readMembers : Nat → Draft → List Char → Except Failure (Draft × List Char)
  | 0, _, _ => .error .truncated
  | fuel + 1, draft, text => do
    match skipSpace text with
    | [] => .error .truncated
    | '\x7d' :: rest => return (draft, rest)
    | ',' :: rest =>
      match skipSpace rest with
      | [] => .error .truncated
      | '"' :: rest =>
        let (draft, rest) ← readMember draft rest
        readMembers fuel draft rest
      | _ => .error .malformed
    | _ => .error .malformed

/-- Reads an object whose opening bracket was read. -/
def readObject (text : List Char) : Except Failure (Draft × List Char) := do
  match skipSpace text with
  | [] => .error .truncated
  | '\x7d' :: rest => return ({}, rest)
  | '"' :: rest =>
    let (draft, rest) ← readMember {} rest
    readMembers (rest.length + 1) draft rest
  | _ => .error .malformed

/-- Takes the end of a list. -/
def readListEnd (text : List Char) : Except Failure (List Char) :=
  match skipSpace text with
  | [] => .error .truncated
  | ']' :: rest => .ok rest
  | _ => .error .malformed

/-- Reads a list whose opening bracket was read. -/
def readList (text : List Char) : Except Failure (Draft × List Char) := do
  match skipSpace text with
  | ']' :: rest => return ({}, rest)
  | [] => .error .truncated
  | text =>
    let (enabled, rest) ← readFlag text
    match skipSpace rest with
    | [] => .error .truncated
    | ']' :: rest => return ({ enabled := some enabled }, rest)
    | ',' :: rest =>
      match skipSpace rest with
      | [] => .error .truncated
      | ']' :: _ => .error .malformed
      | text =>
        let (size, rest) ← readInt32 text
        return ({ enabled := some enabled, fallbackSize := some size }, ← readListEnd rest)
    | _ => .error .malformed

/-- The settings that a document holds. -/
def ofDocument (text : String) : Except Failure Settings := do
  let (draft, rest) ← match skipSpace text.toList with
    | [] => .error .truncated
    | c :: rest =>
      if c = '\x7b' then readObject rest
      else if c = '[' then readList rest
      else .error (refuse c rest)
  if (skipSpace rest).isEmpty then return draft.settings else .error .malformed

end Transparency.Settings

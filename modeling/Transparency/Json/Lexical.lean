/-! The characters of a JSON text: white space between tokens, words, and strings with their
escapes. Every function takes what is left of the text and hands back what is left after it. -/
namespace Transparency.Json

/-- Why a text cannot be read. -/
inductive Failure
  /-- The text breaks the grammar. -/
  | malformed
  /-- The text ends too early. -/
  | truncated
  /-- The grammar is kept so far, but the value is not of the wanted type. -/
  | mismatched
  deriving DecidableEq, Repr

/-- The white space that may stand between tokens. -/
def isSpace (c : Char) : Bool := c == ' ' || c == '\n' || c == '\t' || c == '\r'

/-- What follows the white space at the front. -/
def skipSpace (text : List Char) : List Char := text.dropWhile isSpace

/-- Takes the rest of a word whose first letter was read. -/
def word : List Char → List Char → Except Failure (List Char)
  | [], rest => .ok rest
  | _ :: _, [] => .error .truncated
  | letter :: letters, c :: rest => if c = letter then word letters rest else .error .malformed

/-- The value of a hexadecimal digit of either case. -/
def hexValue? (c : Char) : Option Nat :=
  if '0' ≤ c ∧ c ≤ '9' then some (c.toNat - '0'.toNat)
  else if 'a' ≤ c ∧ c ≤ 'f' then some (c.toNat - 'a'.toNat + 10)
  else if 'A' ≤ c ∧ c ≤ 'F' then some (c.toNat - 'A'.toNat + 10)
  else none

/-- The number that four hexadecimal digits write. -/
def hexQuad? (a b c d : Char) : Option Nat := do
  return (((← hexValue? a) * 16 + (← hexValue? b)) * 16 + (← hexValue? c)) * 16 + (← hexValue? d)

/-- The bytes that a text takes. -/
def byteCount (text : List Char) : Nat := text.foldr (fun c count => c.utf8Size + count) 0

/-- What is wrong where four hexadecimal digits should stand: fewer than four bytes are left, or
they are no digits. -/
def hexFailure (rest : List Char) : Failure :=
  if byteCount rest < 4 then .truncated else .malformed

/-- The character that a one-letter escape stands for. -/
def escape? : Char → Option Char
  | '"' => some '"'
  | '\\' => some '\\'
  | '/' => some '/'
  | 'b' => some (Char.ofNat 8)
  | 'f' => some (Char.ofNat 12)
  | 'n' => some '\n'
  | 'r' => some '\r'
  | 't' => some '\t'
  | _ => none

/-- Control characters may not stand in a string as they are. -/
def isControl (c : Char) : Bool := c.toNat < 0x20

/-- Passes over a string whose opening quote was read. Its escapes need not make sense together. -/
def skipString : List Char → Except Failure (List Char)
  | [] => .error .truncated
  | '"' :: rest => .ok rest
  | ['\\'] => .error .truncated
  | '\\' :: 'u' :: rest =>
    match rest with
    | a :: b :: c :: d :: rest =>
      if (hexQuad? a b c d).isSome then skipString rest
      else .error (hexFailure (a :: b :: c :: d :: rest))
    | rest => .error (hexFailure rest)
  | '\\' :: c :: rest => if (escape? c).isSome then skipString rest else .error .malformed
  | c :: rest => if isControl c then .error .malformed else skipString rest

/-- Whether the number is the first half of a surrogate pair. -/
def isHighSurrogate (n : Nat) : Bool := 0xD800 ≤ n && n ≤ 0xDBFF

/-- Whether the number is the second half of a surrogate pair. -/
def isLowSurrogate (n : Nat) : Bool := 0xDC00 ≤ n && n ≤ 0xDFFF

/-- The character of a surrogate pair. -/
def ofSurrogates (high low : Nat) : Char :=
  Char.ofNat (0x10000 + (high - 0xD800) * 0x400 + (low - 0xDC00))

/-- What is wrong where the second half of a surrogate pair should stand. -/
def pairFailure : List Char → Failure
  | [] | ['\\'] => .truncated
  | '\\' :: 'u' :: rest => hexFailure rest
  | _ => .malformed

/-- Reads a string whose opening quote was read, onto the characters read before, last one first. A
surrogate has to come in a pair. -/
def readString (read : List Char) : List Char → Except Failure (List Char × List Char)
  | [] => .error .truncated
  | '"' :: rest => .ok (read.reverse, rest)
  | ['\\'] => .error .truncated
  | '\\' :: 'u' :: rest =>
    match rest with
    | a :: b :: c :: d :: rest =>
      match hexQuad? a b c d with
      | none => .error (hexFailure (a :: b :: c :: d :: rest))
      | some n =>
        if isLowSurrogate n then .error .malformed
        else if isHighSurrogate n then
          match rest with
          | '\\' :: 'u' :: a :: b :: c :: d :: rest =>
            match hexQuad? a b c d with
            | none => .error (hexFailure (a :: b :: c :: d :: rest))
            | some m =>
              if isLowSurrogate m then readString (ofSurrogates n m :: read) rest
              else .error .malformed
          | rest => .error (pairFailure rest)
        else readString (Char.ofNat n :: read) rest
    | rest => .error (hexFailure rest)
  | '\\' :: c :: rest =>
    match escape? c with
    | some shown => readString (shown :: read) rest
    | none => .error .malformed
  | c :: rest => if isControl c then .error .malformed else readString (c :: read) rest

end Transparency.Json

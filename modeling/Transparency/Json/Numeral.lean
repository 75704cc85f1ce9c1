import Transparency.Json.Lexical
import Transparency.Number.Double

/-! JSON numbers: how they are written, and what they stand for. -/
namespace Transparency.Json
open Number (Double)

/-- The parts of a written number. -/
structure Numeral where
  negative : Bool
  whole : List Char
  fraction : Option (List Char) := none
  /-- Whether the exponent is negative, and its digits. -/
  exponent : Option (Bool × List Char) := none
  deriving DecidableEq, Repr

/-- What a number stands for. -/
inductive Number
  | integer (n : Int)
  | double (x : Double)
  deriving DecidableEq, Repr

/-- Takes at least one digit; `short` says what is wrong if the text ends before it. -/
def digits (short : Failure) (text : List Char) : Except Failure (List Char × List Char) :=
  match text with
  | [] => .error short
  | c :: _ =>
    if c.isDigit then .ok (text.takeWhile Char.isDigit, text.dropWhile Char.isDigit)
    else .error .malformed

/-- Takes the digits before the point, of which the first is zero only if it is the only one. -/
def wholeDigits (short : Failure) (text : List Char) : Except Failure (List Char × List Char) :=
  match text with
  | '0' :: rest =>
    match rest with
    | c :: _ => if c.isDigit then .error .malformed else .ok (['0'], rest)
    | [] => .ok (['0'], rest)
  | text => digits short text

/-- Takes a minus sign, if one follows. -/
def minusSign : List Char → Bool × List Char
  | '-' :: rest => (true, rest)
  | text => (false, text)

/-- Takes a sign of either kind, if one follows; tells whether it is a minus. -/
def eitherSign : List Char → Bool × List Char
  | '+' :: rest => (false, rest)
  | text => minusSign text

/-- Takes an exponent, if one follows. -/
def exponentPart (short : Failure) (text : List Char) :
    Except Failure (Option (Bool × List Char) × List Char) := do
  match text with
  | c :: rest =>
    if c = 'e' ∨ c = 'E' then
      let found ← digits short (eitherSign rest).2
      return (some ((eitherSign rest).1, found.1), found.2)
    else return (none, text)
  | [] => return (none, text)

/-- Takes the point and the digits after it, if a point follows. -/
def fractionPart (short : Failure) (text : List Char) :
    Except Failure (Option (List Char) × List Char) := do
  match text with
  | '.' :: rest =>
    let found ← digits short rest
    return (some found.1, found.2)
  | text => return (none, text)

/-- Takes a number; `short` says what is wrong if the text ends inside it. -/
def numeral (short : Failure) (text : List Char) : Except Failure (Numeral × List Char) := do
  let whole ← wholeDigits short (minusSign text).2
  let fraction ← fractionPart short whole.2
  let exponent ← exponentPart short fraction.2
  return (⟨(minusSign text).1, whole.1, fraction.1, exponent.1⟩, exponent.2)

/-- The value of a decimal digit. -/
def digitValue (c : Char) : Nat := c.toNat - '0'.toNat

/-- The number that a row of digits writes. -/
def digitsValue (found : List Char) : Nat := found.foldl (fun n c => n * 10 + digitValue c) 0

/-- The bound on the integers that are read exactly. -/
def wordBound : Nat := UInt64.size

/-- Appends digits while the number stays below the bound; tells how many were appended. -/
def appendDigits (n : Nat) : List Char → Nat × Nat
  | [] => (n, 0)
  | c :: rest =>
    let next := n * 10 + digitValue c
    if next < wordBound then
      let (total, count) := appendDigits next rest
      (total, count + 1)
    else (n, 0)

/-- The double that the numeral stands for: digits that no longer fit a word are dropped. Nothing if
it is too large. -/
def Numeral.double? (numeral : Numeral) : Option Double := do
  let fraction := numeral.fraction.getD []
  let (whole, wholeCount) := appendDigits 0 numeral.whole
  let (significand, fractionCount) := appendDigits whole fraction
  let point : Int := (numeral.whole.length - wholeCount : Nat) - (fractionCount : Int)
  let exponent : Int := match numeral.exponent with
    | none => 0
    | some (negative, found) => if negative then -digitsValue found else digitsValue found
  let magnitude ← Double.ofDecimal? significand (point + exponent)
  return magnitude.withSign numeral.negative

/-- What the numeral stands for: an integer if it is written as one, is not `-0`, and fits a word;
otherwise a double. Nothing if that is too large. -/
def Numeral.number? (numeral : Numeral) : Option Number :=
  let whole := digitsValue numeral.whole
  let plain := numeral.fraction.isNone && numeral.exponent.isNone
  if plain && !numeral.negative && whole < wordBound then some (.integer whole)
  else if plain && numeral.negative && 0 < whole && 2 * whole ≤ wordBound then some (.integer (-whole))
  else numeral.double?.map .double

/-- Reads a number. -/
def readNumber (text : List Char) : Except Failure (Number × List Char) := do
  let (numeral, rest) ← numeral .truncated text
  match numeral.number? with
  | some number => return (number, rest)
  | none => .error .malformed

end Transparency.Json

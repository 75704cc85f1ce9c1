import Transparency.Json.Skip

/-! The grammar of JSON, said without the functions that read it: which characters write white
space, a number, a string or a value. A part of a text is a list of characters, and a longer part is
put together from shorter ones by appending. -/
namespace Transparency.Json

/-! ### White space -/

/-- White space, which may stand before and after every token. -/
def Blank (text : List Char) : Prop := ∀ c ∈ text, c ∈ [' ', '\n', '\t', '\r']

-- Named, here and below, as the instance that decides a statement about all characters tries each.
instance (text : List Char) : Decidable (Blank text) := List.decidableBAll _ text

theorem Blank.nil : Blank [] := fun _ h => nomatch h

/-! ### Numbers -/

/-- A row of at least one digit. -/
def Digits (text : List Char) : Prop := text ≠ [] ∧ ∀ c ∈ text, c.isDigit

/-- The digits before the point. A zero in front stands alone. -/
def WholeText (text : List Char) : Prop := Digits text ∧ (text.head? = some '0' → text = ['0'])

instance (text : List Char) : Decidable (Digits text) :=
  @instDecidableAnd _ _ inferInstance (List.decidableBAll (fun c : Char => c.isDigit) text)

instance (text : List Char) : Decidable (WholeText text) := inferInstanceAs (Decidable (_ ∧ _))

theorem Digits.exists_cons {found : List Char} (h : Digits found) :
    ∃ c tail, found = c :: tail ∧ c.isDigit := by
  cases found with
  | nil => exact absurd rfl h.1
  | cons c tail => exact ⟨c, tail, rfl, h.2 c List.mem_cons_self⟩

/-- Nothing, or the point with the digits after it. -/
inductive FractionText : List Char → Prop
  | absent : FractionText []
  | digits {found : List Char} : Digits found → FractionText ('.' :: found)

/-- Nothing, or a power of ten, with a sign or without. -/
inductive ExponentText : List Char → Prop
  | absent : ExponentText []
  | digits {letter : Char} {sign found : List Char} : letter ∈ ['e', 'E'] →
      sign ∈ [[], ['+'], ['-']] → Digits found → ExponentText (letter :: (sign ++ found))

/-- A number. -/
inductive NumberText : List Char → Prop
  | parts {sign whole fraction exponent : List Char} : sign ∈ [[], ['-']] → WholeText whole →
      FractionText fraction → ExponentText exponent →
      NumberText (sign ++ (whole ++ (fraction ++ exponent)))

/-- An integer that is written as one, without fraction and exponent; zero has no sign. -/
inductive IntegerText : Int → List Char → Prop
  | plain {whole : List Char} : WholeText whole →
      IntegerText (Nat.ofDigitChars 10 whole 0) whole
  | negative {whole : List Char} : WholeText whole → Nat.ofDigitChars 10 whole 0 ≠ 0 →
      IntegerText (-Nat.ofDigitChars 10 whole 0) ('-' :: whole)

theorem NumberText.exists_cons {text : List Char} (h : NumberText text) :
    ∃ c tail, text = c :: tail ∧ (c = '-' ∨ c.isDigit) := by
  obtain @⟨sign, whole, fraction, exponent, hsign, hwhole, -, -⟩ := h
  obtain ⟨c, tail, rfl, hc⟩ := hwhole.1.exists_cons
  simp only [List.mem_cons, List.not_mem_nil, or_false] at hsign
  rcases hsign with rfl | rfl
  · exact ⟨c, _, rfl, .inr hc⟩
  · exact ⟨'-', _, rfl, .inl rfl⟩

theorem IntegerText.numberText {n : Int} {text : List Char} (h : IntegerText n text) :
    NumberText text := by
  cases h with
  | plain hwhole => simpa using @NumberText.parts [] text [] [] (by simp) hwhole .absent .absent
  | @negative whole hwhole _ =>
    simpa using @NumberText.parts ['-'] whole [] [] (by simp) hwhole .absent .absent

/-! ### Strings -/

/-- A hexadecimal digit, of either case, and its value. -/
def IsHexDigit (c : Char) (value : Nat) : Prop :=
  value < 16 ∧ (c = Nat.digitChar value ∨ c = (Nat.digitChar value).toUpper)

instance (c : Char) (value : Nat) : Decidable (IsHexDigit c value) :=
  inferInstanceAs (Decidable (_ ∧ _))

/-- The four hexadecimal digits of a number. -/
inductive Quad : Nat → List Char → Prop
  | digits {a b c d : Char} {w x y z : Nat} : IsHexDigit a w → IsHexDigit b x → IsHexDigit c y →
      IsHexDigit d z → Quad (((w * 16 + x) * 16 + y) * 16 + z) [a, b, c, d]

/-- The letters of the short escapes, each with the character that it stands for. -/
def shortEscapes : List (Char × Char) :=
  [('"', '"'), ('\\', '\\'), ('/', '/'), ('b', '\x08'), ('f', '\x0c'), ('n', '\n'), ('r', '\r'),
    ('t', '\t')]

/-- A character that may stand for itself in a string. -/
def Plain (c : Char) : Prop := c ≠ '"' ∧ c ≠ '\\' ∧ 0x20 ≤ c.toNat

instance (c : Char) : Decidable (Plain c) := inferInstanceAs (Decidable (_ ∧ _))

/-- One character or one escape of a string. An escape may be half of a surrogate pair. -/
inductive UnitText : List Char → Prop
  | plain {c : Char} : Plain c → UnitText [c]
  | short {letter c : Char} : (letter, c) ∈ shortEscapes → UnitText ['\\', letter]
  | code {n : Nat} {quad : List Char} : Quad n quad → UnitText ('\\' :: 'u' :: quad)

/-- What stands between the quotes of a string. -/
inductive StringText : List Char → Prop
  | nil : StringText []
  | cons {unit rest : List Char} : UnitText unit → StringText rest → StringText (unit ++ rest)

/-- The ways to write a character in a string. One outside the basic plane is written by its two
surrogates. -/
inductive CharText : Char → List Char → Prop
  | plain {c : Char} : Plain c → CharText c [c]
  | short {letter c : Char} : (letter, c) ∈ shortEscapes → CharText c ['\\', letter]
  | code {c : Char} {quad : List Char} : Quad c.toNat quad → CharText c ('\\' :: 'u' :: quad)
  | pair {c : Char} {high low : List Char} : 0x10000 ≤ c.toNat →
      Quad (0xD800 + (c.toNat - 0x10000) / 0x400) high →
      Quad (0xDC00 + (c.toNat - 0x10000) % 0x400) low →
      CharText c ('\\' :: 'u' :: (high ++ '\\' :: 'u' :: low))

/-- The ways to write a row of characters between the quotes of a string. -/
inductive Spells : List Char → List Char → Prop
  | nil : Spells [] []
  | cons {c : Char} {chars unit rest : List Char} : CharText c unit → Spells chars rest →
      Spells (c :: chars) (unit ++ rest)

/-- Characters that need no escape spell themselves. -/
theorem Spells.plain {chars : List Char} (h : ∀ c ∈ chars, Plain c) : Spells chars chars := by
  induction chars with
  | nil => exact .nil
  | cons c chars ih =>
    exact @Spells.cons c chars [c] chars (.plain (h c List.mem_cons_self))
      (ih fun d hd => h d (List.mem_cons_of_mem c hd))

/-! ### Values -/

/-- The character that opens the bracket. -/
def Bracket.opener : Bracket → Char
  | .list => '['
  | .object => '\x7b'

/-- The parts of a text that nest in one another. -/
inductive Part
  | value
  /-- A value with white space around it. -/
  | element
  /-- A key with an element. -/
  | member
  /-- What stands between brackets that are not empty. -/
  | row (bracket : Bracket)

/-- What the brackets hold. -/
def Bracket.part : Bracket → Part
  | .list => .element
  | .object => .member

/-- The texts of each part. -/
inductive Written : Part → List Char → Prop
  | null : Written .value ['n', 'u', 'l', 'l']
  | true : Written .value ['t', 'r', 'u', 'e']
  | false : Written .value ['f', 'a', 'l', 's', 'e']
  | number {text : List Char} : NumberText text → Written .value text
  | string {body : List Char} : StringText body → Written .value ('"' :: (body ++ ['"']))
  | empty {gap : List Char} (bracket : Bracket) : Blank gap →
      Written .value (bracket.opener :: (gap ++ [bracket.closer]))
  | filled {text : List Char} (bracket : Bracket) : Written (.row bracket) text →
      Written .value (bracket.opener :: (text ++ [bracket.closer]))
  | element {before text after : List Char} : Blank before → Written .value text → Blank after →
      Written .element (before ++ (text ++ after))
  | member {before key gap text : List Char} : Blank before → StringText key → Blank gap →
      Written .element text →
      Written .member (before ++ '"' :: (key ++ '"' :: (gap ++ ':' :: text)))
  | last {text : List Char} (bracket : Bracket) : Written bracket.part text →
      Written (.row bracket) text
  | more {text rest : List Char} (bracket : Bracket) : Written bracket.part text →
      Written (.row bracket) rest → Written (.row bracket) (text ++ ',' :: rest)

end Transparency.Json

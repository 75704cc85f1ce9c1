import Transparency.Json.Numeral

/-! Passing over a JSON value of any depth without keeping it. The brackets that are open are a
list, so the text may nest as deeply as it likes. -/
namespace Transparency.Json

/-- The two kinds of bracket that hold other values. -/
inductive Bracket
  | list
  | object
  deriving DecidableEq, Repr

/-- The character that closes the bracket. -/
def Bracket.closer : Bracket → Char
  | .list => ']'
  | .object => '\x7d'

/-- Passes over a value without brackets that begins with the given character. -/
def skipScalar (c : Char) (rest : List Char) : Except Failure (List Char) :=
  if c = 'n' then word ['u', 'l', 'l'] rest
  else if c = 't' then word ['r', 'u', 'e'] rest
  else if c = 'f' then word ['a', 'l', 's', 'e'] rest
  else if c = '"' then skipString rest
  else if c = '-' ∨ c.isDigit then (numeral .malformed (c :: rest)).map (·.2)
  else .error .malformed

/-- Passes over the key of a member and the colon after it. -/
def skipKey (text : List Char) : Except Failure (List Char) := do
  match skipSpace text with
  | [] => .error .truncated
  | '"' :: rest =>
    let rest ← skipString rest
    match skipSpace rest with
    | [] => .error .truncated
    | ':' :: rest => return rest
    | _ => .error .malformed
  | _ => .error .malformed

/-! ### Each part takes something off the text -/

theorem length_skipSpace (text : List Char) : (skipSpace text).length ≤ text.length :=
  (List.dropWhile_sublist isSpace).length_le

theorem length_of_word {letters text rest : List Char} (h : word letters text = .ok rest) :
    rest.length ≤ text.length := by
  induction letters generalizing text with
  | nil => simp_all [word]
  | cons letter letters ih =>
    cases text with
    | nil => simp [word] at h
    | cons c text =>
      simp only [word] at h
      split at h
      · exact Nat.le_succ_of_le (ih h)
      · cases h

theorem length_of_skipString {text rest : List Char} (h : skipString text = .ok rest) :
    rest.length < text.length := by
  fun_induction skipString text generalizing rest
  case case2 => cases h; simp
  case case4 ih =>
    have := ih h
    simp only [List.length_cons]; omega
  case case7 ih =>
    have := ih h
    simp only [List.length_cons]; omega
  case case10 ih => exact Nat.lt_succ_of_lt (ih h)
  all_goals cases h

theorem length_of_digits {short : Failure} {text : List Char} {found : List Char × List Char}
    (h : digits short text = .ok found) : found.2.length < text.length := by
  unfold digits at h
  split at h
  · cases h
  · next c tail =>
    split at h
    · next hc =>
      cases h
      simp only [List.dropWhile_cons, hc, if_true, List.length_cons]
      exact Nat.lt_succ_of_le (List.dropWhile_sublist Char.isDigit).length_le
    · cases h

theorem length_of_wholeDigits {short : Failure} {text : List Char} {found : List Char × List Char}
    (h : wholeDigits short text = .ok found) : found.2.length < text.length := by
  unfold wholeDigits at h
  split at h
  · split at h
    · split at h
      · cases h
      · cases h; simp
    · cases h; simp
  · exact length_of_digits h

theorem length_of_fractionPart {short : Failure} {text : List Char}
    {found : Option (List Char) × List Char} (h : fractionPart short text = .ok found) :
    found.2.length ≤ text.length := by
  unfold fractionPart at h
  split at h
  · next tail =>
    cases hd : digits short tail with
    | error e => rw [hd] at h; cases h
    | ok p =>
      rw [hd] at h; cases h
      exact Nat.le_of_lt (Nat.lt_succ_of_lt (length_of_digits hd))
  · cases h; exact Nat.le_refl _

theorem length_minusSign (text : List Char) : (minusSign text).2.length ≤ text.length := by
  unfold minusSign; split <;> simp

theorem length_eitherSign (text : List Char) : (eitherSign text).2.length ≤ text.length := by
  unfold eitherSign
  split
  · simp
  · exact length_minusSign _

theorem length_of_exponentPart {short : Failure} {text : List Char}
    {found : Option (Bool × List Char) × List Char} (h : exponentPart short text = .ok found) :
    found.2.length ≤ text.length := by
  unfold exponentPart at h
  split at h
  · next c tail =>
    split at h
    · cases hd : digits short (eitherSign tail).2 with
      | error e => rw [hd] at h; cases h
      | ok p =>
        rw [hd] at h; cases h
        have := length_of_digits hd
        have := length_eitherSign tail
        simp only [List.length_cons]; omega
    · cases h; exact Nat.le_refl _
  · cases h; exact Nat.le_refl _

theorem length_of_numeral {short : Failure} {text : List Char} {found : Numeral × List Char}
    (h : numeral short text = .ok found) : found.2.length < text.length := by
  unfold numeral at h
  cases hw : wholeDigits short (minusSign text).2 with
  | error e => rw [hw] at h; cases h
  | ok w =>
    rw [hw] at h
    cases hf : fractionPart short w.2 with
    | error e => simp only [bind, Except.bind, hf] at h; cases h
    | ok f =>
      cases he : exponentPart short f.2 with
      | error e => simp only [bind, Except.bind, hf, he] at h; cases h
      | ok e =>
        simp only [bind, Except.bind, hf, he, pure, Except.pure] at h
        cases h
        have := length_minusSign text
        have := length_of_wholeDigits hw
        have := length_of_fractionPart hf
        have := length_of_exponentPart he
        simp only []; omega

theorem length_of_skipScalar {c : Char} {text rest : List Char}
    (h : skipScalar c text = .ok rest) : rest.length ≤ text.length := by
  unfold skipScalar at h
  split at h
  · exact length_of_word h
  split at h
  · exact length_of_word h
  split at h
  · exact length_of_word h
  split at h
  · exact Nat.le_of_lt (length_of_skipString h)
  split at h
  · cases hn : numeral .malformed (c :: text) with
    | error e => rw [hn] at h; cases h
    | ok p =>
      rw [hn] at h; cases h
      exact Nat.le_of_lt_succ (length_of_numeral hn)
  · cases h

theorem length_of_skipKey {text rest : List Char} (h : skipKey text = .ok rest) :
    rest.length < text.length := by
  unfold skipKey at h
  have ht := length_skipSpace text
  split at h
  · cases h
  · next after heq =>
    rw [heq] at ht
    cases hs : skipString after with
    | error e => rw [hs] at h; cases h
    | ok p =>
      rw [hs] at h
      simp only [bind, Except.bind, pure, Except.pure] at h
      have hp := length_of_skipString hs
      have hq := length_skipSpace p
      split at h
      · cases h
      · next last heq' =>
        rw [heq'] at hq
        cases h
        simp only [List.length_cons] at *; omega
      · cases h
  · cases h

/-! ### Values -/

mutual

/-- Passes over a value, and over all that follows it inside the open brackets. -/
def skipValue (brackets : List Bracket) (text : List Char) : Except Failure (List Char) :=
  match h : skipSpace text with
  | [] => .error .truncated
  | c :: rest =>
    have : rest.length < text.length := by
      have := length_skipSpace text
      rw [h] at this
      exact this
    if c = '[' then skipFirst .list brackets rest
    else if c = '\x7b' then skipFirst .object brackets rest
    else
      match hs : skipScalar c rest with
      | .error e => .error e
      | .ok after =>
        have := length_of_skipScalar hs
        skipRest brackets after
termination_by 3 * text.length
decreasing_by all_goals omega

/-- Goes on after an opening bracket. -/
def skipFirst (bracket : Bracket) (brackets : List Bracket) (text : List Char) :
    Except Failure (List Char) :=
  match h : skipSpace text with
  | [] => .error .truncated
  | c :: rest =>
    have : rest.length < text.length := by
      have := length_skipSpace text
      rw [h] at this
      exact this
    if c = bracket.closer then skipRest brackets rest
    else
      have : (c :: rest).length ≤ text.length := this
      skipItem bracket brackets (c :: rest)
termination_by 3 * text.length + 2
decreasing_by all_goals omega

/-- Passes over an element or a member, and over all that follows it. -/
def skipItem (bracket : Bracket) (brackets : List Bracket) (text : List Char) :
    Except Failure (List Char) :=
  match bracket with
  | .list => skipValue (.list :: brackets) text
  | .object =>
    match h : skipKey text with
    | .error e => .error e
    | .ok rest =>
      have := length_of_skipKey h
      skipValue (.object :: brackets) rest
termination_by 3 * text.length + 1
decreasing_by all_goals omega

/-- Goes on after a value: the text continues or closes the innermost bracket. -/
def skipRest (brackets : List Bracket) (text : List Char) : Except Failure (List Char) :=
  match brackets with
  | [] => .ok text
  | bracket :: outer =>
    match h : skipSpace text with
    | [] => .error .truncated
    | c :: rest =>
      have : rest.length < text.length := by
        have := length_skipSpace text
        rw [h] at this
        exact this
      if c = ',' then skipItem bracket outer rest
      else if c = bracket.closer then skipRest outer rest
      else .error .malformed
termination_by 3 * text.length
decreasing_by all_goals omega

end

end Transparency.Json

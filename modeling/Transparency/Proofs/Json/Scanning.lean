import Transparency.Proofs.Json.Grammar

/-! The scanners take exactly what the grammar writes. A number has no end mark of its own, so each
statement about a part of one says what must not come next. -/
namespace Transparency.Json

/-! ### White space and words -/

theorem Blank.isSpace {gap : List Char} (h : Blank gap) : ∀ c ∈ gap, isSpace c := by
  intro c hc
  have := h c hc
  simp only [List.mem_cons, List.not_mem_nil, or_false] at this
  simpa [Json.isSpace, or_assoc] using this

/-- White space in front makes no difference. -/
theorem skipSpace_append {gap : List Char} (h : Blank gap) (text : List Char) :
    skipSpace (gap ++ text) = skipSpace text :=
  List.dropWhile_append_of_pos h.isSpace

theorem skipSpace_cons {c : Char} (h : isSpace c = false) (rest : List Char) :
    skipSpace (c :: rest) = c :: rest :=
  List.dropWhile_cons_of_neg (by simp [h])

theorem word_append (letters rest : List Char) : word letters (letters ++ rest) = .ok rest := by
  induction letters with
  | nil => rfl
  | cons letter letters ih => simpa [word] using ih

/-! ### Numbers -/

/-- No digit comes next. -/
def NoDigit (rest : List Char) : Prop := ∀ c ∈ rest.head?, c.isDigit = false

/-- What comes next cannot belong to a number. -/
def Ends (rest : List Char) : Prop :=
  ∀ c ∈ rest.head?, c.isDigit = false ∧ c ∉ ['.', 'e', 'E']

theorem Ends.noDigit {rest : List Char} (h : Ends rest) : NoDigit rest := fun c hc => (h c hc).1

theorem takeWhile_isDigit {rest : List Char} (h : NoDigit rest) :
    rest.takeWhile Char.isDigit = [] ∧ rest.dropWhile Char.isDigit = rest := by
  cases rest with
  | nil => exact ⟨rfl, rfl⟩
  | cons c rest =>
    have hc : c.isDigit = false := h c rfl
    exact ⟨List.takeWhile_cons_of_neg (by simp [hc]), List.dropWhile_cons_of_neg (by simp [hc])⟩

theorem digits_append {found rest : List Char} (short : Failure) (h : Digits found)
    (hrest : NoDigit rest) : digits short (found ++ rest) = .ok (found, rest) := by
  have htake : (found ++ rest).takeWhile Char.isDigit = found := by
    rw [List.takeWhile_append_of_pos h.2, (takeWhile_isDigit hrest).1, List.append_nil]
  have hdrop : (found ++ rest).dropWhile Char.isDigit = rest := by
    rw [List.dropWhile_append_of_pos h.2, (takeWhile_isDigit hrest).2]
  obtain ⟨c, tail, rfl, hc⟩ := h.exists_cons
  rw [List.cons_append] at htake hdrop
  simp only [digits, List.cons_append, hc, if_true, htake, hdrop]

theorem wholeDigits_append {whole rest : List Char} (short : Failure) (h : WholeText whole)
    (hrest : NoDigit rest) : wholeDigits short (whole ++ rest) = .ok (whole, rest) := by
  by_cases hz : whole.head? = some '0'
  · rw [h.2 hz]
    cases rest with
    | nil => rfl
    | cons c rest => simp [wholeDigits, hrest c rfl]
  · rw [← digits_append short h.1 hrest]
    obtain ⟨c, tail, rfl, -⟩ := h.1.exists_cons
    have : c ≠ '0' := fun hc => hz (congrArg some hc)
    simp [wholeDigits, this]

/-- Digits do not begin with a sign. -/
theorem minusSign_digits {found : List Char} (h : Digits found) (rest : List Char) :
    minusSign (found ++ rest) = (false, found ++ rest) := by
  obtain ⟨c, tail, rfl, hc⟩ := h.exists_cons
  have : c ≠ '-' := by rintro rfl; exact absurd hc (by decide)
  simp [minusSign, this]

theorem eitherSign_append {sign found : List Char} (hsign : sign ∈ [[], ['+'], ['-']])
    (h : Digits found) (rest : List Char) :
    (eitherSign (sign ++ (found ++ rest))).2 = found ++ rest := by
  simp only [List.mem_cons, List.not_mem_nil, or_false] at hsign
  rcases hsign with rfl | rfl | rfl
  · obtain ⟨c, tail, rfl, hc⟩ := h.exists_cons
    have : c ≠ '+' := by rintro rfl; exact absurd hc (by decide)
    have hminus := minusSign_digits h rest
    rw [List.cons_append] at hminus
    simp [eitherSign, this, hminus]
  · rfl
  · rfl

theorem fractionPart_absent {rest : List Char} (short : Failure) (h : rest.head? ≠ some '.') :
    fractionPart short rest = .ok (none, rest) := by
  cases rest with
  | nil => rfl
  | cons c rest =>
    have : c ≠ '.' := fun hc => h (congrArg some hc)
    simp [fractionPart, this, pure, Except.pure]

theorem fractionPart_append {fraction rest : List Char} (short : Failure)
    (h : FractionText fraction) (hrest : NoDigit rest) (hpoint : rest.head? ≠ some '.') :
    ∃ found, fractionPart short (fraction ++ rest) = .ok (found, rest) := by
  cases h with
  | absent => exact ⟨none, fractionPart_absent short hpoint⟩
  | digits hfound =>
    exact ⟨_, by simp [fractionPart, digits_append short hfound hrest, bind, Except.bind, pure,
      Except.pure]; rfl⟩

theorem exponentPart_absent {rest : List Char} (short : Failure) (h : Ends rest) :
    exponentPart short rest = .ok (none, rest) := by
  cases rest with
  | nil => rfl
  | cons c rest =>
    have hc := (h c rfl).2
    simp only [List.mem_cons, List.not_mem_nil, or_false, not_or] at hc
    simp [exponentPart, hc, pure, Except.pure]

theorem exponentPart_append {exponent rest : List Char} (short : Failure)
    (h : ExponentText exponent) (hrest : Ends rest) :
    ∃ found, exponentPart short (exponent ++ rest) = .ok (found, rest) := by
  cases h with
  | absent => exact ⟨none, exponentPart_absent short hrest⟩
  | @digits letter sign found hletter hsign hfound =>
    simp only [List.mem_cons, List.not_mem_nil, or_false] at hletter
    have hd := digits_append short hfound hrest.noDigit
    refine ⟨some ((eitherSign (sign ++ (found ++ rest))).1, found), ?_⟩
    simp [exponentPart, hletter, eitherSign_append hsign hfound, hd, bind, Except.bind, pure,
      Except.pure]

/-- An exponent begins with its letter. -/
theorem ExponentText.head_append {exponent rest : List Char} (h : ExponentText exponent)
    (hrest : Ends rest) : NoDigit (exponent ++ rest) ∧ (exponent ++ rest).head? ≠ some '.' := by
  cases h with
  | absent =>
    refine ⟨hrest.noDigit, fun hc => ?_⟩
    exact absurd (hrest '.' hc).2 (by simp)
  | digits hletter _ _ =>
    simp only [List.mem_cons, List.not_mem_nil, or_false] at hletter
    rcases hletter with rfl | rfl <;> exact ⟨by simp [NoDigit], by simp⟩

/-- A fraction begins with its point. -/
theorem FractionText.noDigit_append {fraction rest : List Char} (h : FractionText fraction)
    (hrest : NoDigit rest) : NoDigit (fraction ++ rest) := by
  cases h with
  | absent => exact hrest
  | digits _ => simp [NoDigit]

theorem minusSign_append {sign whole : List Char} (hsign : sign ∈ [[], ['-']])
    (h : WholeText whole) (rest : List Char) :
    minusSign (sign ++ (whole ++ rest)) = (decide (sign = ['-']), whole ++ rest) := by
  simp only [List.mem_cons, List.not_mem_nil, or_false] at hsign
  rcases hsign with rfl | rfl
  · exact minusSign_digits h.1 rest
  · rfl

/-- A number is taken to its end. -/
theorem numeral_append {text rest : List Char} (short : Failure) (h : NumberText text)
    (hrest : Ends rest) : ∃ found, numeral short (text ++ rest) = .ok (found, rest) := by
  obtain @⟨sign, whole, fraction, exponent, hsign, hwhole, hfraction, hexponent⟩ := h
  -- from the end to the front: what each part needs of the next character is what follows it
  obtain ⟨hdigit, hpoint⟩ := hexponent.head_append hrest
  obtain ⟨power, hp⟩ := exponentPart_append short hexponent hrest
  obtain ⟨part, hf⟩ := fractionPart_append short hfraction hdigit hpoint
  have hw := wholeDigits_append short hwhole (hfraction.noDigit_append hdigit)
  have hm := minusSign_append hsign hwhole (fraction ++ (exponent ++ rest))
  refine ⟨⟨decide (sign = ['-']), whole, part, power⟩, ?_⟩
  simp only [numeral, List.append_assoc, hm, hw, hf, hp, bind, Except.bind, pure, Except.pure]

/-- An integer is taken to its end, and nothing but its sign and its digits is found. -/
theorem numeral_integer {sign whole rest : List Char} (short : Failure) (hsign : sign ∈ [[], ['-']])
    (hwhole : WholeText whole) (hrest : Ends rest) :
    numeral short (sign ++ (whole ++ rest)) =
      .ok ({ negative := decide (sign = ['-']), whole := whole }, rest) := by
  have hpoint : rest.head? ≠ some '.' := fun hc => absurd (hrest '.' hc).2 (by simp)
  simp only [numeral, minusSign_append hsign hwhole, wholeDigits_append short hwhole hrest.noDigit,
    fractionPart_absent short hpoint, exponentPart_absent short hrest, bind, Except.bind, pure,
    Except.pure]

theorem digitsValue_eq (found : List Char) : digitsValue found = Nat.ofDigitChars 10 found 0 := by
  have step : (fun n c => n * 10 + digitValue c) =
      fun (n : Nat) (c : Char) => 10 * n + (c.toNat - '0'.toNat) := by
    funext n c
    rw [digitValue, Nat.mul_comm]
  rw [digitsValue, step, Nat.ofDigitChars]

/-- An integer of a word is read as itself, whether the word has a sign or not. -/
theorem readNumber_integer {n : Int} {text rest : List Char} (h : IntegerText n text)
    (hlow : -wordBound ≤ 2 * n) (hhigh : n < wordBound) (hrest : Ends rest) :
    readNumber (text ++ rest) = .ok (.integer n, rest) := by
  cases h with
  | plain hwhole =>
    rw [← digitsValue_eq] at hhigh ⊢
    have hnumeral := @numeral_integer [] text rest .truncated (by simp) hwhole hrest
    have hbound : digitsValue text < wordBound := by omega
    rw [List.nil_append] at hnumeral
    simp [readNumber, hnumeral, Numeral.number?, hbound, bind, Except.bind, pure, Except.pure]
  | @negative whole hwhole hpos =>
    rw [← digitsValue_eq] at hlow hpos ⊢
    have hnumeral := @numeral_integer ['-'] whole rest .truncated (by simp) hwhole hrest
    have hbound : 0 < digitsValue whole ∧ 2 * digitsValue whole ≤ wordBound := by omega
    rw [List.singleton_append] at hnumeral
    simp [readNumber, hnumeral, Numeral.number?, hbound, bind, Except.bind, pure, Except.pure]

/-! ### Strings -/

theorem hexValue?_of_isHexDigit {c : Char} {value : Nat} (h : IsHexDigit c value) :
    hexValue? c = some value := by
  have values : ∀ v < 16, hexValue? (Nat.digitChar v) = some v ∧
      hexValue? (Nat.digitChar v).toUpper = some v := by decide
  obtain ⟨hlt, rfl | rfl⟩ := h
  · exact (values value hlt).1
  · exact (values value hlt).2

theorem hexQuad?_of_quad {n : Nat} {quad : List Char} (h : Quad n quad) :
    ∃ a b c d, quad = [a, b, c, d] ∧ hexQuad? a b c d = some n := by
  obtain ⟨ha, hb, hc, hd⟩ := h
  refine ⟨_, _, _, _, rfl, ?_⟩
  simp [hexQuad?, hexValue?_of_isHexDigit ha, hexValue?_of_isHexDigit hb,
    hexValue?_of_isHexDigit hc, hexValue?_of_isHexDigit hd]

theorem escape?_of_mem {letter c : Char} (h : (letter, c) ∈ shortEscapes) :
    escape? letter = some c := by
  simp only [shortEscapes, List.mem_cons, Prod.mk.injEq, List.not_mem_nil, or_false] at h
  rcases h with h | h | h | h | h | h | h | h <;> obtain ⟨rfl, rfl⟩ := h <;> rfl

/-- No short escape has the letter of the numbered ones. -/
theorem ne_of_mem_shortEscapes {letter c : Char} (h : (letter, c) ∈ shortEscapes) :
    letter ≠ 'u' := by
  rintro rfl
  simp [shortEscapes] at h

theorem Plain.isControl {c : Char} (h : Plain c) : isControl c = false := by
  have := h.2.2
  simp only [Json.isControl, decide_eq_false_iff_not]
  omega

theorem skipString_unit {unit : List Char} (h : UnitText unit) (rest : List Char) :
    skipString (unit ++ rest) = skipString rest := by
  cases h with
  | plain hc =>
    have hcontrol := hc.isControl
    obtain ⟨hquote, hslash, -⟩ := hc
    rw [List.singleton_append, skipString] <;> simp_all
  | short hc =>
    have hletter := ne_of_mem_shortEscapes hc
    simp [skipString, escape?_of_mem hc]
  | code hquad =>
    obtain ⟨a, b, c, d, rfl, hn⟩ := hexQuad?_of_quad hquad
    simp [skipString, hn]

/-- A string is passed over to its closing quote. -/
theorem skipString_append {body : List Char} (h : StringText body) (rest : List Char) :
    skipString (body ++ '"' :: rest) = .ok rest := by
  induction h with
  | nil => rw [List.nil_append, skipString]
  | cons hunit _ ih => rw [List.append_assoc, skipString_unit hunit, ih]

/-- The code of a character is no half of a surrogate pair. -/
theorem isSurrogate_toNat (c : Char) :
    isLowSurrogate c.toNat = false ∧ isHighSurrogate c.toNat = false := by
  have := c.valid
  simp only [UInt32.isValidChar, Nat.isValidChar] at this
  simp only [isLowSurrogate, isHighSurrogate, Char.toNat, Bool.and_eq_false_iff,
    decide_eq_false_iff_not]
  omega

/-- A character outside the basic plane has two surrogates, which make it up again. -/
theorem surrogates_toNat {c : Char} (h : 0x10000 ≤ c.toNat) :
    let high := 0xD800 + (c.toNat - 0x10000) / 0x400
    let low := 0xDC00 + (c.toNat - 0x10000) % 0x400
    isLowSurrogate high = false ∧ isHighSurrogate high = true ∧ isLowSurrogate low = true ∧
      ofSurrogates high low = c := by
  intro high low
  have hvalid : c.toNat < 0x110000 := by
    have := c.valid
    simp only [UInt32.isValidChar, Nat.isValidChar] at this
    simp only [Char.toNat]
    omega
  have hsum : 0x10000 + (high - 0xD800) * 0x400 + (low - 0xDC00) = c.toNat := by omega
  refine ⟨?_, ?_, ?_, ?_⟩
  · simp only [isLowSurrogate, Bool.and_eq_false_iff, decide_eq_false_iff_not]; omega
  · simp only [isHighSurrogate, Bool.and_eq_true, decide_eq_true_eq]; omega
  · simp only [isLowSurrogate, Bool.and_eq_true, decide_eq_true_eq]; omega
  · rw [ofSurrogates, hsum, Char.ofNat_toNat]

theorem readString_unit {c : Char} {unit : List Char} (h : CharText c unit)
    (read rest : List Char) : readString read (unit ++ rest) = readString (c :: read) rest := by
  cases h with
  | plain hc =>
    have hcontrol := hc.isControl
    obtain ⟨hquote, hslash, -⟩ := hc
    rw [List.singleton_append, readString] <;> simp_all
  | short hc =>
    have hletter := ne_of_mem_shortEscapes hc
    simp [readString, escape?_of_mem hc]
  | code hquad =>
    obtain ⟨a, b, c, d, rfl, hn⟩ := hexQuad?_of_quad hquad
    simp [readString, hn, isSurrogate_toNat]
  | pair hc hhigh hlow =>
    obtain ⟨a, b, c, d, rfl, hn⟩ := hexQuad?_of_quad hhigh
    obtain ⟨a', b', c', d', rfl, hm⟩ := hexQuad?_of_quad hlow
    obtain ⟨h1, h2, h3, h4⟩ := surrogates_toNat hc
    simp [readString, hn, hm, h1, h2, h3, h4]

/-- A string is read to its closing quote. -/
theorem readString_append {chars body : List Char} (h : Spells chars body) (read rest : List Char) :
    readString read (body ++ '"' :: rest) = .ok (read.reverse ++ chars, rest) := by
  induction h generalizing read with
  | nil => rw [List.nil_append, readString, List.append_nil]
  | cons hunit _ ih =>
    rw [List.append_assoc, readString_unit hunit, ih, List.reverse_cons, List.append_assoc,
      List.singleton_append]

end Transparency.Json

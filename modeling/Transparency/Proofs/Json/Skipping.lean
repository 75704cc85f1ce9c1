import Transparency.Proofs.Json.Scanning

/-! Passing over a value stops right behind it: whatever the grammar writes, however deep its lists
and objects are nested, is taken as a whole, and nothing more is. -/
namespace Transparency.Json

/-! ### What stands around a value -/

/-- What may come after a value. -/
def Follows (rest : List Char) : Prop :=
  ∀ c ∈ rest.head?, c ∈ [' ', '\n', '\t', '\r', ',', ']', '\x7d']

theorem Follows.ends {rest : List Char} (h : Follows rest) : Ends rest := by
  intro c hc
  have := h c hc
  simp only [List.mem_cons, List.not_mem_nil, or_false] at this
  rcases this with rfl | rfl | rfl | rfl | rfl | rfl | rfl <;> decide

theorem Follows.comma (rest : List Char) : Follows (',' :: rest) := by
  simp [Follows]

theorem Follows.closer (bracket : Bracket) (rest : List Char) :
    Follows (bracket.closer :: rest) := by
  cases bracket <;> simp [Follows, Bracket.closer]

theorem Follows.append {gap rest : List Char} (hgap : Blank gap) (h : Follows rest) :
    Follows (gap ++ rest) := by
  cases gap with
  | nil => exact h
  | cons c gap =>
    intro d hd
    obtain rfl : c = d := Option.some.inj hd
    have := hgap c List.mem_cons_self
    simp only [List.mem_cons, List.not_mem_nil, or_false] at this ⊢
    grind

/-- The character may begin a value or a key: it is no white space and closes no bracket. -/
def Begins (c : Char) : Prop := c ∉ [' ', '\n', '\t', '\r', ']', '\x7d']

theorem Begins.isSpace {c : Char} (h : Begins c) : isSpace c = false := by
  simp only [Begins, List.mem_cons, List.not_mem_nil, or_false, not_or] at h
  simp [Json.isSpace, h]

theorem begins_number {c : Char} (h : c = '-' ∨ c.isDigit) : Begins c := by
  intro hc
  simp only [List.mem_cons, List.not_mem_nil, or_false] at hc
  rcases hc with rfl | rfl | rfl | rfl | rfl | rfl <;> revert h <;> decide

/-- Behind the white space in front, every part begins with a character of its own, so brackets that
hold something are never taken for empty ones. -/
theorem skipSpace_written {part : Part} {text : List Char} (h : Written part text) :
    ∃ c tail, Begins c ∧ ∀ rest, skipSpace (text ++ rest) = c :: (tail ++ rest) := by
  -- where the first character is known, nothing is passed over
  have start {c : Char} (tail : List Char) (hc : Begins c) :
      ∃ d tail', Begins d ∧ ∀ rest, skipSpace (c :: (tail ++ rest)) = d :: (tail' ++ rest) :=
    ⟨c, tail, hc, fun _ => skipSpace_cons hc.isSpace _⟩
  induction h with
  | null => exact start ['u', 'l', 'l'] (by simp [Begins])
  | true => exact start ['r', 'u', 'e'] (by simp [Begins])
  | false => exact start ['a', 'l', 's', 'e'] (by simp [Begins])
  | number h =>
    obtain ⟨c, tail, rfl, hc⟩ := h.exists_cons
    exact start tail (begins_number hc)
  | string => exact start _ (by simp [Begins])
  | empty bracket => exact start _ (by cases bracket <;> simp [Begins, Bracket.opener])
  | filled bracket => exact start _ (by cases bracket <;> simp [Begins, Bracket.opener])
  | @element _ _ after hbefore _ _ ih =>
    obtain ⟨c, tail, hc, h⟩ := ih
    refine ⟨c, tail ++ after, hc, fun rest => ?_⟩
    rw [List.append_assoc, skipSpace_append hbefore, List.append_assoc, h, List.append_assoc]
  | @member _ key gap text hbefore =>
    obtain ⟨c, tail, hc, h⟩ :=
      start (c := '"') (key ++ '"' :: (gap ++ ':' :: text)) (by simp [Begins])
    refine ⟨c, tail, hc, fun rest => ?_⟩
    rw [List.append_assoc, skipSpace_append hbefore, List.cons_append, h]
  | last _ _ ih => exact ih
  | @more _ rest _ _ _ ih =>
    obtain ⟨c, tail, hc, h⟩ := ih
    refine ⟨c, tail ++ ',' :: rest, hc, fun after => ?_⟩
    rw [List.append_assoc, h, List.append_assoc]

/-! ### One step

Each function keeps the equation of its match for the termination proof, so the scrutinee cannot be
rewritten in place: the equation of what follows the white space is put beside the goal, and `grind`
splits the match against it. -/

section

variable (bracket : Bracket) (outer brackets : List Bracket)

/-- Only what comes after the white space in front counts. -/
theorem skipValue_congr {text text' : List Char} (h : skipSpace text = skipSpace text') :
    skipValue brackets text = skipValue brackets text' := by
  rw [skipValue, skipValue]
  grind

theorem skipKey_congr {text text' : List Char} (h : skipSpace text = skipSpace text') :
    skipKey text = skipKey text' := by
  rw [skipKey, skipKey, h]

theorem skipItem_congr {text text' : List Char} (h : skipSpace text = skipSpace text') :
    skipItem bracket brackets text = skipItem bracket brackets text' := by
  cases bracket with
  | list => rw [skipItem, skipItem, skipValue_congr _ h]
  | object =>
    have := skipKey_congr h
    rw [skipItem, skipItem]
    grind

theorem skipValue_scalar {c : Char} {tail rest : List Char} (hc : Begins c) (hlist : c ≠ '[')
    (hobject : c ≠ '\x7b') (h : skipScalar c tail = .ok rest) :
    skipValue brackets (c :: tail) = skipRest brackets rest := by
  have := skipSpace_cons hc.isSpace tail
  rw [skipValue]
  grind

theorem skipValue_opener (rest : List Char) :
    skipValue brackets (bracket.opener :: rest) = skipFirst bracket brackets rest := by
  have := skipSpace_cons (c := bracket.opener) (by cases bracket <;> rfl) rest
  rw [skipValue]
  cases bracket <;> grind [Bracket.opener]

theorem skipFirst_closer {gap : List Char} (h : Blank gap) (rest : List Char) :
    skipFirst bracket brackets (gap ++ bracket.closer :: rest) = skipRest brackets rest := by
  have := skipSpace_append h (bracket.closer :: rest)
  have := skipSpace_cons (c := bracket.closer) (by cases bracket <;> rfl) rest
  rw [skipFirst]
  grind

/-- Brackets that are not empty go on with an item. -/
theorem skipFirst_item {c : Char} {text rest : List Char} (h : skipSpace text = c :: rest)
    (hc : Begins c) : skipFirst bracket brackets text = skipItem bracket brackets text := by
  have hcloser : c ≠ bracket.closer := by
    rintro rfl
    cases bracket <;> simp [Begins, Bracket.closer] at hc
  have hitem := skipItem_congr bracket brackets ((skipSpace_cons hc.isSpace rest).trans h.symm)
  rw [skipFirst]
  grind

theorem skipRest_append {gap : List Char} (h : Blank gap) (rest : List Char) :
    skipRest (bracket :: outer) (gap ++ rest) = skipRest (bracket :: outer) rest := by
  have := skipSpace_append h rest
  rw [skipRest, skipRest]
  grind

theorem skipRest_comma (rest : List Char) :
    skipRest (bracket :: outer) (',' :: rest) = skipItem bracket outer rest := by
  have := skipSpace_cons (c := ',') rfl rest
  rw [skipRest]
  grind

theorem skipRest_closer (rest : List Char) :
    skipRest (bracket :: outer) (bracket.closer :: rest) = skipRest outer rest := by
  have := skipSpace_cons (c := bracket.closer) (by cases bracket <;> rfl) rest
  have : bracket.closer ≠ ',' := by cases bracket <;> decide
  rw [skipRest]
  grind

end

theorem skipKey_append {before key gap : List Char} (hbefore : Blank before) (hkey : StringText key)
    (hgap : Blank gap) (rest : List Char) :
    skipKey (before ++ '"' :: (key ++ '"' :: (gap ++ ':' :: rest))) = .ok rest := by
  simp [skipKey, skipSpace_append, hbefore, hgap, skipSpace_cons, isSpace, skipString_append hkey,
    bind, Except.bind, pure, Except.pure]

/-! ### Whole parts -/

theorem skipScalar_number {c : Char} {tail rest : List Char} (h : NumberText (c :: tail))
    (hc : c = '-' ∨ c.isDigit) (hrest : Ends rest) : skipScalar c (tail ++ rest) = .ok rest := by
  obtain ⟨found, hfound⟩ := numeral_append .malformed h hrest
  have : c ∉ ['n', 't', 'f', '"'] := by
    intro hmem
    simp only [List.mem_cons, List.not_mem_nil, or_false] at hmem
    rcases hmem with rfl | rfl | rfl | rfl <;> revert hc <;> decide
  simp only [List.mem_cons, List.not_mem_nil, or_false, not_or] at this
  rw [List.cons_append] at hfound
  simp [skipScalar, this, hc, hfound, Except.map]

/-- Passing over the part, which is written by the text, ends where the text ends. -/
def Part.Passed (text : List Char) : Part → Prop
  | value => ∀ brackets rest, Follows rest →
      skipValue brackets (text ++ rest) = skipRest brackets rest
  | element => ∀ bracket outer rest, Follows rest →
      skipValue (bracket :: outer) (text ++ rest) = skipRest (bracket :: outer) rest
  | member => ∀ outer rest, Follows rest →
      skipItem .object outer (text ++ rest) = skipRest (.object :: outer) rest
  | row bracket => ∀ outer rest,
      skipItem bracket outer (text ++ bracket.closer :: rest) = skipRest outer rest

theorem skipItem_of_passed {bracket : Bracket} {text : List Char} (h : bracket.part.Passed text)
    (outer : List Bracket) {rest : List Char} (hrest : Follows rest) :
    skipItem bracket outer (text ++ rest) = skipRest (bracket :: outer) rest := by
  cases bracket with
  | list => rw [skipItem]; exact h .list outer rest hrest
  | object => exact h outer rest hrest

/-- Whatever the grammar writes is passed over. -/
theorem passed_of_written {part : Part} {text : List Char} (h : Written part text) :
    part.Passed text := by
  -- On the derivation, with the brackets and the rest free: a value inside a row is passed over with
  -- the row's bracket open, and the row goes on or closes with what is left.
  induction h with
  | null =>
    intro brackets rest _
    exact skipValue_scalar brackets (by simp [Begins]) (by decide) (by decide)
      (word_append ['u', 'l', 'l'] rest)
  | true =>
    intro brackets rest _
    exact skipValue_scalar brackets (by simp [Begins]) (by decide) (by decide)
      (word_append ['r', 'u', 'e'] rest)
  | false =>
    intro brackets rest _
    exact skipValue_scalar brackets (by simp [Begins]) (by decide) (by decide)
      (word_append ['a', 'l', 's', 'e'] rest)
  | number h =>
    intro brackets rest hrest
    obtain ⟨c, tail, rfl, hc⟩ := h.exists_cons
    have hnot : c ≠ '[' ∧ c ≠ '\x7b' := by
      constructor <;> (rintro rfl; revert hc; decide)
    exact skipValue_scalar brackets (begins_number hc) hnot.1 hnot.2
      (skipScalar_number h hc hrest.ends)
  | string h =>
    intro brackets rest _
    rw [List.cons_append, List.append_assoc]
    exact skipValue_scalar brackets (by simp [Begins]) (by decide) (by decide)
      (skipString_append h rest)
  | empty bracket hgap =>
    intro brackets rest _
    rw [List.cons_append, List.append_assoc, skipValue_opener]
    exact skipFirst_closer bracket brackets hgap rest
  | filled bracket h ih =>
    intro brackets rest _
    obtain ⟨c, tail, hc, hstart⟩ := skipSpace_written h
    rw [List.cons_append, List.append_assoc, skipValue_opener,
      skipFirst_item bracket brackets (hstart _) hc]
    exact ih brackets rest
  | @element before text after hbefore _ hafter ih =>
    intro bracket outer rest hrest
    rw [List.append_assoc, skipValue_congr _ (skipSpace_append hbefore _), List.append_assoc,
      ih _ _ (hrest.append hafter), skipRest_append _ _ hafter]
  | @member before key gap text hbefore hkey hgap _ ih =>
    intro outer rest hrest
    have hfound := skipKey_append hbefore hkey hgap (text ++ rest)
    have hvalue := ih .object outer rest hrest
    simp only [List.append_assoc, List.cons_append]
    rw [skipItem]
    grind
  | last bracket _ ih =>
    intro outer rest
    rw [skipItem_of_passed ih outer (.closer bracket rest), skipRest_closer]
  | more bracket _ _ ih ihrest =>
    intro outer after
    rw [List.append_assoc, List.cons_append, skipItem_of_passed ih outer (.comma _),
      skipRest_comma, ihrest]

end Transparency.Json

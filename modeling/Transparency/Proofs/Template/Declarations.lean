import Transparency.Proofs.Template.Reading
import Transparency.Shader.Layout

/-!
# The text of the shader templates

Where all of its variables are defined, a template without parts is a text with their printed values filled in. The
resolve shader is read as a head, the declarations of the fragment buffers, and a body.
-/

namespace Transparency.Template
open Json (Value)

/-! ## Templates with everything defined -/

mutual

/-- The text of a piece without parts, for printed values and outcomes of tests. -/
def Piece.fill (print : String → String) (test : String → Bool) : Piece → String
  | .text content => content
  | .print name _ => print name
  | .choose name _ yes no => if test name then fillAll print test yes else fillAll print test no
  | .part _ _ => ""

def fillAll (print : String → String) (test : String → Bool) : List Piece → String
  | [] => ""
  | piece :: rest => piece.fill print test ++ fillAll print test rest

end

mutual

/-- The variables that a piece prints or tests. -/
def Piece.names : Piece → List String
  | .text _ => []
  | .print name _ => [name]
  | .choose name _ yes no => name :: (namesAll yes ++ namesAll no)
  | .part _ _ => []

def namesAll : List Piece → List String
  | [] => []
  | piece :: rest => piece.names ++ namesAll rest

end

/-- What a variable prints, if it is defined. -/
def printed (scope : String → Option Value) (name : String) : String := (scope name).elim "" Value.printed

def passes (scope : String → Option Value) (name : String) : Bool := (scope name).elim false Value.isTruthy

variable {scope : String → Option Value} {parts : String → Nat → Except Failure String} {print : String → String}
  {test : String → Bool}

theorem lookup_of_isSome {name : String} (defined : (scope name).isSome) (template : String) (line : Nat) :
    ∃ value, lookup scope template name line = .ok value ∧ printed scope name = value.printed ∧
      passes scope name = value.isTruthy := by
  obtain ⟨value, known⟩ := Option.isSome_iff_exists.mp defined
  exact ⟨value, by rw [lookup, known], by rw [printed, known]; rfl, by rw [passes, known]; rfl⟩

mutual

/-- The variables that rendering a piece comes upon, for outcomes of tests. -/
def Piece.reached (test : String → Bool) : Piece → List String
  | .text _ => []
  | .print name _ => [name]
  | .choose name _ yes no => name :: if test name then reachedAll test yes else reachedAll test no
  | .part _ _ => []

def reachedAll (test : String → Bool) : List Piece → List String
  | [] => []
  | piece :: rest => piece.reached test ++ reachedAll test rest

end

mutual

theorem Piece.reached_subset : (p : Piece) → p.reached test ⊆ p.names
  | .text _ | .print _ _ | .part _ _ => List.Subset.refl _
  | .choose name line yes no => by
      rw [Piece.reached, Piece.names]
      refine List.cons_subset_cons _ ?_
      split
      · exact List.Subset.trans (reachedAll_subset yes) (List.subset_append_left _ _)
      · exact List.Subset.trans (reachedAll_subset no) (List.subset_append_right _ _)

theorem reachedAll_subset : (ps : List Piece) → reachedAll test ps ⊆ namesAll ps
  | [] => List.Subset.refl _
  | p :: rest => fun _ h => List.mem_append.mpr
      ((List.mem_append.mp h).imp (p.reached_subset ·) (reachedAll_subset rest ·))

end

mutual

/-- A piece without parts, with all variables defined that it comes upon, renders to what is filled in, whatever
template it stands in. -/
theorem Piece.render_of_reached (template : String) : (p : Piece) → p.takesPart = false →
    (∀ name ∈ p.reached (passes scope), (scope name).isSome) →
    p.render scope parts template = .ok (p.fill (printed scope) (passes scope))
  | .text _, _, _ => rfl
  | .print name line, _, defined => by
      obtain ⟨value, known, print, -⟩ := lookup_of_isSome (defined name (by simp [Piece.reached])) template line
      rw [Piece.render, known, Piece.fill, print]
      rfl
  | .choose name line yes no, whole, defined => by
      obtain ⟨wholeYes, wholeNo⟩ := Bool.or_eq_false_iff.mp whole
      simp only [Piece.reached, List.mem_cons] at defined
      obtain ⟨value, known, -, test⟩ := lookup_of_isSome (defined name (Or.inl rfl)) template line
      rw [test] at defined
      rw [Piece.render, known, Piece.fill, test]
      dsimp only
      split <;> rename_i h
      · exact renderAll_of_reached template yes wholeYes fun n hn => defined n (Or.inr (by rwa [if_pos h]))
      · exact renderAll_of_reached template no wholeNo fun n hn => defined n (Or.inr (by rwa [if_neg h]))
  | .part _ _, whole, _ => nomatch whole

theorem renderAll_of_reached (template : String) : (ps : List Piece) → takesParts ps = false →
    (∀ name ∈ reachedAll (passes scope) ps, (scope name).isSome) →
    renderAll scope parts template ps = .ok (fillAll (printed scope) (passes scope) ps)
  | [], _, _ => rfl
  | p :: rest, whole, defined => by
      obtain ⟨wholeFirst, wholeRest⟩ := Bool.or_eq_false_iff.mp whole
      simp only [reachedAll, List.mem_append] at defined
      rw [renderAll, p.render_of_reached template wholeFirst fun n h => defined n (Or.inl h),
        renderAll_of_reached template rest wholeRest fun n h => defined n (Or.inr h), fillAll]

end

theorem renderAll_eq_fill (template : String) (ps : List Piece) (whole : takesParts ps = false)
    (defined : ∀ name ∈ namesAll ps, (scope name).isSome) :
    renderAll scope parts template ps = .ok (fillAll (printed scope) (passes scope) ps) :=
  renderAll_of_reached template ps whole fun name h => defined name (reachedAll_subset ps h)

theorem fillAll_append (ps qs : List Piece) :
    fillAll print test (ps ++ qs) = fillAll print test ps ++ fillAll print test qs := by
  induction ps with
  | nil => rw [List.nil_append, fillAll, String.empty_append]
  | cons p rest ih => rw [List.cons_append, fillAll, ih, fillAll, String.append_assoc]

theorem fillAll_textPieces (content : List String) : fillAll print test (textPieces content) = lines content := by
  induction content with
  | nil => rfl
  | cons line content ih =>
      have split : textPieces (line :: content) = linePiece "\n" line :: textPieces content := rfl
      rw [split, fillAll, linePiece, Piece.fill, ih, lines_cons, String.append_assoc]

theorem reachedAll_append (ps qs : List Piece) :
    reachedAll test (ps ++ qs) = reachedAll test ps ++ reachedAll test qs := by
  induction ps with
  | nil => rfl
  | cons p rest ih => rw [List.cons_append, reachedAll, ih, reachedAll, List.append_assoc]

theorem reachedAll_textPieces (content : List String) : reachedAll test (textPieces content) = [] := by
  induction content with
  | nil => rfl
  | cons line content ih => exact ih

/-! ## The two templates -/

theorem takesParts_bufferPieces : takesParts bufferPieces = false := by rfl

/-- The lines of the resolve shader above the declarations. -/
def linesAbove : List String := resolveLines.take 4

/-- The lines of the resolve shader below the declarations, but for the last one. -/
def linesBelow : List String := (resolveLines.drop 5).take 64

/-- What stands before the declarations in the resolve shader. -/
def resolveHead : String := lines linesAbove

/-- What stands after the declarations in the resolve shader, without the line feed at its end. -/
def resolveBody : String := lines linesBelow ++ "\x7d"

theorem unmarked_linesAbove : ∀ line ∈ linesAbove, unmarked line.toList = true := by
  refine Spelled.forall (by simp only [linesAbove, resolveLines, List.take]; repeat constructor) ?_
  decide +kernel

theorem unmarked_linesBelow : ∀ line ∈ linesBelow, unmarked line.toList = true := by
  refine Spelled.forall (by simp only [linesBelow, resolveLines, List.drop, List.take]; repeat constructor) ?_
  decide +kernel

theorem resolveSource_isAround : resolveSource.IsAround linesAbove "oit_buffers" linesBelow "\x7d" where
  unmarkedAbove := unmarked_linesAbove
  unmarkedBelow := unmarked_linesBelow
  unmarkedLast := by decide
  stands := ⟨"\x7b$ include \"oit_buffers\" $\x7d", " include \"oit_buffers\" ".toList, by rfl, by decide, by decide⟩

theorem find?_bufferTemplate : find? Shader.bufferTemplate = some bufferSource := by rfl

theorem find?_resolveTemplate : find? Shader.resolveTemplate = some resolveSource := by rfl

theorem joinPath_buffers : joinPath "oit_buffers" = Shader.bufferTemplate := by decide

/-- No part stands in the declarations, so it does not matter what parts come to. -/
theorem render_of_found_buffer {name : String} (found : find? name = some bufferSource)
    (parts : String → Nat → Except Failure String) : render name scope = renderAll scope parts name bufferPieces :=
  (render_of_found found).trans (renderSource_of_whole takesParts_bufferPieces maxDepth parts)

/-- By whatever name it is found, the resolve shader is the declarations as they render alone, between a head and a
body. -/
theorem render_of_found_resolve {name : String} (found : find? name = some resolveSource) :
    render name scope =
      match render Shader.bufferTemplate scope with
      | .ok declared => .ok (resolveHead ++ declared ++ resolveBody)
      | .error _ => .error (.brokenPart Shader.bufferTemplate name 5) := by
  have known : find? (joinPath "oit_buffers") = some bufferSource := by rw [joinPath_buffers, find?_bufferTemplate]
  rw [resolveSource_isAround.render_eq found known takesParts_bufferPieces, joinPath_buffers]
  cases render Shader.bufferTemplate scope <;> rfl

theorem render_bufferTemplate_eq (scope : String → Option Value) : render Shader.bufferTemplate scope =
    renderAll scope (renderPart none Shader.bufferTemplate) Shader.bufferTemplate bufferPieces :=
  render_of_found_buffer find?_bufferTemplate _

theorem render_resolveTemplate_eq (scope : String → Option Value) : render Shader.resolveTemplate scope =
    match render Shader.bufferTemplate scope with
    | .ok declared => .ok (resolveHead ++ declared ++ resolveBody)
    | .error _ => .error (.brokenPart Shader.bufferTemplate Shader.resolveTemplate 5) :=
  render_of_found_resolve find?_resolveTemplate

/-! ## The text of the declarations -/

/-- The declaration of a buffer, with what follows it. -/
def declare (group binding rest after : String) : String :=
  "@group(" ++ (group ++ (") @binding(" ++ (binding ++ (rest ++ ("\n" ++ after)))))

theorem declare_append (group binding rest after more : String) :
    declare group binding rest after ++ more = declare group binding rest (after ++ more) := by
  simp only [declare, String.append_assoc]

theorem fillAll_declaration (binding : String) (line : Nat) (rest after : String) :
    fillAll print test (declaration binding line rest) ++ after =
      declare (print "oit_group") (print binding) rest after := by
  simp only [declaration, linePiece, declare, fillAll, Piece.fill, String.append_assoc, String.empty_append]

/-- The four fragment buffers, with what follows them. -/
def declareBuffers (print : String → String) (forms : BufferForms) (after : String) : String :=
  let declare := declare (print "oit_group")
  declare (print "counter_binding") forms.counter <| declare (print "index_binding") forms.index <|
    declare (print "data_binding") forms.data <| declare (print "depth_binding") forms.depth after

theorem declareBuffers_append (forms : BufferForms) (after more : String) :
    declareBuffers print forms after ++ more = declareBuffers print forms (after ++ more) := by
  simp only [declareBuffers, declare_append]

theorem fillAll_formPieces (line : Nat) (forms : BufferForms) (after : String) :
    fillAll print test (formPieces line forms) ++ after = declareBuffers print forms after := by
  simp only [formPieces, fillAll_append, fillAll_declaration, declare_append, declareBuffers]

/-- What stands before the sample budget. -/
def budgetText : String := lines (bufferLines.take 10) ++ "const OIT_SAMPLES_PER_PIXEL: i32 = "

/-- What stands between the sample budget and the buffers. -/
def uniformText : String := ";" ++ ("\n" ++ lines ((bufferLines.drop 11).take 5))

/-- The functions that every pass has. -/
def addressText : String := lines ((bufferLines.drop 28).take 8)

/-- The function that adds a fragment. -/
def appendText : String := lines ((bufferLines.drop 37).take 17)

def afterBuffers (print : String → String) (writes : Bool) : String :=
  declare (print "oit_group") (print "uniform_binding") ") var<uniform> oit_uniforms: OitUniforms;"
    (addressText ++ if writes then appendText else "")

/-- The declarations of the fragment buffers. -/
def declarations (print : String → String) (writes : Bool) : String :=
  budgetText ++ (print "samples_per_pixel" ++ (uniformText ++
    declareBuffers print (bufferForms writes) (afterBuffers print writes)))

theorem fillAll_bufferPieces : fillAll print test bufferPieces = declarations print (test "oit_write") := by
  simp only [bufferPieces, fillAll_append, fillAll_textPieces, fillAll, linePiece, Piece.fill, String.append_assoc,
    fillAll_declaration, declare_append, declarations, budgetText, uniformText, addressText, appendText, afterBuffers]
  cases test "oit_write" <;>
    simp only [Bool.false_eq_true, if_true, if_false, fillAll_formPieces, String.append_empty, String.empty_append]

end Transparency.Template

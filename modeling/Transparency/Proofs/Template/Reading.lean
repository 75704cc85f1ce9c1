import Transparency.Template.Library

/-!
# Reading templates

Lines without marks are read as they are. So are the lines around the name of a part: the line that names the part
leaves nothing but the part.
-/

namespace Transparency.Template
open Json (Value)

/-! ## Lines without marks -/

/-- The text has no mark in it. -/
def unmarked : List Char → Bool
  | [] => true
  | '\x7b' :: '\x7b' :: _ | '\x7b' :: '$' :: _ | '\x7b' :: '#' :: _ | '$' :: '$' :: _ | '\r' :: _ => false
  | _ :: rest => unmarked rest

theorem readText_of_unmarked (number : Nat) (feed : String) (text chars : List Char) (h : unmarked chars = true) :
    readText number feed text chars = some [.text (String.ofList (text.reverse ++ chars) ++ feed)] := by
  fun_induction unmarked chars generalizing text with
  | case1 => rw [readText, List.append_nil]
  | case2 | case3 | case4 | case5 | case6 => cases h
  | case7 c rest =>
      rename_i ih
      rw [readText, ih _ h, List.reverse_cons, List.append_assoc, List.singleton_append]
      all_goals assumption

theorem unmarked_dropWhile (p : Char → Bool) (chars : List Char) (h : unmarked chars = true) :
    unmarked (chars.dropWhile p) = true := by
  fun_induction unmarked chars with
  | case1 => rfl
  | case2 | case3 | case4 | case5 | case6 => cases h
  | case7 c rest =>
      rename_i ih
      rw [List.dropWhile_cons]
      split
      · exact ih h
      · rw [unmarked]
        · exact h
        all_goals assumption

theorem marked?_of_unmarked {line : List Char} (h : unmarked line = true) : marked? line = none := by
  have rest := unmarked_dropWhile (fun c => c = ' ' || c = '\t') line h
  rw [marked?]
  split
  · rename_i same
    rw [same] at rest
    cases rest
  · rename_i same
    rw [same] at rest
    cases rest
  · rfl

theorem readLine_of_unmarked {line : String} (h : unmarked line.toList = true) (number : Nat) (feed : String) :
    readLine number feed line.toList = some (.pieces [linePiece feed line]) := by
  rw [readLine, marked?_of_unmarked h, readText_of_unmarked number feed [] line.toList h, List.reverse_nil,
    List.nil_append, String.ofList_toList]
  rfl

/-! ## Lines among others -/

/-- Reads the lines that are left, within choices that have not ended and behind pieces. -/
def resume (number : Nat) (lines : List (List Char)) (around : List Choice) (before : List Piece) :
    Option (List Piece) :=
  (readLines number lines).bind (assemble · around before)

theorem readLines_cons {rest : List (List Char)} (more : 2 ≤ rest.length) (number : Nat) (line : List Char) :
    readLines number (line :: rest) = (readLine number "\n" line).bind fun line =>
      (readLines (number + 1) rest).map fun rest => (number, line) :: rest := by
  rw [readLines]
  · cases readLine number "\n" line with
    | none => rfl
    | some line => cases readLines (number + 1) rest <;> simp
  · rintro rfl
    simp at more
  · rintro rfl
    simp at more

section
variable {around : List Choice} {before : List Piece} {number : Nat} {rest : List (List Char)} {line : String}

theorem resume_text (h : unmarked line.toList = true) (more : 2 ≤ rest.length) :
    resume number (line.toList :: rest) around before =
      resume (number + 1) rest around (before ++ [linePiece "\n" line]) := by
  rw [resume, readLines_cons more, readLine_of_unmarked h, resume]
  cases readLines (number + 1) rest <;> rfl

theorem resume_texts (lines : List String) (h : ∀ line ∈ lines, unmarked line.toList = true) (more : 2 ≤ rest.length) :
    resume number (lines.map String.toList ++ rest) around before =
      resume (number + lines.length) rest around (before ++ textPieces lines) := by
  induction lines generalizing number before with
  | nil => simp [textPieces]
  | cons line lines ih =>
      rw [List.map_cons, List.cons_append, resume_text (h line (by simp)) (by simp; omega),
        ih fun line hl => h line (List.mem_cons_of_mem _ hl)]
      simp [textPieces, Nat.add_assoc, Nat.add_comm 1]

theorem resume_part {line text : List Char} {name : String} (marked : marked? line = some text)
    (said : statement? text = some (.part name)) (more : 2 ≤ rest.length) :
    resume number (line :: rest) around before = resume (number + 1) rest around (before ++ [.part name number]) := by
  rw [resume, readLines_cons more, readLine, marked, resume]
  simp only [said, Option.map_some]
  cases readLines (number + 1) rest <;> rfl

theorem resume_last (h : unmarked line.toList = true) :
    resume number [line.toList, []] [] before = some (before ++ [linePiece "" line]) := by
  rw [resume, readLines, readLine_of_unmarked h]
  rfl

end

/-- The lines around a part are taken over as they are, but for the line feed at the end of the last one; of the line
that names the part, nothing else is left. -/
theorem read_around_part {above below : List String} {line last name : String} {text : List Char}
    (unmarkedAbove : ∀ line ∈ above, unmarked line.toList = true)
    (unmarkedBelow : ∀ line ∈ below, unmarked line.toList = true) (unmarkedLast : unmarked last.toList = true)
    (marked : marked? line.toList = some text) (said : statement? text = some (.part name)) :
    read (above ++ line :: (below ++ [last, ""])) =
      some (textPieces above ++ [.part name (above.length + 1)] ++ textPieces below ++ [linePiece "" last]) := by
  have whole : read (above ++ line :: (below ++ [last, ""])) =
      resume 1 (above.map String.toList ++ line.toList :: (below.map String.toList ++ [last.toList, []])) [] [] := by
    rw [read, List.map_append, List.map_cons, List.map_append]
    rfl
  rw [whole, resume_texts above unmarkedAbove (by simp), resume_part marked said (by simp),
    resume_texts below unmarkedBelow (by simp), resume_last unmarkedLast, Nat.add_comm 1]
  rfl

theorem Spelled.forall {lines : List String} {texts : List (List Char)} {p : List Char → Bool} (h : Spelled lines texts)
    (all : texts.all p = true) : ∀ line ∈ lines, p line.toList = true := by
  rw [← h.map_toList, List.all_map] at all
  exact List.all_eq_true.mp all

/-! ## Rendering what was read -/

/-- Lines of text, each with its line feed. -/
def lines (content : List String) : String := String.join (content.map (· ++ "\n"))

theorem lines_cons (line : String) (rest : List String) : lines (line :: rest) = line ++ ("\n" ++ lines rest) := by
  rw [lines, List.map_cons, String.join_cons, String.append_assoc, lines]

section
variable {scope : String → Option Value} {parts parts' : String → Nat → Except Failure String} {template : String}

theorem renderAll_textPieces_append (content : List String) (ps : List Piece) :
    renderAll scope parts template (textPieces content ++ ps) =
      match renderAll scope parts template ps with
      | .ok text => .ok (lines content ++ text)
      | .error failure => .error failure := by
  induction content with
  | nil =>
      rw [textPieces, List.map_nil, List.nil_append]
      cases renderAll scope parts template ps with
      | ok text => exact congrArg Except.ok String.empty_append.symm
      | error failure => rfl
  | cons line content ih =>
      have split : textPieces (line :: content) ++ ps = linePiece "\n" line :: (textPieces content ++ ps) := rfl
      rw [split, renderAll, linePiece, Piece.render, ih]
      cases renderAll scope parts template ps with
      | ok text => simp only [lines_cons, String.append_assoc]
      | error failure => rfl

/-- What stands around a part stands around its text. -/
theorem renderAll_around_part (above below : List String) (last name : String) (line : Nat) :
    renderAll scope parts template
        (textPieces above ++ [.part name line] ++ textPieces below ++ [linePiece "" last]) =
      match parts name line with
      | .ok text => .ok (lines above ++ text ++ (lines below ++ last))
      | .error failure => .error failure := by
  rw [List.append_assoc, List.append_assoc, renderAll_textPieces_append, List.singleton_append, renderAll,
    Piece.render, renderAll_textPieces_append, renderAll, linePiece, Piece.render, renderAll]
  cases parts name line with
  | ok text => simp only [String.append_assoc, String.append_empty]
  | error failure => rfl

mutual

/-- Whether a piece takes a part. -/
def Piece.takesPart : Piece → Bool
  | .text _ | .print _ _ => false
  | .choose _ _ yes no => takesParts yes || takesParts no
  | .part _ _ => true

def takesParts : List Piece → Bool
  | [] => false
  | piece :: rest => piece.takesPart || takesParts rest

end

mutual

/-- A piece without parts does not depend on what parts come to. -/
theorem Piece.render_of_whole : (p : Piece) → p.takesPart = false →
    p.render scope parts' template = p.render scope parts template
  | .text _, _ => rfl
  | .print _ _, _ => rfl
  | .choose name line yes no, whole => by
      obtain ⟨wholeYes, wholeNo⟩ := Bool.or_eq_false_iff.mp whole
      rw [Piece.render, Piece.render, renderAll_of_whole yes wholeYes, renderAll_of_whole no wholeNo]
  | .part _ _, whole => nomatch whole

theorem renderAll_of_whole : (ps : List Piece) → takesParts ps = false →
    renderAll scope parts' template ps = renderAll scope parts template ps
  | [], _ => rfl
  | p :: rest, whole => by
      obtain ⟨wholeFirst, wholeRest⟩ := Bool.or_eq_false_iff.mp whole
      rw [renderAll, renderAll, p.render_of_whole wholeFirst, renderAll_of_whole rest wholeRest]

end

/-- A template without parts renders the same however deep parts may stand, and whatever they come to. -/
theorem renderSource_of_whole {source : Source} (whole : takesParts source.pieces = false) (depth : Nat)
    (parts : String → Nat → Except Failure String) :
    renderSource scope depth template source = renderAll scope parts template source.pieces := by
  cases depth with
  | zero => exact renderAll_of_whole source.pieces whole
  | succ depth => exact renderAll_of_whole source.pieces whole

theorem render_of_found {name : String} {source : Source} (found : find? name = some source) :
    render name scope = renderSource scope maxDepth name source := by
  unfold render
  simp only [found]

theorem render_of_missing {name : String} (missing : find? name = none) : render name scope = .error (.unknown name) := by
  unfold render
  simp only [missing]

theorem renderPart_of_found {inner : String → Source → Except Failure String} {name : String} {source : Source}
    (found : find? (joinPath name) = some source) (line : Nat) :
    renderPart (some inner) template name line =
      match inner (joinPath name) source with
      | .ok text => .ok text
      | .error _ => .error (.brokenPart (joinPath name) template line) := by
  unfold renderPart
  cases rendered : inner (joinPath name) source <;> simp only [found, rendered]

/-- A part renders as it does alone, if there are no parts in it. -/
theorem renderPart_of_whole {name : String} {source : Source} (found : find? (joinPath name) = some source)
    (whole : takesParts source.pieces = false) (depth line : Nat) :
    renderPart (some (renderSource scope depth)) template name line =
      match render (joinPath name) scope with
      | .ok text => .ok text
      | .error _ => .error (.brokenPart (joinPath name) template line) := by
  have same : renderSource scope depth (joinPath name) source = renderSource scope maxDepth (joinPath name) source :=
    (renderSource_of_whole whole depth (renderPart none template)).trans
      (renderSource_of_whole whole maxDepth _).symm
  rw [renderPart_of_found found, render_of_found found, same]

end

/-! ## Text around a part -/

/-- The text of a template is lines without marks, with a part in a line between them. -/
structure Source.IsAround (source : Source) (above : List String) (name : String) (below : List String)
    (last : String) : Prop where
  unmarkedAbove : ∀ line ∈ above, unmarked line.toList = true
  unmarkedBelow : ∀ line ∈ below, unmarked line.toList = true
  unmarkedLast : unmarked last.toList = true
  stands : ∃ line text, source.lines = above ++ line :: (below ++ [last, ""]) ∧ marked? line.toList = some text ∧
    statement? text = some (.part name)

namespace Source.IsAround
variable {source part : Source} {above below : List String} {name last file : String}

theorem pieces_eq (h : source.IsAround above name below last) : source.pieces =
    textPieces above ++ [.part name (above.length + 1)] ++ textPieces below ++ [linePiece "" last] := by
  obtain ⟨line, text, lines, marked, said⟩ := h.stands
  have reads := source.reads
  rw [lines, read_around_part h.unmarkedAbove h.unmarkedBelow h.unmarkedLast marked said] at reads
  exact (Option.some.inj reads).symm

/-- The template is the text of the part, as it renders alone, between two texts that are always the same. -/
theorem render_eq (h : source.IsAround above name below last) (found : find? file = some source)
    (known : find? (joinPath name) = some part) (whole : takesParts part.pieces = false)
    (scope : String → Option Value) :
    render file scope =
      match render (joinPath name) scope with
      | .ok text => .ok (Template.lines above ++ text ++ (Template.lines below ++ last))
      | .error _ => .error (.brokenPart (joinPath name) file (above.length + 1)) := by
  have deep : maxDepth = 48 + 1 := rfl
  rw [render_of_found found, deep, renderSource, h.pieces_eq, renderAll_around_part, renderPart_of_whole known whole]
  cases render (joinPath name) scope <;> rfl

end Source.IsAround

end Transparency.Template

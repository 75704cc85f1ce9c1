import Transparency.Proofs.Template.Declarations

/-!
# Shaders tell layouts apart

Every layout has its own text of the buffer declarations, and its own resolve shader: the numbers can be read off
the text, as none of them is followed by a digit, and the two forms of the declarations are never the same.
-/

namespace Transparency.Text

/-- The text does not go on with a digit. -/
def Marked (s : String) : Prop := ∃ c ∈ s.toList.head?, c.isDigit = false

theorem Marked.append {s : String} (marked : Marked s) (t : String) : Marked (s ++ t) := by
  obtain ⟨c, first, other⟩ := marked
  refine ⟨c, ?_, other⟩
  rw [String.toList_append, List.head?_append, first]
  rfl

theorem marked_ofList {c : Char} (other : c.isDigit = false) (rest : List Char) : Marked (String.ofList (c :: rest)) :=
  ⟨c, by rw [String.toList_ofList]; rfl, other⟩

theorem decimal_natCast (n : Nat) : decimal n = String.ofList (Nat.toDigits 10 n) := by
  rw [decimal, decimalChars, if_neg (by omega), Int.natAbs_natCast]

theorem takeWhile_isDigit {s : String} (marked : Marked s) (n : Nat) (t : List Char) :
    (Nat.toDigits 10 n ++ (s.toList ++ t)).takeWhile Char.isDigit = Nat.toDigits 10 n := by
  obtain ⟨c, first, other⟩ := marked
  obtain ⟨rest, whole⟩ := List.head?_eq_some_iff.mp first
  rw [List.takeWhile_append_of_pos fun c hc => Nat.isDigit_of_mem_toDigits (by decide) (by decide) hc, whole,
    List.cons_append, List.takeWhile_cons_of_neg (by simp [other]), List.append_nil]

theorem decimal_append_inj {m n : Nat} {s s' t t' : String} (marked : Marked s) (marked' : Marked s')
    (same : decimal m ++ (s ++ t) = decimal n ++ (s' ++ t')) : m = n ∧ s ++ t = s' ++ t' := by
  have chars := congrArg String.toList same
  simp only [decimal_natCast, String.toList_append, String.toList_ofList] at chars
  have digits := congrArg (List.takeWhile Char.isDigit) chars
  rw [takeWhile_isDigit marked, takeWhile_isDigit marked'] at digits
  have number := congrArg (Nat.ofDigitChars 10 · 0) digits
  simp only [Nat.ofDigitChars_toDigits (b := 10) (by decide) (by decide)] at number
  subst number
  exact ⟨rfl, (String.append_right_inj _).mp same⟩

end Transparency.Text

namespace Transparency.Template
open Text (decimal Marked)

/-! ## One declaration -/

theorem declare_inj {group group' binding binding' : Nat} {rest rest' after after' : String}
    (marked : Marked rest) (marked' : Marked rest')
    (same : declare (decimal group) (decimal binding) rest after =
      declare (decimal group') (decimal binding') rest' after') :
    group = group' ∧ binding = binding' ∧ rest ++ ("\n" ++ after) = rest' ++ ("\n" ++ after') := by
  simp only [declare, String.append_right_inj] at same
  obtain ⟨hg, same⟩ := Text.decimal_append_inj ⟨')', rfl, rfl⟩ ⟨')', rfl, rfl⟩ same
  rw [String.append_right_inj] at same
  obtain ⟨hb, same⟩ := Text.decimal_append_inj marked marked' same
  exact ⟨hg, hb, same⟩

theorem declare_inj_of_rest {group group' binding binding' : Nat} {rest after after' : String} (marked : Marked rest)
    (same : declare (decimal group) (decimal binding) rest after =
      declare (decimal group') (decimal binding') rest after') : binding = binding' ∧ after = after' := by
  obtain ⟨-, hb, same⟩ := declare_inj marked marked same
  rw [String.append_right_inj, String.append_right_inj] at same
  exact ⟨hb, same⟩

theorem marked_bufferForms (writes : Bool) :
    Marked (bufferForms writes).counter ∧ Marked (bufferForms writes).index ∧ Marked (bufferForms writes).data ∧
      Marked (bufferForms writes).depth := by
  cases writes <;> exact ⟨Text.marked_ofList rfl _, Text.marked_ofList rfl _, Text.marked_ofList rfl _,
    Text.marked_ofList rfl _⟩

/-- The two forms of the declarations differ in how the counter is bound. -/
theorem counter_forms_ne (t t' : String) : (bufferForms true).counter ++ t ≠ (bufferForms false).counter ++ t' := by
  intro same
  have start := congrArg (fun s => s.toList.take 20) same
  simp only [bufferForms, String.toList_append] at start
  rw [List.take_append_of_le_length (by decide), List.take_append_of_le_length (by decide)] at start
  exact absurd start (by decide)

end Transparency.Template

namespace Transparency.Shader
open Text (decimal)
open Template (bufferForms declare declareBuffers printed renderAll_eq_fill render_bufferTemplate_eq
  render_resolveTemplate_eq)

namespace Layout
variable {a b : Layout} {after after' : String}

/-! ## What a layout renders to -/

def declarations (a : Layout) : String := Template.declarations (printed a.scope) a.writes

def resolveCode (a : Layout) : String := Template.resolveHead ++ (a.declarations ++ Template.resolveBody)

theorem defined (a : Layout) : ∀ name ∈ Template.namesAll Template.bufferPieces, (a.scope name).isSome := by
  have all : (Template.namesAll Template.bufferPieces).all (fun name => (a.scope name).isSome) = true := by rfl
  exact List.all_eq_true.mp all

theorem render_bufferTemplate (a : Layout) : Template.render bufferTemplate a.scope = .ok a.declarations := by
  rw [render_bufferTemplate_eq, renderAll_eq_fill _ _ Template.takesParts_bufferPieces a.defined,
    Template.fillAll_bufferPieces]
  rfl

theorem render_resolveTemplate (a : Layout) : Template.render resolveTemplate a.scope = .ok a.resolveCode := by
  rw [render_resolveTemplate_eq, render_bufferTemplate, resolveCode, ← String.append_assoc]

theorem printed_scope (a : Layout) :
    printed a.scope "samples_per_pixel" = decimal a.samplesPerPixel.toNat ∧
    printed a.scope "oit_group" = decimal a.group.toNat ∧
    printed a.scope "counter_binding" = decimal a.counter.toNat ∧
    printed a.scope "index_binding" = decimal a.index.toNat ∧
    printed a.scope "data_binding" = decimal a.data.toNat ∧
    printed a.scope "depth_binding" = decimal a.depth.toNat ∧
    printed a.scope "uniform_binding" = decimal a.uniform.toNat := ⟨rfl, rfl, rfl, rfl, rfl, rfl, rfl⟩

/-! ## What the text tells -/

theorem buffers_inj {writes : Bool}
    (same : declareBuffers (printed a.scope) (bufferForms writes) after =
      declareBuffers (printed b.scope) (bufferForms writes) after') :
    a.group = b.group ∧ a.counter = b.counter ∧ a.index = b.index ∧ a.data = b.data ∧ a.depth = b.depth ∧
      after = after' := by
  obtain ⟨-, ag, ac, ai, ad, az, -⟩ := a.printed_scope
  obtain ⟨-, bg, bc, bi, bd, bz, -⟩ := b.printed_scope
  obtain ⟨mc, mi, md, mz⟩ := Template.marked_bufferForms writes
  simp only [declareBuffers, ag, ac, ai, ad, az, bg, bc, bi, bd, bz] at same
  have group := (Template.declare_inj mc mc same).1
  obtain ⟨counter, same⟩ := Template.declare_inj_of_rest mc same
  obtain ⟨index, same⟩ := Template.declare_inj_of_rest mi same
  obtain ⟨data, same⟩ := Template.declare_inj_of_rest md same
  obtain ⟨depth, same⟩ := Template.declare_inj_of_rest mz same
  exact ⟨UInt32.toNat_inj.mp group, UInt32.toNat_inj.mp counter, UInt32.toNat_inj.mp index,
    UInt32.toNat_inj.mp data, UInt32.toNat_inj.mp depth, same⟩

theorem writes_eq
    (same : declareBuffers (printed a.scope) (bufferForms a.writes) after =
      declareBuffers (printed b.scope) (bufferForms b.writes) after') :
    a.writes = b.writes := by
  obtain ⟨-, ag, ac, -⟩ := a.printed_scope
  obtain ⟨-, bg, bc, -⟩ := b.printed_scope
  simp only [declareBuffers, ag, ac, bg, bc] at same
  have rests := (Template.declare_inj (Template.marked_bufferForms _).1 (Template.marked_bufferForms _).1 same).2.2
  cases aw : a.writes <;> cases bw : b.writes
  case false.false | true.true => rfl
  all_goals rw [aw, bw] at rests
  · exact absurd rests.symm (Template.counter_forms_ne _ _)
  · exact absurd rests (Template.counter_forms_ne _ _)

/-- The declarations tell the layout, whatever text follows them. -/
theorem eq_of_declarations_append {t t' : String} (same : a.declarations ++ t = b.declarations ++ t') : a = b := by
  obtain ⟨as, -, -, -, -, -, au⟩ := a.printed_scope
  obtain ⟨bs, -, -, -, -, -, bu⟩ := b.printed_scope
  -- number after number is read off, with the fixed text that follows it
  simp only [declarations, Template.declarations, String.append_assoc, String.append_right_inj, as, bs] at same
  have marked : Text.Marked Template.uniformText := by
    rw [Template.uniformText]
    exact .append ⟨';', rfl, rfl⟩ _
  obtain ⟨samples, same⟩ := Text.decimal_append_inj marked marked same
  rw [String.append_right_inj, Template.declareBuffers_append, Template.declareBuffers_append] at same
  have writes := writes_eq same
  rw [writes] at same
  obtain ⟨group, counter, index, data, depth, same⟩ := buffers_inj same
  simp only [Template.afterBuffers, Template.declare_append, au, bu] at same
  have uniform := (Template.declare_inj (Text.marked_ofList rfl _) (Text.marked_ofList rfl _) same).2.1
  cases a
  cases b
  simp_all [UInt64.toNat_inj, UInt32.toNat_inj]

theorem declarations_ne_resolveCode (a b : Layout) : a.declarations ≠ b.resolveCode := by
  intro same
  simp only [declarations, Template.declarations, resolveCode, Template.budgetText, Template.bufferLines,
    Template.resolveHead, Template.linesAbove, Template.resolveLines, List.take_succ_cons, Template.lines_cons,
    String.append_assoc] at same
  -- the first lines differ in their eighth letter
  have start := congrArg (fun s => s.toList.take 8) same
  simp only [String.toList_append] at start
  rw [List.take_append_of_le_length (by decide), List.take_append_of_le_length (by decide)] at start
  exact absurd start (by decide)

end Layout

theorem map_code_compile (name : String) (scope : String → Option Json.Value) :
    (Program.compile name scope).map (·.code) = Template.render name scope := by
  rw [Program.compile]
  cases Template.render name scope <;> rfl

theorem resolveProgram_ok : ∃ program, resolveProgram = .ok program := by
  rw [resolveProgram, Program.compile, Layout.render_resolveTemplate]
  exact ⟨_, rfl⟩

/-- Both templates render for every layout, and no two layouts ever share their text. -/
theorem layout_of_text :
    (∀ a : Layout, ∃ text, Template.render bufferTemplate a.scope = .ok text) ∧
    (∀ a : Layout, ∃ text, Template.render resolveTemplate a.scope = .ok text) ∧
    Function.Injective (fun a : Layout => Template.render bufferTemplate a.scope) ∧
    Function.Injective (fun a : Layout => Template.render resolveTemplate a.scope) ∧
    Function.Injective (fun a : Layout => (Program.compile resolveTemplate a.scope).map (·.code)) ∧
    ∀ a b : Layout, Template.render bufferTemplate a.scope ≠ Template.render resolveTemplate b.scope := by
  simp only [map_code_compile, Layout.render_bufferTemplate, Layout.render_resolveTemplate]
  have buffers : Function.Injective fun a : Layout => (Except.ok a.declarations : Except Template.Failure String) := by
    intro a b same
    have same : a.declarations ++ "" = b.declarations ++ "" := by rw [Except.ok.inj same]
    exact Layout.eq_of_declarations_append same
  have resolve : Function.Injective fun a : Layout => (Except.ok a.resolveCode : Except Template.Failure String) := by
    intro a b same
    exact Layout.eq_of_declarations_append ((String.append_right_inj _).mp (Except.ok.inj same))
  exact ⟨fun a => ⟨_, rfl⟩, fun a => ⟨_, rfl⟩, buffers, resolve, resolve, fun a b same =>
    a.declarations_ne_resolveCode b (Except.ok.inj same)⟩

end Transparency.Shader

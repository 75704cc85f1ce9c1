import Transparency.Proofs.Template.Declarations

/-!
# Which contexts render

A template without parts renders if the variables that it comes upon are defined. Both forms of the buffer
declarations come upon the same ones, and the resolve shader takes the declarations over as they render alone.
-/

namespace Transparency.Template
open Json (Value)

variable {scope : String → Option Value} {parts : String → Nat → Except Failure String} {test : String → Bool}

/-! ## Templates with something undefined -/

theorem render_of_lookup {name template : String} {line : Nat} (undefined : scope name = none) :
    lookup scope template name line = .error (.undefined template line) := by rw [lookup, undefined]

mutual

/-- A piece that comes upon an undefined variable yields no text, and the variable is what is wrong. -/
theorem Piece.render_of_undefined (template : String) : (p : Piece) → p.takesPart = false →
    (∃ name ∈ p.reached (passes scope), scope name = none) →
    ∃ line, p.render scope parts template = .error (.undefined template line)
  | .text _, _, ⟨_, reached, _⟩ => nomatch reached
  | .print name line, _, ⟨_, reached, undefined⟩ => by
      obtain rfl := List.mem_singleton.mp reached
      exact ⟨line, by rw [Piece.render, render_of_lookup undefined]; rfl⟩
  | .choose name line yes no, whole, ⟨n, reached, undefined⟩ => by
      obtain ⟨wholeYes, wholeNo⟩ := Bool.or_eq_false_iff.mp whole
      rw [Piece.render]
      cases known : scope name with
      | none => exact ⟨line, by rw [render_of_lookup known]⟩
      | some value =>
          have test : passes scope name = value.isTruthy := by rw [passes, known]; rfl
          have found : lookup scope template name line = .ok value := by rw [lookup, known]
          rw [Piece.reached, test, List.mem_cons] at reached
          rw [found]
          have later := reached.resolve_left fun same => by simp [← same, undefined] at known
          dsimp only
          split <;> rename_i h
          · exact renderAll_of_undefined template yes wholeYes ⟨n, by rwa [if_pos h] at later, undefined⟩
          · exact renderAll_of_undefined template no wholeNo ⟨n, by rwa [if_neg h] at later, undefined⟩
  | .part _ _, whole, _ => nomatch whole

theorem renderAll_of_undefined (template : String) : (ps : List Piece) → takesParts ps = false →
    (∃ name ∈ reachedAll (passes scope) ps, scope name = none) →
    ∃ line, renderAll scope parts template ps = .error (.undefined template line)
  | [], _, ⟨_, reached, _⟩ => nomatch reached
  | p :: rest, whole, ⟨n, reached, undefined⟩ => by
      obtain ⟨wholeFirst, wholeRest⟩ := Bool.or_eq_false_iff.mp whole
      rw [renderAll]
      by_cases first : ∃ name ∈ p.reached (passes scope), scope name = none
      · obtain ⟨line, failed⟩ := p.render_of_undefined template wholeFirst first
        exact ⟨line, by rw [failed]⟩
      · -- the first piece renders, so what is undefined comes later
        have defined : ∀ name ∈ p.reached (passes scope), (scope name).isSome := fun name h =>
          Option.isSome_iff_ne_none.mpr fun undefined => first ⟨name, h, undefined⟩
        have later := (List.mem_append.mp reached).resolve_left fun h => first ⟨n, h, undefined⟩
        obtain ⟨line, failed⟩ := renderAll_of_undefined template rest wholeRest ⟨n, later, undefined⟩
        exact ⟨line, by rw [p.render_of_reached template wholeFirst defined, failed]⟩

end

/-! ## The variables of the declarations -/

/-- The variables that the declarations print. -/
def printedNames : List String :=
  ["samples_per_pixel", "oit_group", "counter_binding", "index_binding", "data_binding", "depth_binding",
    "uniform_binding"]

/-- The variables that the declarations need. -/
def neededNames : List String := "oit_write" :: printedNames

/-- Whatever the test comes to, the declarations come upon the same variables. -/
theorem mem_reachedAll_bufferPieces (name : String) :
    name ∈ reachedAll test bufferPieces ↔ name ∈ neededNames := by
  simp only [bufferPieces, formPieces, declaration, linePiece, reachedAll_append, reachedAll_textPieces, reachedAll,
    Piece.reached, neededNames, printedNames]
  cases test "oit_write" <;> simp only [if_true, if_false, Bool.false_eq_true, List.mem_append, List.mem_cons,
    List.not_mem_nil] <;> grind

/-! ## Contexts -/

/-- The context is an object that has a field for each of the variables that the declarations need. -/
def Complete (context : Value) : Prop :=
  ∃ fields, context = .object fields ∧ ∀ name ∈ neededNames, name ∈ fields.map (·.1)

theorem isSome_lookup (fields : List (String × Value)) (name : String) :
    (fields.lookup name).isSome ↔ name ∈ fields.map (·.1) := by
  induction fields with
  | nil => simp
  | cons field fields ih =>
      rw [List.lookup_cons, List.map_cons, List.mem_cons]
      by_cases same : name = field.1
      · simp [same]
      · rw [beq_false_of_ne same, or_iff_right same]
        exact ih

theorem complete_iff {context : Value} :
    Complete context ↔ ∀ name ∈ neededNames, (context.scope name).isSome := by
  constructor
  · rintro ⟨fields, rfl, all⟩ name needed
    exact (isSome_lookup fields name).mpr (all name needed)
  · intro defined
    cases context with
    | object fields => exact ⟨fields, rfl, fun name needed => (isSome_lookup fields name).mp (defined name needed)⟩
    | _ => exact nomatch defined "oit_write" List.mem_cons_self

/-! ## The two templates -/

theorem render_bufferTemplate_of_complete {context : Value} (complete : Complete context) :
    render Shader.bufferTemplate context.scope =
      .ok (declarations (printed context.scope) (passes context.scope "oit_write")) := by
  rw [render_bufferTemplate_eq, ← fillAll_bufferPieces]
  exact renderAll_of_reached _ _ takesParts_bufferPieces fun name reached =>
    complete_iff.mp complete name ((mem_reachedAll_bufferPieces name).mp reached)

theorem render_bufferTemplate_of_incomplete {context : Value} (incomplete : ¬Complete context) :
    ∃ line, render Shader.bufferTemplate context.scope = .error (.undefined Shader.bufferTemplate line) := by
  simp only [complete_iff, Classical.not_forall, Option.not_isSome_iff_eq_none] at incomplete
  obtain ⟨name, needed, undefined⟩ := incomplete
  rw [render_bufferTemplate_eq]
  exact renderAll_of_undefined _ _ takesParts_bufferPieces
    ⟨name, (mem_reachedAll_bufferPieces name).mpr needed, undefined⟩

theorem printed_eq (scope : String → Option Value) (name : String) :
    printed scope name = ((scope name).map Value.printed).getD "" := by
  rw [printed]
  cases scope name <;> rfl

theorem passes_eq (scope : String → Option Value) (name : String) :
    passes scope name = ((scope name).map Value.isTruthy).getD false := by
  rw [passes]
  cases scope name <;> rfl

theorem declarations_congr {print print' : String → String} (same : ∀ name ∈ printedNames, print' name = print name)
    (writes : Bool) : declarations print' writes = declarations print writes := by
  simp only [printedNames, List.mem_cons, List.not_mem_nil, or_false, forall_eq_or_imp, forall_eq] at same
  obtain ⟨samples, group, counter, index, data, depth, uniform⟩ := same
  cases writes <;> simp only [declarations, declareBuffers, afterBuffers, samples, group, counter, index,
    data, depth, uniform]

/-- In every context the resolve shader is the declarations as they render alone, between two fixed texts; where they
do not render, the part is what is wrong. -/
theorem resolve_takes_declarations (context : Value) :
    (∀ shader, render Shader.resolveTemplate context.scope = .ok shader ↔
      ∃ declared, render Shader.bufferTemplate context.scope = .ok declared ∧
        shader = resolveHead ++ declared ++ resolveBody) ∧
    ∀ failure, render Shader.bufferTemplate context.scope = .error failure →
      ∃ broken, render Shader.resolveTemplate context.scope = .error broken ∧ broken.name = "BadInclude" := by
  rw [render_resolveTemplate_eq]
  cases render Shader.bufferTemplate context.scope with
  | ok declared =>
      refine ⟨fun shader => ?_, fun _ failed => nomatch failed⟩
      simp only [Except.ok.injEq, exists_eq_left', eq_comm]
  | error failure =>
      refine ⟨fun shader => ⟨fun rendered => (nomatch rendered), fun ⟨_, rendered, _⟩ => (nomatch rendered)⟩, ?_⟩
      exact fun _ _ => ⟨_, rfl, rfl⟩

theorem resolve_takes_nothing :
    render Shader.bufferTemplate Value.null.scope = .error (.undefined Shader.bufferTemplate 11) ∧
    ∃ broken, render Shader.resolveTemplate Value.null.scope = .error broken ∧ broken.name = "BadInclude" :=
  have failed : render Shader.bufferTemplate Value.null.scope = .error (.undefined Shader.bufferTemplate 11) := by
    rw [render_bufferTemplate_eq]
    rfl
  ⟨failed, (resolve_takes_declarations .null).2 _ failed⟩

/-- Both templates render exactly in the contexts that define all eight variables, with whatever value, and of the
values only the printed forms of seven matter, and what the test of the eighth comes to. -/
theorem render_iff_complete (context : Value) :
    ((∃ text, render Shader.bufferTemplate context.scope = .ok text) ↔ Complete context) ∧
    ((∃ text, render Shader.resolveTemplate context.scope = .ok text) ↔ Complete context) ∧
    (¬Complete context →
      (∃ failure, render Shader.bufferTemplate context.scope = .error failure ∧ failure.name = "UndefinedError") ∧
      ∃ failure, render Shader.resolveTemplate context.scope = .error failure ∧ failure.name = "BadInclude") ∧
    ∀ other, Complete context → Complete other →
      (∀ name ∈ printedNames, (other.scope name).map Value.printed = (context.scope name).map Value.printed) →
      (other.scope "oit_write").map Value.isTruthy = (context.scope "oit_write").map Value.isTruthy →
      render Shader.bufferTemplate other.scope = render Shader.bufferTemplate context.scope ∧
      render Shader.resolveTemplate other.scope = render Shader.resolveTemplate context.scope := by
  rw [render_resolveTemplate_eq]
  by_cases complete : Complete context
  · rw [render_bufferTemplate_of_complete complete]
    refine ⟨iff_of_true ⟨_, rfl⟩ complete, iff_of_true ⟨_, rfl⟩ complete, fun no => absurd complete no, ?_⟩
    intro other _ complete' print test
    have declared : render Shader.bufferTemplate other.scope =
        .ok (declarations (printed context.scope) (passes context.scope "oit_write")) := by
      rw [render_bufferTemplate_of_complete complete', passes_eq, test, ← passes_eq,
        declarations_congr fun name needed => ?_]
      rw [printed_eq, print name needed, ← printed_eq]
    exact ⟨declared, by rw [render_resolveTemplate_eq, declared]⟩
  · obtain ⟨line, failed⟩ := render_bufferTemplate_of_incomplete complete
    rw [failed]
    exact ⟨iff_of_false nofun complete, iff_of_false nofun complete, fun _ => ⟨⟨_, rfl, rfl⟩, _, rfl, rfl⟩,
      fun _ complete' => absurd complete' complete⟩

/-- Every variable has the null value. -/
def nulls : Value := .object (neededNames.map (·, .null))

/-- Every variable is written out as nulls are printed, and there is one more. -/
def words : Value :=
  .object (("extra", .bool true) :: ("oit_write", .number (.integer 0)) :: printedNames.map (·, .text "None"))

theorem render_words : Complete nulls ∧ Complete words ∧
    render Shader.bufferTemplate words.scope = render Shader.bufferTemplate nulls.scope ∧
    ¬Complete (.list [nulls]) ∧
    ∃ failure, render Shader.resolveTemplate (Value.list [nulls]).scope = .error failure ∧
      failure.name = "BadInclude" := by
  have complete : Complete nulls := ⟨_, rfl, by decide⟩
  have complete' : Complete words := ⟨_, rfl, by decide⟩
  have list : ¬Complete (.list [nulls]) := fun ⟨_, object, _⟩ => nomatch object
  have print : ∀ name ∈ printedNames,
      (words.scope name).map Value.printed = (nulls.scope name).map Value.printed := by decide
  exact ⟨complete, complete', ((render_iff_complete nulls).2.2.2 words complete complete' print rfl).1, list,
    ((render_iff_complete (.list [nulls])).2.2.1 list).2⟩

end Transparency.Template

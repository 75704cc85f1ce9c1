import Transparency.Proofs.Template.Declarations

/-!
# The names of templates

Each template goes by its bare name, with the extension of shaders or without it, and with backslashes or slashes.
No other name stands for a template, and a template says the same under all of its names.
-/

namespace Transparency.Template

/-! ## Paths -/

/-- A path ends in a part without slashes. -/
def EndsIn (part path : List Char) : Prop :=
  '/' ∉ part ∧ (path = part ∨ ∃ folder, path = folder ++ '/' :: part)

theorem exists_endsIn (path : List Char) : ∃ part, EndsIn part path := by
  induction path with
  | nil => exact ⟨[], List.not_mem_nil, .inl rfl⟩
  | cons c rest ih =>
      obtain ⟨part, noSlash, rfl | ⟨folder, rfl⟩⟩ := ih
      · by_cases slash : '/' = c
        · subst slash
          exact ⟨rest, noSlash, .inr ⟨[], rfl⟩⟩
        · exact ⟨c :: rest, List.not_mem_cons_of_ne_of_not_mem slash noSlash, .inl rfl⟩
      · exact ⟨part, noSlash, .inr ⟨c :: folder, rfl⟩⟩

namespace EndsIn
variable {part path more : List Char}

theorem append (ends : EndsIn part path) (noSlash : '/' ∉ more) : EndsIn (part ++ more) (path ++ more) := by
  refine ⟨fun h => (List.mem_append.mp h).elim ends.1 noSlash, ?_⟩
  rcases ends.2 with rfl | ⟨folder, rfl⟩
  · exact .inl rfl
  · exact .inr ⟨folder, by rw [List.append_assoc, List.cons_append]⟩

theorem subset (ends : EndsIn part path) : part ⊆ path := by
  rcases ends.2 with rfl | ⟨folder, rfl⟩
  · exact List.Subset.refl _
  · exact fun c hc => List.mem_append_right folder (List.mem_cons_of_mem _ hc)

theorem segments (ends : EndsIn part path) : ∃ folders, segments path = folders ++ [part] := by
  have single : Template.segments part = [part] := List.splitOn_eq_singleton ends.1
  rcases ends.2 with rfl | ⟨folder, rfl⟩
  · exact ⟨[], single⟩
  · exact ⟨Template.segments folder,
      (List.splitOn_append_cons_self folder part).trans (congrArg _ single)⟩

/-- The last part of a path is the name of its file, unless it is all dots. -/
theorem fileName? (ends : EndsIn part path) (named : ∃ c ∈ part, c ≠ '.') : fileName? path = some part := by
  obtain ⟨folders, split⟩ := ends.segments
  have nonempty : part ≠ [] := by rintro rfl; simp at named
  have notHere : part ≠ ['.'] := by rintro rfl; simp at named
  have notUp : part ≠ ['.', '.'] := by rintro rfl; simp at named
  have kept : [part].filter (fun part => part ≠ [] && part ≠ ['.']) = [part] := by
    simp [nonempty, notHere]
  rw [Template.fileName?, split, List.filter_append, kept, List.getLast?_concat]
  -- the two forms that name no file are excluded, and the part is left
  split
  · rename_i up
    exact absurd (Option.some.inj up) notUp
  · rename_i missing
    cases missing
  · rename_i found
    exact found.symm

end EndsIn

/-! ## Extensions -/

section
variable {path before after : List Char}

theorem takeWhile_reverse_append (dotless : '.' ∉ after) (rest : List Char) :
    (after.reverse ++ rest).takeWhile (· ≠ '.') = after.reverse ++ rest.takeWhile (· ≠ '.') :=
  List.takeWhile_append_of_pos fun c hc => decide_eq_true fun (dot : c = '.') =>
    dotless (dot ▸ List.mem_reverse.mp hc)

theorem extension?_of_dotless (named : fileName? path = some after) (dotless : '.' ∉ after) :
    extension? path = none := by
  have whole := takeWhile_reverse_append dotless []
  rw [List.append_nil, List.takeWhile_nil, List.append_nil] at whole
  rw [extension?, named, Option.bind_eq_bind, Option.bind_some, whole, List.reverse_reverse,
    if_neg (by omega)]

theorem extension?_of_dot (named : fileName? path = some (before ++ '.' :: after)) (visible : before ≠ [])
    (dotless : '.' ∉ after) : extension? path = some after := by
  have last : (before ++ '.' :: after).reverse.takeWhile (· ≠ '.') = after.reverse := by
    rw [List.reverse_append, List.reverse_cons, List.append_assoc, takeWhile_reverse_append dotless]
    simp
  have room : after.length + 1 < (before ++ '.' :: after).length := by
    have := List.length_pos_iff.mpr visible
    rw [List.length_append, List.length_cons]
    omega
  rw [extension?, named, Option.bind_eq_bind, Option.bind_some, last, List.reverse_reverse, if_pos room]

end

/-- The extension of shaders, as it stands at the end of a path. -/
def shaderSuffix : List Char := ".wgsl".toList

/-- A path that names a file in it which has no extension. -/
structure Plain (path : List Char) : Prop where
  nonempty : path ≠ []
  closed : path.getLast? ≠ some '/'
  dotless : '.' ∉ path

namespace Plain
variable {path : List Char}

theorem exists_endsIn (plain : Plain path) : ∃ part, EndsIn part path ∧ part ≠ [] := by
  obtain ⟨part, ends⟩ := Template.exists_endsIn path
  refine ⟨part, ends, ?_⟩
  rintro rfl
  rcases ends.2 with rfl | ⟨folder, rfl⟩
  · exact plain.nonempty rfl
  · exact plain.closed List.getLast?_concat

theorem extension? (plain : Plain path) : extension? path = none := by
  obtain ⟨part, ends, nonempty⟩ := plain.exists_endsIn
  have dotless : '.' ∉ part := fun dot => plain.dotless (ends.subset dot)
  obtain ⟨c, hc⟩ := List.exists_mem_of_ne_nil part nonempty
  have named : ∃ c ∈ part, c ≠ '.' := ⟨c, hc, fun dot => dotless (dot ▸ hc)⟩
  exact extension?_of_dotless (ends.fileName? named) dotless

theorem extension?_append (plain : Plain path) :
    Template.extension? (path ++ shaderSuffix) = some "wgsl".toList := by
  obtain ⟨part, ends, nonempty⟩ := plain.exists_endsIn
  have ends : EndsIn (part ++ shaderSuffix) (path ++ shaderSuffix) := ends.append (by decide)
  have named : ∃ c ∈ part ++ shaderSuffix, c ≠ '.' :=
    ⟨'w', List.mem_append_right part (by decide), by decide⟩
  exact extension?_of_dot (ends.fileName? named) nonempty (by decide)

end Plain

/-! ## Bare names -/

/-- A path without the extension of shaders at its end: one is taken off, and only in lower case. -/
def stem (path : List Char) : List Char :=
  if shaderSuffix <:+ path then path.take (path.length - shaderSuffix.length) else path

theorem stem_append (path : List Char) : stem (path ++ shaderSuffix) = path := by
  rw [stem, if_pos (List.suffix_append _ _), List.length_append, Nat.add_sub_cancel, List.take_left]

theorem stem_of_dotless {path : List Char} (dotless : '.' ∉ path) : stem path = path :=
  if_neg fun suffix => dotless (suffix.subset (by decide))

theorem stem_cases (path : List Char) : stem path = path ∨ path = stem path ++ shaderSuffix := by
  by_cases suffix : shaderSuffix <:+ path
  · obtain ⟨rest, rfl⟩ := suffix
    exact .inr (by rw [stem_append])
  · exact .inl (if_neg suffix)

theorem dot_mem_forwardSlashes {path : List Char} (dot : '.' ∈ path) : '.' ∈ forwardSlashes path :=
  List.mem_map.mpr ⟨'.', dot, by decide⟩

/-- What reads as a text without slashes is that text. -/
theorem forwardSlashes_of_notMem {path : List Char} (noSlash : '/' ∉ forwardSlashes path) :
    forwardSlashes path = path := by
  have same : ∀ c ∈ path, (if c = '\\' then '/' else c) = c := fun c hc =>
    if_neg fun back => noSlash (List.mem_map.mpr ⟨c, hc, if_pos back⟩)
  exact (List.map_congr_left same).trans (List.map_id' path)

theorem forwardSlashes_append_shaderSuffix (path : List Char) :
    forwardSlashes (path ++ shaderSuffix) = forwardSlashes path ++ shaderSuffix := by
  rw [forwardSlashes, List.map_append]
  rfl

theorem of_forwardSlashes_eq_append {path base : List Char} (h : forwardSlashes path = base ++ shaderSuffix) :
    ∃ rest, path = rest ++ shaderSuffix ∧ forwardSlashes rest = base := by
  obtain ⟨rest, suffix, rfl, hr, hs⟩ := List.map_eq_append_iff.mp h
  have same : forwardSlashes suffix = suffix :=
    forwardSlashes_of_notMem (by rw [forwardSlashes, hs]; decide)
  rw [forwardSlashes, hs] at same
  exact ⟨rest, by rw [same], hr⟩

theorem Plain.of_forwardSlashes {path : List Char} (plain : Plain (forwardSlashes path)) : Plain path where
  nonempty := by rintro rfl; exact plain.nonempty rfl
  closed last := plain.closed (by rw [forwardSlashes, List.getLast?_map, last]; rfl)
  dotless dot := plain.dotless (dot_mem_forwardSlashes dot)

theorem fileOf_of_extension {name : String} (found : extension? name.toList = some "wgsl".toList) :
    fileOf name = name.toList := by
  rw [fileOf, found]
  exact if_pos (by decide)

theorem fileOf_of_no_extension {name : String} (missing : extension? name.toList = none) :
    fileOf name = name.toList ++ shaderSuffix := by
  rw [fileOf, missing]
  rfl

theorem fileOf_cases (name : String) :
    fileOf name = name.toList ∨ fileOf name = name.toList ++ shaderSuffix := by
  rw [fileOf]
  split
  · split
    · exact .inl rfl
    · exact .inr rfl
  · exact .inr rfl

/-- A name stands for the file of a plain path exactly if its stem reads as that path. -/
theorem Plain.file_iff {base : List Char} (plain : Plain base) (name : String) :
    forwardSlashes (fileOf name) = base ++ shaderSuffix ↔ forwardSlashes (stem name.toList) = base := by
  constructor
  · intro h
    rcases fileOf_cases name with kept | appended
    · rw [kept] at h
      obtain ⟨rest, split, hr⟩ := of_forwardSlashes_eq_append h
      rw [split, stem_append, hr]
    · rw [appended, forwardSlashes_append_shaderSuffix] at h
      have h := List.append_cancel_right h
      -- a name that still ended in the extension would put a dot into the path
      have dotless : '.' ∉ name.toList := fun dot => plain.dotless (h ▸ dot_mem_forwardSlashes dot)
      rw [stem_of_dotless dotless, h]
  · intro h
    subst h
    have plain := plain.of_forwardSlashes
    rcases stem_cases name.toList with whole | split
    · rw [whole] at plain ⊢
      rw [fileOf_of_no_extension plain.extension?, forwardSlashes_append_shaderSuffix]
    · have found := plain.extension?_append
      rw [← split] at found
      rw [fileOf_of_extension found, ← forwardSlashes_append_shaderSuffix, ← split]

/-- A name of a template without its extension, with slashes for backslashes. -/
def bareName (name : String) : String := String.ofList (forwardSlashes (stem name.toList))

/-- The file that a name stands for, as the library lists it. -/
def fileNamed (name : String) : String := String.ofList (forwardSlashes (fileOf name))

theorem fileNamed_eq_iff {base : String} (plain : Plain base.toList) (name : String) :
    fileNamed name = base ++ ".wgsl" ↔ bareName name = base := by
  simp only [fileNamed, bareName, ← String.toList_inj, String.toList_append, String.toList_ofList]
  exact plain.file_iff name

theorem plain_resolveTemplate : Plain Shader.resolveTemplate.toList := ⟨by decide, by decide, by decide⟩

theorem plain_bufferTemplate : Plain Shader.bufferTemplate.toList := ⟨by decide, by decide, by decide⟩

/-- The library holds its two templates under their bare names, and nothing else. -/
theorem find?_eq (name : String) : find? name =
    if bareName name = Shader.resolveTemplate then some resolveSource
    else if bareName name = Shader.bufferTemplate then some bufferSource
    else none := by
  simp only [← fileNamed_eq_iff plain_resolveTemplate, ← fileNamed_eq_iff plain_bufferTemplate]
  have listed : files = [(Shader.resolveTemplate ++ ".wgsl", resolveSource),
      (Shader.bufferTemplate ++ ".wgsl", bufferSource)] := rfl
  rw [find?, listed, ← fileNamed]
  simp only [List.lookup_cons, List.lookup_nil]
  by_cases resolve : fileNamed name = Shader.resolveTemplate ++ ".wgsl"
  · rw [if_pos resolve, beq_iff_eq.mpr resolve]
  · rw [if_neg resolve, beq_false_of_ne resolve]
    by_cases buffer : fileNamed name = Shader.bufferTemplate ++ ".wgsl"
    · rw [if_pos buffer, beq_iff_eq.mpr buffer]
    · rw [if_neg buffer, beq_false_of_ne buffer]

/-! ## What templates say under their names -/

/-- The outcome of rendering, with only the kind of what is wrong. -/
def outcome : Except Failure String → Except String String
  | .ok text => .ok text
  | .error failure => .error failure.name

theorem outcome_eq_iff {a b : Except Failure String} : outcome a = outcome b ↔
    (∃ text, a = .ok text ∧ b = .ok text) ∨ ∃ f g, a = .error f ∧ b = .error g ∧ f.name = g.name := by
  cases a <;> cases b <;> simp [outcome, eq_comm]

variable {scope : String → Option Json.Value} {parts parts' : String → Nat → Except Failure String}
  {template other : String}

mutual

/-- The name of a template only shows in the place of a failure. -/
theorem Piece.outcome_render (same : ∀ name line, outcome (parts name line) = outcome (parts' name line)) :
    (p : Piece) → outcome (p.render scope parts template) = outcome (p.render scope parts' other)
  | .text _ => rfl
  | .print name line => by
      rw [Piece.render, Piece.render, lookup, lookup]
      cases scope name <;> rfl
  | .choose name line yes no => by
      rw [Piece.render, Piece.render, lookup, lookup]
      cases scope name with
      | none => rfl
      | some value =>
          dsimp only
          split
          · exact outcome_renderAll same yes
          · exact outcome_renderAll same no
  | .part name line => same name line

theorem outcome_renderAll (same : ∀ name line, outcome (parts name line) = outcome (parts' name line)) :
    (ps : List Piece) → outcome (renderAll scope parts template ps) = outcome (renderAll scope parts' other ps)
  | [] => rfl
  | p :: rest => by
      rw [renderAll, renderAll]
      rcases outcome_eq_iff.mp (p.outcome_render same) with ⟨first, h, h'⟩ | ⟨f, g, h, h', kind⟩
      · rw [h, h']
        rcases outcome_eq_iff.mp (outcome_renderAll same rest) with ⟨second, hr, hr'⟩ | ⟨f, g, hr, hr', kind⟩
        · rw [hr, hr']
        · rw [hr, hr']
          exact outcome_eq_iff.mpr (.inr ⟨f, g, rfl, rfl, kind⟩)
      · rw [h, h']
        exact outcome_eq_iff.mpr (.inr ⟨f, g, rfl, rfl, kind⟩)

end

theorem outcome_renderPart (inner : Option (String → Source → Except Failure String)) (name : String) (line : Nat) :
    outcome (renderPart inner template name line) = outcome (renderPart inner other name line) := by
  unfold renderPart
  dsimp only
  split
  · rfl
  · rfl
  · split <;> rfl

/-- By what name a template is rendered only shows in the place of a failure. -/
theorem outcome_renderSource (depth : Nat) (source : Source) :
    outcome (renderSource scope depth template source) = outcome (renderSource scope depth other source) := by
  cases depth <;> exact outcome_renderAll (outcome_renderPart _) source.pieces

/-- The template was found, but something in it has no text. -/
def Failure.IsInside (failure : Failure) : Prop := failure.name = "UndefinedError" ∨ failure.name = "BadInclude"

theorem isInside_of_lookup {name : String} {line : Nat} {failure : Failure}
    (failed : lookup scope template name line = .error failure) : failure.IsInside := by
  rw [lookup] at failed
  split at failed
  · cases failed
  · cases failed
    exact .inl rfl

mutual

theorem Piece.isInside_of_render {failure : Failure} : (p : Piece) → p.takesPart = false →
    p.render scope parts template = .error failure → failure.IsInside
  | .text _, _, failed => nomatch failed
  | .print name line, _, failed => by
      rw [Piece.render] at failed
      cases known : lookup scope template name line with
      | ok value => rw [known] at failed; cases failed
      | error f => rw [known] at failed; cases failed; exact isInside_of_lookup known
  | .choose name line yes no, whole, failed => by
      obtain ⟨wholeYes, wholeNo⟩ := Bool.or_eq_false_iff.mp whole
      rw [Piece.render] at failed
      cases known : lookup scope template name line with
      | error f => rw [known] at failed; cases failed; exact isInside_of_lookup known
      | ok value =>
          rw [known] at failed
          dsimp only at failed
          split at failed
          · exact isInside_of_renderAll yes wholeYes failed
          · exact isInside_of_renderAll no wholeNo failed
  | .part _ _, whole, _ => nomatch whole

theorem isInside_of_renderAll {failure : Failure} : (ps : List Piece) → takesParts ps = false →
    renderAll scope parts template ps = .error failure → failure.IsInside
  | [], _, failed => nomatch failed
  | p :: rest, whole, failed => by
      obtain ⟨wholeFirst, wholeRest⟩ := Bool.or_eq_false_iff.mp whole
      rw [renderAll] at failed
      split at failed
      · rename_i first
        cases failed
        exact p.isInside_of_render wholeFirst first
      · split at failed
        · rename_i later
          cases failed
          exact isInside_of_renderAll rest wholeRest later
        · cases failed

end

/-! ## All names -/

/-- The bare name is that of one of the two templates. -/
def IsTemplate (name : String) : Prop := bareName name = "oit_resolve" ∨ bareName name = "chunks/oit_buffers"

instance (name : String) : Decidable (IsTemplate name) := inferInstanceAs (Decidable (_ ∨ _))

theorem find?_of_isTemplate {name : String} (known : IsTemplate name) :
    find? name = some resolveSource ∨ find? name = some bufferSource := by
  rw [find?_eq]
  rcases known with resolve | buffer
  · exact .inl (if_pos resolve)
  · split
    · exact .inl rfl
    · exact .inr (if_pos buffer)

theorem find?_of_not_isTemplate {name : String} (unknown : ¬IsTemplate name) : find? name = none := by
  obtain ⟨notResolve, notBuffer⟩ := not_or.mp unknown
  rw [find?_eq]
  exact (if_neg notResolve).trans (if_neg notBuffer)

/-- A template that is found only fails for what is inside it. -/
theorem isInside_of_render {name : String} (known : IsTemplate name) {failure : Failure}
    (failed : render name scope = .error failure) : failure.IsInside := by
  rcases find?_of_isTemplate known with found | found
  · rw [render_of_found_resolve found] at failed
    split at failed
    · cases failed
    · cases failed
      exact .inr rfl
  · rw [render_of_found_buffer found (renderPart none name)] at failed
    exact isInside_of_renderAll bufferPieces takesParts_bufferPieces failed

/-- Whatever the variables, a template is found exactly if the name without its extension is one of two, and any other
name is reported as unknown; names of one file yield one text, or failures of one kind. -/
theorem found_iff_isTemplate (name : String) :
    ((find? name).isSome ↔ IsTemplate name) ∧
    ∀ scope : String → Option Json.Value,
      ((∃ failure, render name scope = .error failure ∧ failure.name = "TemplateNotFound") ↔ ¬IsTemplate name) ∧
      ∀ other, fileNamed other = fileNamed name → outcome (render other scope) = outcome (render name scope) := by
  by_cases known : IsTemplate name
  · obtain ⟨source, found⟩ : ∃ source, find? name = some source :=
      (find?_of_isTemplate known).elim (fun found => ⟨_, found⟩) fun found => ⟨_, found⟩
    refine ⟨by simp [found, known], fun scope => ⟨?_, fun other same => ?_⟩⟩
    · refine iff_of_false ?_ (not_not_intro known)
      rintro ⟨failure, failed, kind⟩
      rcases isInside_of_render known failed with inside | inside
      · exact absurd (kind.symm.trans inside) (by decide)
      · exact absurd (kind.symm.trans inside) (by decide)
    · have found' : find? other = some source := by rw [← found, find?, find?, ← fileNamed, ← fileNamed, same]
      rw [render_of_found found, render_of_found found']
      exact outcome_renderSource maxDepth source
  · have missing := find?_of_not_isTemplate known
    refine ⟨by simp [missing, known], fun scope => ⟨?_, fun other same => ?_⟩⟩
    · refine iff_of_true ⟨.unknown name, ?_, rfl⟩ known
      rw [render_of_missing missing]
    · have missing' : find? other = none := by rw [← missing, find?, find?, ← fileNamed, ← fileNamed, same]
      rw [render_of_missing missing, render_of_missing missing']
      rfl

theorem found_with_backslash :
    IsTemplate "chunks\\oit_buffers" ∧ (find? "chunks\\oit_buffers").isSome ∧
    fileNamed "chunks/oit_buffers.wgsl" = fileNamed "chunks\\oit_buffers" ∧
    (∀ scope, outcome (render "chunks/oit_buffers.wgsl" scope) = outcome (render "chunks\\oit_buffers" scope)) ∧
    ∀ name ∈ ["oit_resolve.WGSL", "oit_resolve.wgsl.wgsl", "oit_resolve/", ".wgsl"],
      ¬IsTemplate name ∧ (find? name).isSome = false := by
  have known : IsTemplate "chunks\\oit_buffers" := by decide
  have same : fileNamed "chunks/oit_buffers.wgsl" = fileNamed "chunks\\oit_buffers" := by decide
  have found := found_iff_isTemplate "chunks\\oit_buffers"
  refine ⟨known, found.1.mpr known, same, fun scope => (found.2 scope).2 _ same, fun name listed => ?_⟩
  have unknown : ¬IsTemplate name := by
    revert name
    decide
  exact ⟨unknown, Bool.eq_false_iff.mpr fun found => unknown ((found_iff_isTemplate name).1.mp found)⟩

end Transparency.Template

import Transparency.Proofs.Device.Limited

/-!
# Pipelines

A draw is refused for the first target or buffer that the device does not know, and then nothing changes.
The pipelines of a device are the kinds of the draws that succeeded, and each was announced when it was built.
-/

namespace Transparency.Device
open Buffer (Role Kind Field UsageHint Handle Source)

/-! ## Kinds of draws -/

theorem PipelineKey.ofDraw_eq_iff (a b : Draw) : PipelineKey.ofDraw a = PipelineKey.ofDraw b ↔
    a.shader.hash = b.shader.hash ∧
    (a.targets.filter (!·.isDepth)).map (·.format) = (b.targets.filter (!·.isDepth)).map (·.format) ∧
    a.state = b.state ∧
    a.buffers.map (fun s => (s.binding, s.access)) = b.buffers.map (fun s => (s.binding, s.access)) := by
  simp only [PipelineKey.ofDraw, PipelineKey.mk.injEq]

/-- The draws that are the first of their kind. -/
def firstOfKind : List Draw → List Draw
  | [] => []
  | c :: rest => c :: (firstOfKind rest).filter fun later => PipelineKey.ofDraw later ≠ PipelineKey.ofDraw c

section
variable {draws : List Draw}

theorem mem_kinds {key : PipelineKey} :
    key ∈ (firstOfKind draws).map .ofDraw ↔ ∃ c ∈ draws, PipelineKey.ofDraw c = key := by
  induction draws with
  | nil => simp [firstOfKind]
  | cons c rest ih =>
      by_cases same : PipelineKey.ofDraw c = key
      · simp [firstOfKind, same]
      · -- a key other than that of the first draw is not filtered out
        have kept : key ∈ ((firstOfKind rest).filter fun later =>
            PipelineKey.ofDraw later ≠ PipelineKey.ofDraw c).map .ofDraw ↔
            key ∈ (firstOfKind rest).map .ofDraw := by
          simp only [List.mem_map, List.mem_filter]
          constructor
          · rintro ⟨a, ⟨ha, -⟩, hk⟩
            exact ⟨a, ha, hk⟩
          · rintro ⟨a, ha, rfl⟩
            exact ⟨a, ⟨ha, by simpa using Ne.symm same⟩, rfl⟩
        rw [firstOfKind, List.map_cons, List.mem_cons, kept, ih]
        simp [same, Ne.symm same]

theorem nodup_kinds : ((firstOfKind draws).map PipelineKey.ofDraw).Nodup := by
  induction draws with
  | nil => simp [firstOfKind]
  | cons c rest ih =>
      rw [firstOfKind, List.map_cons, List.nodup_cons]
      refine ⟨fun again => ?_, (List.filter_sublist.map _).nodup ih⟩
      obtain ⟨a, ha, same⟩ := List.mem_map.mp again
      simp [same] at ha

/-- One more draw is a first one if no draw before it was of its kind. -/
theorem firstOfKind_concat (draws : List Draw) (c : Draw) : firstOfKind (draws ++ [c]) =
    if ∃ a ∈ draws, PipelineKey.ofDraw a = PipelineKey.ofDraw c then firstOfKind draws
    else firstOfKind draws ++ [c] := by
  induction draws with
  | nil => simp [firstOfKind]
  | cons a rest ih =>
      rw [List.cons_append, firstOfKind, ih]
      by_cases before : ∃ a ∈ rest, PipelineKey.ofDraw a = PipelineKey.ofDraw c
      · simp [before, firstOfKind]
      · rw [if_neg before]
        by_cases same : PipelineKey.ofDraw a = PipelineKey.ofDraw c
        · simp [same, firstOfKind]
        · simp [same, Ne.symm same, before, firstOfKind]

end

/-! ## One draw -/

/-- Why a draw is refused: for its first color target that is not registered, or else for its first buffer
that is not there. -/
def refusal? (registered : List TargetId) (live : List Nat) (c : Draw) : Option Error :=
  match c.targets.find? fun t => !t.isDepth && t.id ∉ registered with
  | some t => some (.unknownTarget t.id)
  | none => (c.buffers.find? fun b => b.buffer.id ∉ live).map fun b => .unknownBuffer b.buffer.role

namespace Limited
variable {d : Limited} {live : List Nat} {c : Draw}

/-- What a draw comes to, when `live` has the numbers of the buffers. -/
theorem draw_eq (known : ∀ h, (Registry.capacity? d h).isSome ↔ h.id ∈ live) (c : Draw) :
    d.draw c = match refusal? d.targets live c with
      | some e => .fail e d
      | none =>
        if PipelineKey.ofDraw c ∈ d.pipelines then .done d
        else .done { d with pipelines := d.pipelines ++ [.ofDraw c] } [pipelineLine c.label] := by
  have target : d.firstUnregistered? (c.targets.filter fun t => !t.isDepth) =
      (c.targets.find? fun t => !t.isDepth && t.id ∉ d.targets).map (·.id) := by
    simp [firstUnregistered?, List.find?_filter]
  have buffer : d.firstUnknown? (c.buffers.map (·.buffer)) =
      (c.buffers.find? fun b => b.buffer.id ∉ live).map (·.buffer) := by
    rw [firstUnknown?, List.find?_map]
    congr 2
    funext b
    have := known b.buffer
    rw [capacity?_eq, Option.isSome_map] at this
    cases hb : d.buffer? b.buffer <;> simp_all
  rw [draw, refusal?, target, buffer]
  cases c.targets.find? fun t => !t.isDepth && t.id ∉ d.targets with
  | some t => rfl
  | none =>
      cases c.buffers.find? fun b => b.buffer.id ∉ live with
      | some b => rfl
      | none => rfl

theorem draw_result (known : ∀ h, (Registry.capacity? d h).isSome ↔ h.id ∈ live) (c : Draw) :
    (d.draw c).result = match refusal? d.targets live c with
      | some e => .error e
      | none => .ok () := by
  rw [d.draw_eq known c]
  cases refusal? d.targets live c with
  | some e => rfl
  | none => dsimp only; split <;> rfl

theorem draw_of_error (known : ∀ h, (Registry.capacity? d h).isSome ↔ h.id ∈ live) {e : Error}
    (failed : (d.draw c).result = .error e) : d.draw c = .fail e d := by
  have comes := d.draw_eq known c
  rw [d.draw_result known c] at failed
  cases hr : refusal? d.targets live c with
  | some e' => rw [hr] at failed comes; cases failed; exact comes
  | none => rw [hr] at failed; cases failed

theorem draw_log_of_ok (known : ∀ h, (Registry.capacity? d h).isSome ↔ h.id ∈ live)
    (done : (d.draw c).result = .ok ()) :
    (d.draw c).log = if PipelineKey.ofDraw c ∈ d.pipelines then [] else [pipelineLine c.label] := by
  have comes := d.draw_eq known c
  rw [d.draw_result known c] at done
  cases hr : refusal? d.targets live c with
  | some e => rw [hr] at done; cases done
  | none =>
      rw [hr] at comes
      rw [comes]
      dsimp only
      split <;> rfl

end Limited

/-- Whether a line announces a pipeline. -/
def announces (line : LogLine) : Bool :=
  "Compiling full-screen pipeline ".toList.isPrefixOf line.text.toList

theorem announces_pipelineLine (label : String) : announces (Limited.pipelineLine label) := by
  simp [announces, Limited.pipelineLine]

theorem not_announces_growthLine (b : LimitedBuffer) (n : Nat) : ¬announces (Limited.growthLine b n) := by
  simp [announces, Limited.growthLine]

/-! ## A device at work -/

/-- What is asked of a device. -/
inductive Errand
  | register (label : Int)
  | unregister (id : TargetId)
  /-- Asks for a handle that no buffer stands behind. -/
  | issue (role : Role) (fields : List Field) (kind : Kind)
  | allocate (role : Role) (fields : List Field) (kind : Kind) (hint : UsageHint)
  | resize (h : Handle) (elements : Nat)
  | upload (h : Handle) (source : Source)
  | destroy (h : Handle)
  | fill (h : Handle) (value : Int32)
  | draw (c : Draw)

/-- A device, and what its caller takes down. -/
structure Journal where
  device : Limited
  log : List LogLine := []
  /-- The targets that were registered and not taken back. -/
  registered : List TargetId := []
  /-- The numbers of the buffers that were made and not given back. -/
  live : List Nat := []
  /-- The draws that succeeded, first one first. -/
  drawn : List Draw := []

namespace Journal

/-- The journal after a reply. -/
def heard {α : Type} (j : Journal) (reply : Reply Limited α) : Journal :=
  { j with device := reply.device, log := j.log ++ reply.log }

/-- Asks the device for something. -/
def carryOut (j : Journal) : Errand → Journal
  | .register label =>
    let (id, device) := j.device.register label
    { j with device, registered := id :: j.registered }
  | .unregister id =>
    { j with device := j.device.unregister id, registered := j.registered.filter (· ≠ id) }
  | .issue role fields kind => { j with device := (j.device.issue role fields kind).2 }
  | .allocate role fields kind hint =>
    let reply := Registry.allocate j.device role fields kind hint
    { j.heard reply with
      live := match reply.result with | .ok h => h.id :: j.live | .error _ => j.live }
  | .resize h n => j.heard (Registry.resize j.device h n)
  | .upload h source => j.heard (Registry.upload j.device h source)
  | .destroy h => { j with device := Registry.destroy j.device h, live := j.live.filter (· ≠ h.id) }
  | .fill h value => j.heard (CommandSink.fill j.device h value)
  | .draw c =>
    let reply := CommandSink.draw j.device c
    { j.heard reply with
      drawn := match reply.result with | .ok () => j.drawn ++ [c] | .error _ => j.drawn }

/-- Asks for one thing after another. -/
def run (j : Journal) (errands : List Errand) : Journal := errands.foldl carryOut j

/-- The device knows what the journal says, and has built and announced one pipeline for each kind of draw. -/
structure Kept (j : Journal) : Prop where
  targets : j.device.targets = j.registered
  buffers : ∀ h, (Registry.capacity? j.device h).isSome ↔ h.id ∈ j.live
  pipelines : j.device.pipelines = (firstOfKind j.drawn).map .ofDraw
  lines : j.log.filter announces = (firstOfKind j.drawn).map (Limited.pipelineLine ·.label)

namespace Kept
variable {j : Journal}

/-- Replies about buffers announce no pipeline. -/
theorem heard {α : Type} {reply : Reply Limited α} (kept : j.Kept)
    (targets : reply.device.targets = j.device.targets)
    (buffers : ∀ h, (Registry.capacity? reply.device h).isSome = (Registry.capacity? j.device h).isSome)
    (pipelines : reply.device.pipelines = j.device.pipelines)
    (lines : reply.log.filter announces = []) : (j.heard reply).Kept where
  targets := targets.trans kept.targets
  buffers h := by
    rw [Journal.heard, buffers h]
    exact kept.buffers h
  pipelines := pipelines.trans kept.pipelines
  lines := by rw [Journal.heard, List.filter_append, lines, List.append_nil, kept.lines]

theorem allocate (kept : j.Kept) (role : Role) (fields : List Field) (kind : Kind) (hint : UsageHint) :
    (j.carryOut (.allocate role fields kind hint)).Kept := by
  simp only [carryOut, Registry.allocate]
  rcases j.device.allocate_cases role fields kind with ⟨e, -, he⟩ | ⟨size, -, -, he⟩
  · rw [he]
    exact kept.heard rfl (fun _ => rfl) rfl rfl
  · rw [he]
    refine ⟨kept.targets, fun h => ?_, kept.pipelines, by simp [Journal.heard, kept.lines]⟩
    simp only [Journal.heard, Limited.capacity?_put, List.mem_cons]
    by_cases same : h.id = (j.device.issue role fields kind).1.id
    · simp [same]
    · simp only [same, ↓reduceIte, false_or]
      exact kept.buffers h

theorem resize (kept : j.Kept) (h : Handle) (n : Nat) : (j.carryOut (.resize h n)).Kept := by
  simp only [carryOut, Registry.resize]
  unfold Limited.resize
  cases known : j.device.buffer? h with
  | none => exact kept.heard rfl (fun _ => rfl) rfl rfl
  | some b =>
      dsimp only
      split
      · exact kept.heard rfl (fun _ => rfl) rfl rfl
      · split
        · exact kept.heard rfl (fun _ => rfl) rfl rfl
        · refine kept.heard rfl (fun h' => ?_) rfl (by simp [Reply.done, not_announces_growthLine])
          -- the buffer was there before it grew
          simp only [Limited.capacity?_eq, Option.isSome_map, Limited.buffer?, Reply.done,
            Table.get?_insert] at known ⊢
          split
          · rename_i same
            rw [same, known]
            rfl
          · rfl

theorem mem_pipelines (kept : j.Kept) (key : PipelineKey) :
    key ∈ j.device.pipelines ↔ ∃ c ∈ j.drawn, PipelineKey.ofDraw c = key := by
  rw [kept.pipelines, mem_kinds]

theorem draw (kept : j.Kept) (c : Draw) : (j.carryOut (.draw c)).Kept := by
  have comes := j.device.draw_eq kept.buffers c
  cases hr : refusal? j.device.targets j.live c with
  | some e =>
      rw [hr] at comes
      have same : j.carryOut (.draw c) = j := by
        simp [Journal.carryOut, Journal.heard, CommandSink.draw, comes, Reply.fail]
      exact same.symm ▸ kept
  | none =>
      rw [hr] at comes
      have seen := kept.mem_pipelines (PipelineKey.ofDraw c)
      by_cases built : PipelineKey.ofDraw c ∈ j.device.pipelines
      · have after : j.carryOut (.draw c) = { j with drawn := j.drawn ++ [c] } := by
          simp [Journal.carryOut, Journal.heard, CommandSink.draw, comes, built, Reply.done]
        have same := (firstOfKind_concat j.drawn c).trans (if_pos (seen.mp built))
        rw [after]
        exact ⟨kept.targets, kept.buffers, same.symm ▸ kept.pipelines, same.symm ▸ kept.lines⟩
      · have after : j.carryOut (.draw c) = { j with
            device := { j.device with pipelines := j.device.pipelines ++ [.ofDraw c] }
            log := j.log ++ [Limited.pipelineLine c.label]
            drawn := j.drawn ++ [c] } := by
          simp [Journal.carryOut, Journal.heard, CommandSink.draw, comes, built, Reply.done]
        have more := (firstOfKind_concat j.drawn c).trans (if_neg fun h => built (seen.mpr h))
        rw [after]
        refine ⟨kept.targets, kept.buffers, ?_, ?_⟩
        · simp [more, kept.pipelines]
        · simp [more, kept.lines, announces_pipelineLine]

theorem carryOut (kept : j.Kept) (errand : Errand) : (j.carryOut errand).Kept := by
  cases errand with
  | register label => exact ⟨congrArg _ kept.targets, kept.buffers, kept.pipelines, kept.lines⟩
  | unregister id => exact ⟨congrArg _ kept.targets, kept.buffers, kept.pipelines, kept.lines⟩
  | issue role fields kind => exact ⟨kept.targets, kept.buffers, kept.pipelines, kept.lines⟩
  | allocate role fields kind hint => exact kept.allocate role fields kind hint
  | resize h n => exact kept.resize h n
  | upload h source =>
      have same := j.device.upload_device h source
      refine kept.heard (congrArg _ same) (fun h' => ?_) (congrArg _ same) ?_
      · rw [LawfulRegistry.capacity?_upload]
      · simp only [Registry.upload, Limited.upload]
        split <;> rfl
  | destroy h =>
      refine ⟨kept.targets, fun h' => ?_, kept.pipelines, kept.lines⟩
      simp only [Journal.carryOut, LawfulRegistry.capacity?_destroy, List.mem_filter]
      by_cases same : h'.id = h.id
      · simp [same]
      · simpa [same] using kept.buffers h'
  | fill h value =>
      have same := j.device.fill_device h value
      refine kept.heard (congrArg _ same) (fun h' => ?_) (congrArg _ same) ?_
      · rw [LawfulDevice.capacity?_fill]
      · simp only [CommandSink.fill, Limited.fill]
        split <;> rfl
  | draw c => exact kept.draw c

theorem run (kept : j.Kept) (errands : List Errand) : (j.run errands).Kept := by
  induction errands generalizing j with
  | nil => exact kept
  | cons errand rest ih => exact ih (kept.carryOut errand)

end Kept

/-- Whatever a device was asked before: a draw is refused for its first color target that is not registered, or
else for its first buffer that is not there, and then nothing changes and nothing is logged. The device has one
pipeline for each kind of draw that succeeded, in the order in which the kinds came, and one line was logged for
each, with the label of the first draw of the kind. A kind is a shader, the formats of the colors, a state and how
the buffers are bound. -/
theorem pipelines_of_draws (limits : Limits) (stageBuffers : Nat) (errands : List Errand) :
    let j := Journal.run { device := Limited.ofLimits limits stageBuffers } errands
    (∀ c, (CommandSink.draw j.device c).result =
      match refusal? j.registered j.live c with
      | some e => .error e
      | none => .ok ()) ∧
    (∀ c e, (CommandSink.draw j.device c).result = .error e →
      (CommandSink.draw j.device c).device = j.device ∧ (CommandSink.draw j.device c).log = []) ∧
    j.device.pipelines = (firstOfKind j.drawn).map .ofDraw ∧
    j.device.pipelines.Nodup ∧
    (∀ key, key ∈ j.device.pipelines ↔ ∃ c ∈ j.drawn, PipelineKey.ofDraw c = key) ∧
    j.log.filter announces = (firstOfKind j.drawn).map (Limited.pipelineLine ·.label) ∧
    (∀ c, (CommandSink.draw j.device c).result = .ok () → (CommandSink.draw j.device c).log =
      if ∃ a ∈ j.drawn, PipelineKey.ofDraw a = PipelineKey.ofDraw c then []
      else [Limited.pipelineLine c.label]) ∧
    ∀ a b, PipelineKey.ofDraw a = PipelineKey.ofDraw b ↔
      a.shader.hash = b.shader.hash ∧
      (a.targets.filter (!·.isDepth)).map (·.format) = (b.targets.filter (!·.isDepth)).map (·.format) ∧
      a.state = b.state ∧
      a.buffers.map (fun s => (s.binding, s.access)) = b.buffers.map (fun s => (s.binding, s.access)) := by
  intro j
  have start : Kept { device := Limited.ofLimits limits stageBuffers } :=
    ⟨rfl, fun h => by simp [Limited.capacity?_eq, Limited.buffer?, Limited.ofLimits], rfl, rfl⟩
  have kept : j.Kept := start.run errands
  refine ⟨fun c => ?_, fun c e failed => ?_, kept.pipelines, kept.pipelines ▸ nodup_kinds, kept.mem_pipelines,
    kept.lines, fun c done => ?_, PipelineKey.ofDraw_eq_iff⟩
  · rw [← kept.targets]
    exact Limited.draw_result kept.buffers c
  · simp only [CommandSink.draw] at failed ⊢
    rw [Limited.draw_of_error kept.buffers failed]
    exact ⟨rfl, rfl⟩
  · simp only [← kept.mem_pipelines]
    exact Limited.draw_log_of_ok kept.buffers done

/-- A draw to nothing. -/
def blankDraw (label : String) (state : PassState) (targets : List Target) : Draw :=
  ⟨label, ⟨"blank", ""⟩, state, [], targets⟩

/-- Depth is not drawn to, so that it may be unknown and makes no other kind of draw; a state does. -/
example :
    let depth : Target := { name := "z", id := ⟨1, 0⟩, width := 4, height := 2, format := ⟨"Depth32Float"⟩ }
    let draws := [blankDraw "first" {} [], blankDraw "again" {} [depth], blankDraw "other" .resolve []]
    let j := Journal.run { device := Limited.ofLimits {} 8 } (draws.map .draw)
    (j.drawn.length, j.log) = (3, [Limited.pipelineLine "first", Limited.pipelineLine "other"]) := by
  decide +kernel

end Journal

end Transparency.Device

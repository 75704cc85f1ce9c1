import Mathlib.Data.List.Forall2
import Mathlib.Logic.Equiv.Basic
import Transparency.Proofs.Device.Requests

/-!
# The device with limits refines the one that records

A caller knows buffers by names. Whatever it asks of the device with limits: without the calls that were
refused, the recording device answers the same, up to the numbers of handles, and has the same buffers with the
same room.
-/

namespace Transparency.Buffer

/-- The handle with another number. -/
def Handle.rename (f : Nat → Nat) (h : Handle) : Handle := { h with id := f h.id }

@[simp] theorem Handle.id_rename (f : Nat → Nat) (h : Handle) : (h.rename f).id = f h.id := rfl

end Transparency.Buffer

namespace Transparency.Device
open Buffer (Role Kind Field UsageHint Handle Source)

/-! ## Callers -/

/-- What a caller holds: handles by name. -/
abbrev Holding := Nat → Option Handle

/-- The slot with the handle behind its name. -/
def Slot.resolve (held : Holding) (s : Slot Nat) : Option (Slot Handle) :=
  (held s.buffer).map fun h => s.map fun _ => h

namespace Request
variable {β : Type}

/-- The request with the handles behind its names, if all of them are held. -/
def resolve (held : Holding) : Request Nat → Option (Request Handle)
  | allocate name role fields kind hint => some (.allocate name role fields kind hint)
  | issue name role fields kind => some (.issue name role fields kind)
  | resize b n => (held b).map (.resize · n)
  | upload b source => (held b).map (.upload · source)
  | destroy b => (held b).map .destroy
  | capacity b => (held b).map .capacity
  | fill b value => (held b).map (.fill · value)
  | draw label shader state slots targets =>
    (slots.mapM (Slot.resolve held)).map (.draw label shader state · targets)

/-- What is held after the request: its name, if it has one, stands for the new handle or for none. -/
def keep (held : Holding) (answer : Answer) (r : Request β) : Holding :=
  match r.name? with
  | some name => fun x => if x = name then answer.handle? else held x
  | none => held

end Request

/-- A device and what its caller holds. -/
structure Client (σ : Type) where
  device : σ
  held : Holding := fun _ => none

/-- A request that was handled. There is no answer if the caller did not hold what it needed. -/
structure Step (σ : Type) where
  request : Request Nat
  before : Client σ
  answer : Option Answer
  after : Client σ

/-- The device did what it was asked or did not know a buffer. -/
def Step.kept {σ : Type} (s : Step σ) : Bool :=
  match s.answer with
  | some answer => !answer.refused
  | none => false

namespace Client
variable {σ : Type} [Registry σ] [CommandSink σ] [Issuer σ]

/-- Handles a request. -/
def step (c : Client σ) (r : Request Nat) : Step σ :=
  match r.resolve c.held with
  | some q => { request := r, before := c, answer := some (q.perform c.device).1, after := {
      device := (q.perform c.device).2, held := r.keep c.held (q.perform c.device).1 } }
  | none => { request := r, before := c, answer := none, after := c }

/-- Handles requests one after another. -/
def run (c : Client σ) : List (Request Nat) → List (Step σ)
  | [] => []
  | r :: rest => c.step r :: (c.step r).after.run rest

@[simp] theorem request_step (c : Client σ) (r : Request Nat) : (c.step r).request = r := by
  unfold step
  split <;> rfl

@[simp] theorem before_step (c : Client σ) (r : Request Nat) : (c.step r).before = c := by
  unfold step
  split <;> rfl

end Client

/-! ## Other numbers -/

/-- The answer with other numbers of handles. -/
def Answer.rename (f : Nat → Nat) : Answer → Answer
  | made h => .made (h.rename f)
  | answer => answer

theorem Answer.handle?_rename (f : Nat → Nat) (a : Answer) :
    (a.rename f).handle? = a.handle?.map (Handle.rename f) := by
  cases a <;> rfl

namespace Request
variable {rooms rooms' : Rooms} {id : Nat} {ρ : Equiv.Perm Nat}

theorem answerFor_rename (same : ∀ x : Handle, rooms' (x.rename ρ) = rooms x) (h : Handle) :
    answerFor rooms' (h.rename ρ) = (answerFor rooms h).rename ρ := by
  simp only [answerFor, same]
  split <;> rfl

theorem answerForAll_rename (same : ∀ x : Handle, rooms' (x.rename ρ) = rooms x)
    (slots : List (Slot Handle)) :
    answerForAll rooms' ((slots.map (·.map (Handle.rename ρ))).map Slot.bound) =
      (answerForAll rooms (slots.map Slot.bound)).rename ρ := by
  simp only [answerForAll, List.map_map, List.find?_map, Function.comp_def, Slot.bound, Slot.map, same]
  cases slots.find? fun s => (rooms s.buffer).isNone <;> rfl

/-- A request means the same for buffers with other numbers. -/
theorem answer_rename (same : ∀ x : Handle, rooms' (x.rename ρ) = rooms x) (r : Request Handle) :
    (r.map (Handle.rename ρ)).answer rooms' (ρ id) = (r.answer rooms id).rename ρ := by
  cases r with
  | allocate name role fields kind hint => rfl
  | issue name role fields kind => rfl
  | resize h n => exact answerFor_rename same h
  | upload h source => exact answerFor_rename same h
  | destroy h => rfl
  | capacity h => exact congrArg Answer.room (same h)
  | fill h value => exact answerFor_rename same h
  | draw label shader state slots targets => exact answerForAll_rename same slots

theorem after_rename (same : ∀ x : Handle, rooms' (x.rename ρ) = rooms x) (r : Request Handle)
    (x : Handle) :
    (r.map (Handle.rename ρ)).after rooms' (ρ id) (x.rename ρ) = r.after rooms id x := by
  cases r with
  | allocate name role fields kind hint => simp [map, after, same]
  | resize h n => simp [map, after, same]
  | destroy h => simp [map, after, same]
  | _ => exact same x

variable {held held' : Holding} {f : Handle → Handle}

theorem resolve_slots (holds : ∀ name x, held name = some x → held' name = some (f x))
    {slots : List (Slot Nat)} {bound : List (Slot Handle)}
    (resolved : slots.mapM (Slot.resolve held) = some bound) :
    slots.mapM (Slot.resolve held') = some (bound.map (·.map f)) := by
  induction slots generalizing bound with
  | nil => cases resolved; rfl
  | cons s rest ih =>
      simp only [List.mapM_cons, Option.bind_eq_bind, Option.bind_eq_some_iff] at resolved ⊢
      obtain ⟨t, ht, ts, hts, made⟩ := resolved
      cases made
      obtain ⟨h, hs, rfl⟩ := Option.map_eq_some_iff.mp ht
      exact ⟨_, Option.map_eq_some_iff.mpr ⟨f h, holds _ h hs, rfl⟩, _, ih hts, rfl⟩

theorem resolve_rename (holds : ∀ name x, held name = some x → held' name = some (f x)) {r : Request Nat}
    {q : Request Handle} (resolved : r.resolve held = some q) : r.resolve held' = some (q.map f) := by
  have one {b : Nat} {make : Handle → Request Handle} {q : Request Handle}
      (commutes : ∀ h, (make h).map f = make (f h)) (resolved : (held b).map make = some q) :
      (held' b).map make = some (q.map f) := by
    obtain ⟨h, hb, rfl⟩ := Option.map_eq_some_iff.mp resolved
    rw [holds b h hb, commutes, Option.map_some]
  cases r with
  | allocate name role fields kind hint => cases resolved; rfl
  | issue name role fields kind => cases resolved; rfl
  | draw label shader state slots targets =>
      obtain ⟨bound, hs, rfl⟩ := Option.map_eq_some_iff.mp resolved
      exact Option.map_eq_some_iff.mpr ⟨_, resolve_slots holds hs, rfl⟩
  | _ => exact one (fun _ => rfl) resolved

end Request

theorem Answer.rename_congr {f f' : Nat → Nat} {a : Answer}
    (same : ∀ x, a.handle? = some x → f' x.id = f x.id) : a.rename f' = a.rename f := by
  cases a with
  | made h => simp [Answer.rename, Handle.rename, same h rfl]
  | _ => rfl

namespace Request
variable {β : Type} {r : Request β} {held held' : Holding} {a : Answer} {name : Nat} {x : Handle}

theorem of_keep (h : r.keep held a name = some x) : a.handle? = some x ∨ held name = some x := by
  unfold keep at h
  cases named : r.name? with
  | none =>
      rw [named] at h
      exact Or.inr h
  | some own =>
      simp only [named] at h
      split at h
      · exact Or.inl h
      · exact Or.inr h

theorem keep_rename {f : Nat → Nat} (holds : ∀ name x, held name = some x → held' name = some (x.rename f))
    (h : r.keep held a name = some x) : r.keep held' (a.rename f) name = some (x.rename f) := by
  unfold keep at h ⊢
  cases named : r.name? with
  | none =>
      rw [named] at h
      exact holds name x h
  | some own =>
      simp only [named] at h ⊢
      split at h
      · simp [*, a.handle?_rename]
      · simp [*]

@[simp] theorem numbers_map {γ : Type} (f : β → γ) (r : Request β) : (r.map f).numbers = r.numbers := by
  cases r <;> rfl

end Request

/-- Two devices with the same rooms do the same, if their next handles stand for each other. -/
theorem Follows.rename {σ τ : Type} [Registry σ] [CommandSink σ] [Issuer σ] [Registry τ] [CommandSink τ]
    [Issuer τ] {d : σ} {t : τ} {i j : Nat} {q : Request Handle} {ρ : Equiv.Perm Nat} (follows : Follows d i q)
    (same : ∀ x : Handle, Registry.capacity? t (x.rename ρ) = Registry.capacity? d x) (next : ρ i = j)
    (follows' : Follows t j (q.map (Handle.rename ρ))) :
    ((q.map (Handle.rename ρ)).perform t).1 = (q.perform d).1.rename ρ ∧
      ∀ x : Handle, Registry.capacity? ((q.map (Handle.rename ρ)).perform t).2 (x.rename ρ) =
        Registry.capacity? (q.perform d).2 x := by
  subst next
  refine ⟨?_, fun x => ?_⟩
  · rw [follows'.answer, follows.answer, Request.answer_rename same]
  · rw [follows'.rooms, follows.rooms, Request.after_rename same]

/-! ## Numbers given out -/

/-- Two renamings agree on the numbers below `i` that stand for numbers below `j`. -/
def Extends (i j : Nat) (ρ ρ' : Equiv.Perm Nat) : Prop := ∀ id < i, ρ id < j → ρ' id = ρ id

section
variable {i i' j j' : Nat} {ρ ρ₁ ρ₂ : Equiv.Perm Nat}

theorem Extends.trans (h : Extends i j ρ ρ₁) (h' : Extends i' j' ρ₁ ρ₂) (hi : i ≤ i') (hj : j ≤ j') :
    Extends i j ρ ρ₂ := by
  intro id below below'
  have same := h id below below'
  rw [← same]
  exact h' id (by omega) (by omega)

/-- The next number on one side can stand for the next one on the other. -/
theorem exists_extends (i j : Nat) (ρ : Equiv.Perm Nat) : ∃ ρ', Extends i j ρ ρ' ∧ ρ' i = j := by
  refine ⟨(Equiv.swap i (ρ.symm j)).trans ρ, fun id below below' => ?_, by simp⟩
  rw [Equiv.trans_apply, Equiv.swap_apply_of_ne_of_ne (Nat.ne_of_lt below)]
  rintro rfl
  simp at below'

end

/-! ## The simulation -/

namespace Client
variable {g : Client Limited} {r : Request Nat}

theorem sound_step (g : Client Limited) (sound : g.device.Sound) (r : Request Nat) :
    (g.step r).after.device.Sound := by
  unfold step
  cases r.resolve g.held with
  | none => exact sound
  | some q => exact sound.perform q

theorem nextId_le_step (g : Client Limited) (r : Request Nat) :
    g.device.nextId ≤ (g.step r).after.device.nextId := by
  unfold step
  cases r.resolve g.held with
  | none => exact Nat.le_refl _
  | some q => simp [g.device.nextId_perform q]

/-- A call that is not carried out changes no room. -/
theorem rooms_of_dropped (g : Client Limited) (sound : g.device.Sound) (dropped : (g.step r).kept = false) :
    Registry.capacity? (g.step r).after.device = Registry.capacity? g.device := by
  unfold step at dropped ⊢
  cases resolved : r.resolve g.held with
  | none => rfl
  | some q =>
      simp only [resolved, Step.kept, Bool.not_eq_false'] at dropped ⊢
      exact Limited.rooms_of_refused sound dropped

/-- A call that is not carried out gives out no handle. -/
theorem held_of_dropped (g : Client Limited) (dropped : (g.step r).kept = false) {name : Nat} {x : Handle}
    (hx : (g.step r).after.held name = some x) : g.held name = some x := by
  unfold step at dropped hx
  cases resolved : r.resolve g.held with
  | none => rwa [resolved] at hx
  | some q =>
      simp only [resolved, Step.kept, Bool.not_eq_false'] at dropped hx
      rcases Request.of_keep hx with made | held
      · rw [Answer.handle?_of_refused dropped] at made
        cases made
      · exact held

theorem rooms_of_dropped_run {g : Client Limited} (sound : g.device.Sound) (script : List (Request Nat)) :
    ∀ s ∈ g.run script, s.kept = false →
      Registry.capacity? s.after.device = Registry.capacity? s.before.device := by
  induction script generalizing g with
  | nil => simp [run]
  | cons r rest ih =>
      intro s hs dropped
      rcases List.mem_cons.mp hs with rfl | hs
      · rw [g.before_step]
        exact g.rooms_of_dropped sound dropped
      · exact ih (g.sound_step sound r) s hs dropped

end Client

/-- The callers hold the same handles and the devices have the same rooms, up to the numbers of handles. -/
structure Simulates (ρ : Equiv.Perm Nat) (g : Client Limited) (h : Client Recorder) : Prop where
  sound : g.device.Sound
  ready : h.device.Ready
  rooms : ∀ x : Handle, Registry.capacity? h.device (x.rename ρ) = Registry.capacity? g.device x
  held : ∀ name x, g.held name = some x → h.held name = some (x.rename ρ)
  issued : ∀ name x, g.held name = some x → x.id < g.device.nextId ∧ ρ x.id < h.device.nextId

/-- A call was answered alike on both sides, and with handles that were given out. -/
structure Answered (ρ : Equiv.Perm Nat) (a : Answer) (s : Step Limited) (t : Step Recorder) : Prop where
  here : s.answer = some a
  there : t.answer = some (a.rename ρ)
  unknown : ∀ e, a = .failed e → ∃ role, e = .unknownBuffer role
  issued : ∀ x, a.handle? = some x → x.id < s.after.device.nextId ∧ ρ x.id < t.after.device.nextId

namespace Simulates
variable {ρ ρ' : Equiv.Perm Nat} {g : Client Limited} {h : Client Recorder} {r : Request Nat}

theorem issued_of_room (sim : Simulates ρ g h) {x : Handle}
    (live : (Registry.capacity? g.device x).isSome) :
    x.id < g.device.nextId ∧ ρ x.id < h.device.nextId := by
  refine ⟨sim.sound.lt_of_room live, ?_⟩
  rw [← sim.rooms x] at live
  exact sim.ready.sound.lt_of_room live

/-- What was not given out yet may be renamed at will. -/
theorem extend (sim : Simulates ρ g h) (ext : Extends g.device.nextId h.device.nextId ρ ρ') :
    Simulates ρ' g h := by
  have rename_eq {x : Handle} (issued : x.id < g.device.nextId ∧ ρ x.id < h.device.nextId) :
      x.rename ρ' = x.rename ρ := by
    simp [Handle.rename, ext x.id issued.1 issued.2]
  refine ⟨sim.sound, sim.ready, fun x => ?_, fun name x hx => ?_, fun name x hx => ?_⟩
  · cases room : Registry.capacity? g.device x with
    | some n => rw [rename_eq (sim.issued_of_room (by rw [room]; rfl)), sim.rooms, room]
    | none =>
        -- a buffer there would stand for one here, and that one would be `x`
        refine Option.not_isSome_iff_eq_none.mp fun there => ?_
        have back : (x.rename (ρ.symm ∘ ρ')).rename ρ = x.rename ρ' := by simp [Handle.rename]
        rw [← back, sim.rooms] at there
        obtain ⟨below, below'⟩ := sim.issued_of_room there
        have same : (x.rename (ρ.symm ∘ ρ')).id = x.id :=
          ρ'.injective (by simpa using ext _ below below')
        rw [LawfulRegistry.capacity?_congr g.device same, room] at there
        cases there
  · rw [rename_eq (sim.issued name x hx), sim.held name x hx]
  · obtain ⟨below, below'⟩ := sim.issued name x hx
    exact ⟨below, by rw [ext x.id below below']; exact below'⟩

/-- A call that is not carried out is not missed on the other side. -/
theorem drop (sim : Simulates ρ g h) (dropped : (g.step r).kept = false) :
    Simulates ρ (g.step r).after h where
  sound := g.sound_step sim.sound r
  ready := sim.ready
  rooms x := by rw [g.rooms_of_dropped sim.sound dropped]; exact sim.rooms x
  held name x hx := sim.held name x (g.held_of_dropped dropped hx)
  issued name x hx := by
    obtain ⟨below, below'⟩ := sim.issued name x (g.held_of_dropped dropped hx)
    exact ⟨Nat.lt_of_lt_of_le below (g.nextId_le_step r), below'⟩

/-- A call that is carried out is answered alike on the other side; the next handles stand for each other. -/
theorem carry (sim : Simulates ρ g h) (kept : (g.step r).kept) :
    ∃ ρ' a, Extends g.device.nextId h.device.nextId ρ ρ' ∧
      Simulates ρ' (g.step r).after (h.step r).after ∧ Answered ρ' a (g.step r) (h.step r) := by
  obtain ⟨ρ', ext, next⟩ := exists_extends g.device.nextId h.device.nextId ρ
  -- from here on the two handles that come next stand for each other
  have sim := sim.extend ext
  unfold Client.step at kept ⊢
  cases resolved : r.resolve g.held with
  | none => simp [resolved, Step.kept] at kept
  | some q =>
      simp only [resolved, Request.resolve_rename sim.held resolved, Step.kept, Bool.not_eq_true'] at kept ⊢
      have follows := Limited.follows_of_not_refused sim.sound kept
      obtain ⟨said, rooms⟩ := follows.rename sim.rooms next (Recorder.follows sim.ready.sound (sim.ready.serves _))
      have count := g.device.nextId_perform q
      have count' := (Recorder.settings_perform (sim.ready.serves (q.map (Handle.rename ρ')))).2
      rw [Request.numbers_map] at count'
      have issued : ∀ x, (q.perform g.device).1.handle? = some x →
          x.id < (q.perform g.device).2.nextId ∧
            ρ' x.id < ((q.map (Handle.rename ρ')).perform h.device).2.nextId := by
        intro x hx
        rw [follows.answer] at hx
        obtain ⟨hid, one⟩ := Request.id_of_handle? hx
        rw [hid, next, count, count', one]
        exact ⟨Nat.lt_succ_self _, Nat.lt_succ_self _⟩
      refine ⟨ρ', _, ext, ⟨sim.sound.perform q, sim.ready.perform _, rooms, fun name x hx => ?_,
        fun name x hx => ?_⟩, rfl, congrArg _ said, fun e he => ?_, issued⟩
      · rw [said]
        exact Request.keep_rename sim.held hx
      · rcases Request.of_keep hx with made | held
        · exact issued x made
        · obtain ⟨below, below'⟩ := sim.issued name x held
          dsimp only
          omega
      · exact Request.unknownBuffer_of_answer (follows.answer.symm.trans he)

theorem nextId_le_step (sim : Simulates ρ g h) (r : Request Nat) :
    h.device.nextId ≤ (h.step r).after.device.nextId := by
  unfold Client.step
  cases r.resolve h.held with
  | none => exact Nat.le_refl _
  | some q => simp [(Recorder.settings_perform (sim.ready.serves q)).2]

end Simulates

/-- The two sides agree on a call: on the answer, on what the callers hold, and on the room of all buffers. -/
structure Matches (ρ : Equiv.Perm Nat) (s : Step Limited) (t : Step Recorder) : Prop where
  answer : ∃ a, s.answer = some a ∧ t.answer = some (a.rename ρ)
  unknown : ∀ e, s.answer = some (.failed e) → ∃ role, e = .unknownBuffer role
  held : ∀ name x, s.after.held name = some x → t.after.held name = some (x.rename ρ)
  rooms : ∀ x : Handle, Registry.capacity? t.after.device (x.rename ρ) = Registry.capacity? s.after.device x

namespace Simulates
variable {ρ ρ' : Equiv.Perm Nat} {g : Client Limited} {h : Client Recorder} {r : Request Nat}

theorem matches_of_extends {a : Answer} {s : Step Limited} {t : Step Recorder}
    (sim : Simulates ρ s.after t.after) (answered : Answered ρ a s t)
    (ext : Extends s.after.device.nextId t.after.device.nextId ρ ρ') : Matches ρ' s t where
  answer := by
    refine ⟨a, answered.here, ?_⟩
    rw [answered.there, a.rename_congr fun x hx => ?_]
    obtain ⟨below, below'⟩ := answered.issued x hx
    exact (ext x.id below below').symm
  unknown e he := answered.unknown e (Option.some.inj (answered.here.symm.trans he))
  held := (sim.extend ext).held
  rooms := (sim.extend ext).rooms

/-- Without what was refused, both sides agree on every call. -/
theorem run (sim : Simulates ρ g h) (script : List (Request Nat)) :
    ∃ ρ', Extends g.device.nextId h.device.nextId ρ ρ' ∧
      List.Forall₂ (Matches ρ') ((g.run script).filter (·.kept))
        (h.run (((g.run script).filter (·.kept)).map (·.request))) := by
  induction script generalizing ρ g h with
  | nil => exact ⟨ρ, fun _ _ _ => rfl, .nil⟩
  | cons r rest ih =>
      cases kept : (g.step r).kept with
      | true =>
          obtain ⟨ρ₁, a, ext, next, answered⟩ := sim.carry kept
          obtain ⟨ρ₂, ext', rest'⟩ := ih next
          refine ⟨ρ₂, ext.trans ext' (g.nextId_le_step r) (sim.nextId_le_step r), ?_⟩
          have runs : (g.run (r :: rest)).filter (·.kept) =
            g.step r :: ((g.step r).after.run rest).filter (·.kept) := List.filter_cons_of_pos kept
          rw [runs, List.map_cons, g.request_step]
          exact .cons (next.matches_of_extends answered ext') rest'
      | false =>
          have next := sim.drop kept
          obtain ⟨ρ₁, ext, rest'⟩ := ih next
          have runs : (g.run (r :: rest)).filter (·.kept) =
            ((g.step r).after.run rest).filter (·.kept) := List.filter_cons_of_neg (by simp [kept])
          refine ⟨ρ₁, fun id below => ext id (Nat.lt_of_lt_of_le below (g.nextId_le_step r)), ?_⟩
          rw [runs]
          exact rest'

end Simulates

theorem simulates_fresh (limits : Limits) (stageBuffers : Nat) (targets : List TargetId) :
    Simulates (Equiv.refl Nat) { device := { Limited.ofLimits limits stageBuffers with targets } }
      { device := {} } where
  sound id live := by simp [Limited.ofLimits] at live
  ready := ⟨fun id live => by simp at live, rfl⟩
  rooms _ := rfl
  held _ _ hx := by cases hx
  issued _ _ hx := by cases hx

/-- Whatever is asked of a device with limits and some render targets, without the calls that it refuses
the recording device does the same, and what is refused changes no room. -/
theorem limited_refines_recorder (limits : Limits) (stageBuffers : Nat) (targets : List TargetId)
    (script : List (Request Nat)) :
    let steps := Client.run { device := { Limited.ofLimits limits stageBuffers with targets } } script
    let kept := steps.filter (·.kept)
    (∃ ρ : Equiv.Perm Nat, List.Forall₂ (Matches ρ) kept
      (Client.run { device := ({} : Recorder) } (kept.map (·.request)))) ∧
    ∀ s ∈ steps, s.kept = false →
      Registry.capacity? s.after.device = Registry.capacity? s.before.device := by
  intro steps kept
  have sim := simulates_fresh limits stageBuffers targets
  obtain ⟨ρ, -, agree⟩ := sim.run script
  exact ⟨⟨ρ, agree⟩, Client.rooms_of_dropped_run sim.sound script⟩

/-- A buffer of sixteen bytes may grow to four elements, not to five; the one without fields is not made, so
there is nothing to fill. -/
example : (Client.run { device := Limited.ofLimits { bufferSize := 64 } 8 }
    [.allocate 0 .data [⟨"color", .float32x4⟩] .storage {}, .resize 0 5, .resize 0 4,
      .allocate 1 .depth [] .storage {}, .fill 1 0, .destroy 0, .fill 0 0]).map (·.kept) =
    [true, false, true, false, false, true, true] := by rfl

end Transparency.Device

import Transparency.Proofs.Device.Exact

/-!
# Calls as data

A device is asked for one thing after another. What it must say, and what room its buffers have afterwards,
follows from the room that they have before; both devices do so, except that limits and render targets
make one of them refuse a call.
-/

namespace Transparency.Device
open Buffer (Role Kind Field UsageHint Handle Source Access Binding)

/-! ## Requests and answers -/

/-- A binding of a draw, by what its caller calls the buffer. -/
structure Slot (β : Type) where
  binding : UInt32
  buffer : β
  access : Access

namespace Slot

/-- The same slot, with another word for its buffer. -/
def map {β γ : Type} (f : β → γ) (s : Slot β) : Slot γ := ⟨s.binding, f s.buffer, s.access⟩

/-- The binding of a slot that has its handle. -/
def bound (s : Slot Handle) : Binding := ⟨s.binding, s.buffer, s.access⟩

end Slot

/-- A call on a device. A handle that it gives out gets a name. -/
inductive Request (β : Type)
  | allocate (name : Nat) (role : Role) (fields : List Field) (kind : Kind) (hint : UsageHint)
  /-- Asks for a handle that no buffer stands behind. -/
  | issue (name : Nat) (role : Role) (fields : List Field) (kind : Kind)
  | resize (buffer : β) (elements : Nat)
  | upload (buffer : β) (source : Source)
  | destroy (buffer : β)
  | capacity (buffer : β)
  | fill (buffer : β) (value : Int32)
  | draw (label : String) (shader : Shader.Program) (state : PassState) (slots : List (Slot β))
      (targets : List Target)

namespace Request
variable {β γ : Type}

/-- The same request, with other words for the buffers. -/
def map (f : β → γ) : Request β → Request γ
  | allocate name role fields kind hint => .allocate name role fields kind hint
  | issue name role fields kind => .issue name role fields kind
  | resize b n => .resize (f b) n
  | upload b source => .upload (f b) source
  | destroy b => .destroy (f b)
  | capacity b => .capacity (f b)
  | fill b value => .fill (f b) value
  | draw label shader state slots targets => .draw label shader state (slots.map (·.map f)) targets

/-- The name of the handle that is given out, if one is asked for. -/
def name? : Request β → Option Nat
  | allocate name _ _ _ _ | issue name _ _ _ => some name
  | _ => none

/-- A buffer is asked for. -/
def allocates : Request β → Bool
  | allocate _ _ _ _ _ => true
  | _ => false

/-- How many numbers of handles the request uses up. -/
def numbers : Request β → Nat
  | allocate _ _ _ _ _ | issue _ _ _ _ => 1
  | _ => 0

end Request

/-- What a device says to a request. -/
inductive Answer
  | made (handle : Handle)
  | done
  | room (elements : Option Nat)
  | failed (error : Error)

namespace Answer

/-- The device had no buffer of that size to give, or did not know the target. -/
def refused : Answer → Bool
  | failed (.allocationFailed _) | failed (.bufferTooLarge _ _ _) | failed (.unknownTarget _) => true
  | _ => false

/-- The handle that was given out. -/
def handle? : Answer → Option Handle
  | made handle => some handle
  | _ => none

theorem handle?_eq_some {a : Answer} {x : Handle} : a.handle? = some x ↔ a = .made x := by
  cases a <;> simp [handle?]

theorem handle?_of_refused {a : Answer} (h : a.refused = true) : a.handle? = none := by
  cases a with
  | made x => cases h
  | _ => rfl

end Answer

/-- A device that can make handles that no buffer stands behind. -/
class Issuer (σ : Type) where
  issue : σ → Role → List Field → Kind → Handle × σ

instance : Issuer Recorder := ⟨Recorder.issue⟩
instance : Issuer Limited := ⟨Limited.issue⟩

/-- What a caller learns from a reply, and the device after it. -/
def Reply.outcome {σ α : Type} (reply : Reply σ α) (f : α → Answer) : Answer × σ :=
  (match reply.result with | .ok a => f a | .error e => .failed e, reply.device)

/-- Makes the call. -/
def Request.perform {σ : Type} [Registry σ] [CommandSink σ] [Issuer σ] (d : σ) :
    Request Handle → Answer × σ
  | allocate _ role fields kind hint => (Registry.allocate d role fields kind hint).outcome .made
  | issue _ role fields kind => (Issuer.issue d role fields kind).map .made id
  | resize h n => (Registry.resize d h n).outcome fun _ => .done
  | upload h source => (Registry.upload d h source).outcome fun _ => .done
  | destroy h => (.done, Registry.destroy d h)
  | capacity h => (.room (Registry.capacity? d h), d)
  | fill h value => (CommandSink.fill d h value).outcome fun _ => .done
  | draw label shader state slots targets =>
    (CommandSink.draw d ⟨label, shader, state, slots.map (·.bound), targets⟩).outcome fun _ => .done

/-! ## What a device must say and do -/

/-- The room of each buffer that is there, by its handle. -/
abbrev Rooms := Handle → Option Nat

namespace Request

/-- The answer to a call that needs one buffer. -/
def answerFor (rooms : Rooms) (h : Handle) : Answer :=
  if (rooms h).isSome then .done else .failed (.unknownBuffer h.role)

/-- The answer to a draw. -/
def answerForAll (rooms : Rooms) (bindings : List Binding) : Answer :=
  match bindings.find? fun b => (rooms b.buffer).isNone with
  | some b => .failed (.unknownBuffer b.buffer.role)
  | none => .done

/-- The answer, if nothing is refused and the next handle gets the number `id`. -/
def answer (rooms : Rooms) (id : Nat) : Request Handle → Answer
  | allocate _ role fields kind _ | issue _ role fields kind => .made ⟨id, role, kind, fields⟩
  | resize h _ | upload h _ | fill h _ => answerFor rooms h
  | destroy _ => .done
  | capacity h => .room (rooms h)
  | draw _ _ _ slots _ => answerForAll rooms (slots.map (·.bound))

/-- The rooms after the call, if nothing is refused. -/
def after (rooms : Rooms) (id : Nat) : Request Handle → Rooms
  | allocate _ _ _ kind _ => fun x => if x.id = id then some (initialCapacity kind) else rooms x
  | resize h n => fun x => if x.id = h.id then (rooms x).map (max · n) else rooms x
  | destroy h => fun x => if x.id = h.id then none else rooms x
  | issue _ _ _ _ | upload _ _ | capacity _ | fill _ _ | draw _ _ _ _ _ => rooms

variable {rooms : Rooms} {id : Nat} {r : Request Handle}

theorem unknownBuffer_of_answer {e : Error} (h : r.answer rooms id = .failed e) :
    ∃ role, e = .unknownBuffer role := by
  have one {x : Handle} (h : answerFor rooms x = .failed e) : ∃ role, e = .unknownBuffer role := by
    unfold answerFor at h
    split at h
    · cases h
    · cases h; exact ⟨_, rfl⟩
  cases r with
  | resize x n => exact one h
  | upload x source => exact one h
  | fill x value => exact one h
  | draw label shader state slots targets =>
      simp only [answer, answerForAll] at h
      split at h
      · cases h; exact ⟨_, rfl⟩
      · cases h
  | _ => cases h

theorem answer_not_refused : (r.answer rooms id).refused = false := by
  cases h : r.answer rooms id with
  | failed e =>
      obtain ⟨role, rfl⟩ := unknownBuffer_of_answer h
      rfl
  | _ => rfl

/-- A handle that is given out has the next number. -/
theorem id_of_handle? {x : Handle} (h : (r.answer rooms id).handle? = some x) :
    x.id = id ∧ r.numbers = 1 := by
  cases r with
  | allocate name role fields kind hint => cases h; exact ⟨rfl, rfl⟩
  | issue name role fields kind => cases h; exact ⟨rfl, rfl⟩
  | destroy x => cases h
  | capacity x => cases h
  | resize x n => simp only [answer, answerFor] at h; split at h <;> cases h
  | upload x source => simp only [answer, answerFor] at h; split at h <;> cases h
  | fill x value => simp only [answer, answerFor] at h; split at h <;> cases h
  | draw label shader state slots targets => simp only [answer, answerForAll] at h; split at h <;> cases h

end Request

/-- A device answers a request as its rooms say, and then has the rooms that it must have. -/
structure Follows {σ : Type} [Registry σ] [CommandSink σ] [Issuer σ] (d : σ) (id : Nat)
    (r : Request Handle) : Prop where
  answer : (r.perform d).1 = r.answer (Registry.capacity? d) id
  rooms : Registry.capacity? (r.perform d).2 = r.after (Registry.capacity? d) id

/-- What a call on one buffer says, if it only fails when the buffer is not there. -/
theorem outcome_of_live {σ : Type} {rooms : Rooms} {h : Handle} {reply : Reply σ Unit}
    (same : reply.result = if (rooms h).isSome then .ok () else .error (.unknownBuffer h.role)) :
    (reply.outcome fun _ => .done).1 = Request.answerFor rooms h := by
  rw [Reply.outcome, Request.answerFor]
  cases live : (rooms h).isSome <;> simp [same, live]

/-- What a draw says, if it only fails when a buffer is not there. -/
theorem outcome_of_all_live {σ : Type} {rooms : Rooms} {bindings : List Binding} {reply : Reply σ Unit}
    (same : reply.result = match bindings.find? fun b => (rooms b.buffer).isNone with
      | some b => .error (.unknownBuffer b.buffer.role)
      | none => .ok ()) :
    (reply.outcome fun _ => .done).1 = Request.answerForAll rooms bindings := by
  rw [Reply.outcome, Request.answerForAll]
  cases first : bindings.find? fun b => (rooms b.buffer).isNone <;> simp [same, first]

/-- A resize that only fails when the buffer is not there leaves it with room for as many elements as it had,
or for those asked for. -/
theorem follows_resize {σ : Type} [Registry σ] [CommandSink σ] [Issuer σ] [ExactRegistry σ] {d : σ}
    {id n : Nat} {h : Handle}
    (same : (Registry.resize d h n).result =
      if (Registry.capacity? d h).isSome then .ok () else .error (.unknownBuffer h.role)) :
    Follows d id (.resize h n) := by
  refine ⟨outcome_of_live same, funext fun x => ?_⟩
  show Registry.capacity? (Registry.resize d h n).device x = if x.id = h.id then _ else _
  split
  · rename_i one
    rw [LawfulRegistry.capacity?_congr _ one, LawfulRegistry.capacity?_congr d one]
    cases room : Registry.capacity? d h with
    | none =>
        rw [room] at same
        exact (congrFun (LawfulRegistry.resize_error same) h).trans room
    | some m =>
        rw [room] at same
        exact ExactRegistry.room_resize same room
  · exact LawfulRegistry.resize_other ‹_›

theorem sound_perform {σ : Type} [Registry σ] [CommandSink σ] [Issuer σ] [LawfulDevice σ] {d : σ}
    (issued : ∀ role fields kind, LawfulRegistry.Sound (Issuer.issue d role fields kind).2)
    (sound : LawfulRegistry.Sound d) (r : Request Handle) : LawfulRegistry.Sound (r.perform d).2 := by
  cases r with
  | allocate name role fields kind hint => exact LawfulRegistry.sound_allocate role fields kind hint sound
  | issue name role fields kind => exact issued role fields kind
  | resize h n => exact LawfulRegistry.sound_resize h n sound
  | upload h source => exact LawfulRegistry.sound_upload h source sound
  | destroy h => exact LawfulRegistry.sound_destroy h sound
  | capacity h => exact sound
  | fill h value => exact LawfulDevice.sound_fill h value sound
  | draw label shader state slots targets => exact LawfulDevice.sound_draw _ sound

/-! ## The device that records -/

namespace Recorder
variable {d : Recorder} {h x : Handle} {n : Nat}

/-- Nothing is refused. -/
structure Ready (d : Recorder) : Prop where
  sound : d.Sound
  willing : d.refusing = false

theorem firstUnknown?_buffers (d : Recorder) (bindings : List Binding) :
    d.firstUnknown? (bindings.map (·.buffer)) =
      (bindings.find? fun b => (Registry.capacity? d b.buffer).isNone).map (·.buffer) := by
  simp only [firstUnknown?, List.find?_map, Function.comp_def, capacity?_eq, buffer?, Option.isNone_map]

theorem draw_result (d : Recorder) (c : Draw) : (d.draw c).result =
    match c.buffers.find? fun b => (Registry.capacity? d b.buffer).isNone with
    | some b => .error (.unknownBuffer b.buffer.role)
    | none => .ok () := by
  unfold draw
  rw [firstUnknown?_buffers]
  cases c.buffers.find? fun b => (Registry.capacity? d b.buffer).isNone <;> rfl

theorem allocate_of_willing (willing : d.refusing = false) (role : Role) (fields : List Field)
    (kind : Kind) : d.allocate role fields kind = {
      result := .ok ⟨d.nextId, role, kind, fields⟩
      device := (d.issue role fields kind).2.update ⟨d.nextId, role, kind, fields⟩
        { role, capacity := initialCapacity kind } (.allocated role kind (initialCapacity kind)) } :=
  if_neg (by simp [willing])

/-- The request is not for a buffer that is refused. -/
def Serves (d : Recorder) (r : Request Handle) : Prop := r.allocates = true → d.refusing = false

theorem Ready.serves (ready : d.Ready) (r : Request Handle) : d.Serves r := fun _ => ready.willing

theorem follows (sound : d.Sound) {r : Request Handle} (serves : d.Serves r) : Follows d d.nextId r := by
  cases r with
  | allocate name role fields kind hint =>
      have made := d.allocate_of_willing (serves rfl) role fields kind
      obtain ⟨-, -, rooms⟩ := of_allocate_ok sound (congrArg (·.result) made)
      exact ⟨congrArg (fun reply => (reply.outcome .made).1) made, funext rooms⟩
  | issue name role fields kind => exact ⟨rfl, rfl⟩
  | resize h n => exact follows_resize (d.resize_result h n)
  | upload h source =>
      exact ⟨outcome_of_live (d.result_of_known h fun b => rfl), LawfulRegistry.capacity?_upload d h source⟩
  | destroy h => exact ⟨rfl, funext fun x => LawfulRegistry.capacity?_destroy d h x⟩
  | capacity h => exact ⟨rfl, rfl⟩
  | fill h value =>
      exact ⟨outcome_of_live (d.result_of_known h fun b => rfl), LawfulDevice.capacity?_fill d h value⟩
  | draw label shader state slots targets =>
      exact ⟨outcome_of_all_live (d.draw_result _), LawfulDevice.capacity?_draw d _⟩

/-- What calls do not touch, whether a buffer is there or not. -/
theorem settings_of_known (d : Recorder) (h : Handle) {reply : RecordedBuffer → Reply Recorder Unit}
    (same : ∀ b, (reply b).device.refusing = d.refusing ∧ (reply b).device.nextId = d.nextId) :
    let after := (match d.buffer? h with
      | none => Reply.fail (.unknownBuffer h.role) d
      | some b => reply b).device
    after.refusing = d.refusing ∧ after.nextId = d.nextId := by
  cases d.buffer? h with
  | none => exact ⟨rfl, rfl⟩
  | some b => exact same b

theorem settings_perform {r : Request Handle} (serves : d.Serves r) :
    (r.perform d).2.refusing = d.refusing ∧ (r.perform d).2.nextId = d.nextId + r.numbers := by
  cases r with
  | allocate name role fields kind hint =>
      simp only [Request.perform, Registry.allocate, d.allocate_of_willing (serves rfl)]
      exact ⟨rfl, rfl⟩
  | issue name role fields kind => exact ⟨rfl, rfl⟩
  | resize h n => exact d.settings_of_known h fun b => by split <;> exact ⟨rfl, rfl⟩
  | upload h source => exact d.settings_of_known h fun b => ⟨rfl, rfl⟩
  | destroy h =>
      simp only [Request.perform, Registry.destroy, Recorder.destroy]
      split <;> exact ⟨rfl, rfl⟩
  | capacity h => exact ⟨rfl, rfl⟩
  | fill h value => exact d.settings_of_known h fun b => ⟨rfl, rfl⟩
  | draw label shader state slots targets =>
      simp only [Request.perform, CommandSink.draw, Recorder.draw]
      split <;> exact ⟨rfl, rfl⟩

theorem Ready.perform (ready : d.Ready) (r : Request Handle) : (r.perform d).2.Ready where
  sound := sound_perform (d := d) (fun _ _ _ id live => Nat.lt_succ_of_lt (ready.sound id live)) ready.sound r
  willing := (settings_perform (ready.serves r)).1.trans ready.willing

/-- A buffer that is refused leaves no trace, not even a number. -/
theorem perform_of_not_serves {r : Request Handle} (refuses : ¬d.Serves r) :
    (r.perform d).1.refused = true ∧ (r.perform d).2 = d := by
  simp only [Serves, Classical.not_imp, Bool.not_eq_false] at refuses
  obtain ⟨asked, refusing⟩ := refuses
  cases r with
  | allocate name role fields kind hint =>
      simp only [Request.perform, Registry.allocate, Recorder.allocate, refusing]
      exact ⟨rfl, rfl⟩
  | _ => cases asked

end Recorder

/-! ## The device with limits -/

namespace Limited
variable {d : Limited}

theorem firstUnknown?_buffers (d : Limited) (bindings : List Binding) :
    d.firstUnknown? (bindings.map (·.buffer)) =
      (bindings.find? fun b => (Registry.capacity? d b.buffer).isNone).map (·.buffer) := by
  simp only [firstUnknown?, List.find?_map, Function.comp_def, capacity?_eq, Option.isNone_map]

/-- A draw fails on the first target that is not registered, and else on the first buffer that is not
there. -/
theorem draw_cases (d : Limited) (c : Draw) :
    (∃ id, d.draw c = .fail (.unknownTarget id) d) ∨
    (d.draw c).result = match c.buffers.find? fun b => (Registry.capacity? d b.buffer).isNone with
      | some b => .error (.unknownBuffer b.buffer.role)
      | none => .ok () := by
  unfold draw
  rw [firstUnknown?_buffers]
  cases d.firstUnregistered? (c.targets.filter fun target => !target.isDepth) with
  | some id => exact Or.inl ⟨id, rfl⟩
  | none =>
      refine Or.inr ?_
      cases c.buffers.find? fun b => (Registry.capacity? d b.buffer).isNone with
      | some b => rfl
      | none =>
          dsimp only [Option.map_none]
          split <;> rfl

/-- Limits and targets may stop a call, and then it changes no room. -/
theorem refuses_or_follows (sound : d.Sound) (r : Request Handle) :
    ((r.perform d).1.refused = true ∧ Registry.capacity? (r.perform d).2 = Registry.capacity? d) ∨
      Follows d d.nextId r := by
  cases r with
  | allocate name role fields kind hint =>
      rcases d.allocate_cases role fields kind with ⟨e, stopped, he⟩ | ⟨size, -, -, he⟩
      · refine Or.inl ?_
        simp only [Request.perform, Registry.allocate, he]
        refine ⟨?_, rfl⟩
        rcases of_admission_error stopped with rfl | ⟨size, limit, rfl⟩ <;> rfl
      · obtain ⟨-, -, rooms⟩ := of_allocate_ok sound (congrArg (·.result) he)
        exact Or.inr ⟨congrArg (fun reply => (reply.outcome .made).1) he, funext rooms⟩
  | issue name role fields kind => exact Or.inr ⟨rfl, rfl⟩
  | resize h n =>
      rcases d.resize_cases h n with ⟨gone, he⟩ | ⟨b, known, ⟨-, he⟩ | ⟨-, e, exceeds, he⟩ |
        ⟨-, size, log, -, he⟩⟩
      · refine Or.inr (follows_resize ?_)
        simp only [Registry.resize, he, capacity?_eq, gone]
        rfl
      · refine Or.inr (follows_resize ?_)
        simp only [Registry.resize, he, capacity?_of_known known]
        rfl
      · refine Or.inl ?_
        simp only [Request.perform, Registry.resize, he]
        obtain ⟨size, limit, rfl⟩ := Limits.of_check_error exceeds
        exact ⟨rfl, rfl⟩
      · refine Or.inr (follows_resize ?_)
        simp only [Registry.resize, he, capacity?_of_known known]
        rfl
  | upload h source =>
      exact Or.inr ⟨outcome_of_live (d.upload_result h source), LawfulRegistry.capacity?_upload d h source⟩
  | destroy h => exact Or.inr ⟨rfl, funext fun x => LawfulRegistry.capacity?_destroy d h x⟩
  | capacity h => exact Or.inr ⟨rfl, rfl⟩
  | fill h value =>
      exact Or.inr ⟨outcome_of_live (d.fill_result h value), LawfulDevice.capacity?_fill d h value⟩
  | draw label shader state slots targets =>
      rcases d.draw_cases ⟨label, shader, state, slots.map (·.bound), targets⟩ with ⟨id, he⟩ | he
      · refine Or.inl ?_
        simp only [Request.perform, CommandSink.draw, he]
        exact ⟨rfl, rfl⟩
      · exact Or.inr ⟨outcome_of_all_live he, LawfulDevice.capacity?_draw d _⟩

theorem rooms_of_refused (sound : d.Sound) {r : Request Handle} (refused : (r.perform d).1.refused = true) :
    Registry.capacity? (r.perform d).2 = Registry.capacity? d := by
  rcases d.refuses_or_follows sound r with ⟨-, rooms⟩ | follows
  · exact rooms
  · rw [follows.answer, Request.answer_not_refused] at refused
    cases refused

theorem follows_of_not_refused (sound : d.Sound) {r : Request Handle}
    (carried : (r.perform d).1.refused = false) : Follows d d.nextId r := by
  rcases d.refuses_or_follows sound r with ⟨refused, -⟩ | follows
  · rw [refused] at carried
    cases carried
  · exact follows

theorem Sound.perform (sound : d.Sound) (r : Request Handle) : (r.perform d).2.Sound :=
  sound_perform (d := d) (fun _ _ _ id live => Nat.lt_succ_of_lt (sound id live)) sound r

theorem nextId_perform (d : Limited) (r : Request Handle) :
    (r.perform d).2.nextId = d.nextId + r.numbers := by
  cases r with
  | allocate name role fields kind hint => exact (d.allocate_device role fields kind).1
  | issue name role fields kind => rfl
  | resize h n => exact (d.resize_device h n).1
  | upload h source => exact congrArg nextId (d.upload_device h source)
  | destroy h => rfl
  | capacity h => rfl
  | fill h value => exact congrArg nextId (d.fill_device h value)
  | draw label shader state slots targets => exact (d.draw_device _).2.1

end Limited

end Transparency.Device

import Transparency.Frame.Protocol
import Transparency.Proofs.Device.Lawful

/-!
# Calls on the device of a session

What each call leaves of a session, once it failed and once it succeeded. Then two relations: `Stocks`,
for what tasks do while they are prepared, and `Performs`, for what they do while they are executed.
-/

namespace Transparency.Frame
open Buffer (Role Kind Field UsageHint Handle Source)
open Device (Registry CommandSink LawfulRegistry LawfulDevice RegistryKeeps CommandsKeep Reply)

/-- Whether an event is about making, changing or giving back a buffer. -/
def Event.isStock : Event → Bool
  | .allocated _ | .resized _ _ | .uploaded _ _ | .destroyed _ => true
  | _ => false

/-- Whether an event is a command that was carried out. -/
def Event.isCommand : Event → Bool
  | .filled _ _ | .drew _ => true
  | _ => false

/-- Whether an event is the clear of a frame. -/
def Event.isClear : Event → Bool
  | .cleared _ => true
  | _ => false

/-- Whether an event is a call of a writer. -/
def Event.isWrite : Event → Bool
  | .wrote _ _ => true
  | _ => false

/-- Whether an event is a resolve. -/
def Event.isResolve : Event → Bool
  | .resolved _ _ => true
  | _ => false

/-- The draw of a resolve. -/
def Event.resolvedDraw? : Event → Option Draw
  | .resolved _ draw => some draw
  | _ => none

theorem Event.resolvedDraw?_of_not_isResolve {e : Event} (h : e.isResolve = false) :
    e.resolvedDraw? = none := by
  cases e <;> first | rfl | cases h

theorem Event.of_isCommand {e : Event} (h : e.isCommand = true) :
    e.isStock = false ∧ e.isClear = false ∧ e.isWrite = false ∧ e.isResolve = false := by
  cases e <;> first | exact ⟨rfl, rfl, rfl, rfl⟩ | cases h

theorem Event.of_isStock {e : Event} (h : e.isStock = true) :
    e.isClear = false ∧ e.isWrite = false ∧ e.isResolve = false := by
  cases e <;> first | exact ⟨rfl, rfl, rfl⟩ | cases h

namespace Session
variable {σ α : Type}

/-- The elements that a buffer has room for, if it is there. -/
def room [Registry σ] (s : Session σ) (h : Handle) : Option Nat := Registry.capacity? s.device h

/-- The events of a session, without the devices. -/
def events (s : Session σ) : List Event := s.history.map (·.event)

/-- Whether the device of a session obeys the laws. -/
def Sound [Registry σ] [LawfulRegistry σ] (s : Session σ) : Prop := LawfulRegistry.Sound s.device

theorem room_congr [Registry σ] [LawfulRegistry σ] (s : Session σ) {h h' : Handle}
    (same : h.id = h'.id) : s.room h = s.room h' := LawfulRegistry.capacity?_congr _ same

/-- The sessions differ at most in what was logged. -/
structure Alike (s t : Session σ) : Prop where
  context : t.context = s.context
  device : t.device = s.device
  history : t.history = s.history

theorem Alike.refl (s : Session σ) : Alike s s := ⟨rfl, rfl, rfl⟩

theorem Alike.trans {s t u : Session σ} (h : Alike s t) (h' : Alike t u) : Alike s u :=
  ⟨h'.context.trans h.context, h'.device.trans h.device, h'.history.trans h.history⟩

theorem alike_report (s : Session σ) (level : LogLevel) (text : String) :
    Alike s (s.report level text) := ⟨rfl, rfl, rfl⟩

theorem alike_fail (s : Session σ) (task : String) (e : Error) : Alike s (s.fail task e) :=
  alike_report s _ _

theorem Alike.withContext {s t : Session σ} (h : Alike s t) (c : Context) :
    Alike (s.withContext c) (t.withContext c) := ⟨rfl, h.device, h.history⟩

theorem room_of_device [Registry σ] {s t : Session σ} (h : t.device = s.device) : t.room = s.room := by
  funext x
  rw [room, h, room]

theorem events_of_history {s t : Session σ} (h : t.history = s.history) : t.events = s.events := by
  rw [events, h, events]

theorem Alike.room [Registry σ] {s t : Session σ} (h : Alike s t) : t.room = s.room := room_of_device h.device

theorem Alike.events {s t : Session σ} (h : Alike s t) : t.events = s.events := events_of_history h.history

theorem Alike.sound [Registry σ] [LawfulRegistry σ] {s t : Session σ} (h : Alike s t)
    (sound : s.Sound) : t.Sound := by
  rw [Sound, h.device]
  exact sound

/-! ## Single calls -/

section
variable {s t : Session σ} {r : Reply σ α} {ev : α → Event}

theorem of_absorb_error {e : Error} (h : s.absorb r ev = (.error e, t)) :
    r.result = .error e ∧ t.device = r.device ∧ t.context = s.context ∧ t.history = s.history := by
  unfold absorb at h
  split at h
  · rename_i e' he
    cases h
    exact ⟨he, rfl, rfl, rfl⟩
  · cases h

theorem of_absorb_ok {a : α} (h : s.absorb r ev = (.ok a, t)) :
    r.result = .ok a ∧ t.device = r.device ∧ t.context = s.context ∧
      t.history = s.history ++ [⟨ev a, t.device⟩] := by
  unfold absorb at h
  split at h
  · cases h
  · rename_i a' ha
    cases h
    exact ⟨ha, rfl, rfl, rfl⟩

theorem absorb_ok {a : α} (h : r.result = .ok a) : ∃ t, s.absorb r ev = (.ok a, t) := by
  rw [absorb, h]
  exact ⟨_, rfl⟩

theorem absorb_error {e : Error} (h : r.result = .error e) : ∃ t, s.absorb r ev = (.error e, t) := by
  rw [absorb, h]
  exact ⟨_, rfl⟩

theorem absorb_device (s : Session σ) (r : Reply σ α) (ev : α → Event) :
    (s.absorb r ev).2.device = r.device := by
  unfold absorb
  split <;> rfl

theorem absorb_context (s : Session σ) (r : Reply σ α) (ev : α → Event) :
    (s.absorb r ev).2.context = s.context := by
  unfold absorb
  split <;> rfl

theorem absorb_history (s : Session σ) (r : Reply σ α) (ev : α → Event) :
    (s.absorb r ev).2.history = s.history ∨
      ∃ a, (s.absorb r ev).2.history = s.history ++ [⟨ev a, (s.absorb r ev).2.device⟩] := by
  unfold absorb
  split
  · exact Or.inl rfl
  · rename_i a _
    exact Or.inr ⟨a, rfl⟩

end

section
variable [Registry σ] [LawfulRegistry σ] {s t : Session σ} {h h' : Handle} {e : Error}

theorem of_allocate_error {role : Role} {fields : List Field} {kind : Kind} {hint : UsageHint}
    (he : s.allocate role fields kind hint = (.error e, t)) :
    t.room = s.room ∧ t.context = s.context ∧ t.history = s.history := by
  obtain ⟨hr, hd, hc, hh⟩ := of_absorb_error he
  refine ⟨?_, hc, hh⟩
  funext h
  rw [room, hd, LawfulRegistry.allocate_error hr, room]

theorem of_allocate_ok {role : Role} {fields : List Field} {kind : Kind} {hint : UsageHint}
    (sound : s.Sound) (he : s.allocate role fields kind hint = (.ok h, t)) :
    h.role = role ∧ s.room h = none ∧
      (∀ h', t.room h' =
        if h'.id = h.id then some (Device.initialCapacity kind) else s.room h') ∧
      t.context = s.context ∧ t.history = s.history ++ [⟨.allocated h, t.device⟩] := by
  obtain ⟨hr, hd, hc, hh⟩ := of_absorb_ok he
  obtain ⟨role, fresh, rooms⟩ := LawfulRegistry.allocate_ok sound hr
  refine ⟨role, fresh, fun h' => ?_, hc, hh⟩
  rw [room, hd, rooms, room]

theorem of_resize_error {n : Nat} (he : s.resize h n = (.error e, t)) :
    t.room = s.room ∧ t.context = s.context ∧ t.history = s.history := by
  obtain ⟨hr, hd, hc, hh⟩ := of_absorb_error he
  refine ⟨?_, hc, hh⟩
  funext h
  rw [room, hd, LawfulRegistry.resize_error hr, room]

theorem of_resize_ok {n : Nat} (he : s.resize h n = (.ok (), t)) :
    (∃ after, t.room h = some after ∧ n ≤ after ∧
      ∀ before, s.room h = some before → before ≤ after) ∧
      t.context = s.context ∧ t.history = s.history ++ [⟨.resized h n, t.device⟩] := by
  obtain ⟨hr, hd, hc, hh⟩ := of_absorb_ok he
  refine ⟨?_, hc, hh⟩
  simp only [room, hd]
  exact LawfulRegistry.resize_ok hr

theorem room_resize_other {n : Nat} (other : h'.id ≠ h.id) : (s.resize h n).2.room h' = s.room h' := by
  rw [room, resize, absorb_device, LawfulRegistry.resize_other other, room]

theorem room_upload (s : Session σ) (h : Handle) (x : Source) : (s.upload h x).2.room = s.room := by
  funext h'
  rw [room, upload, absorb_device, LawfulRegistry.capacity?_upload, room]

theorem room_destroy (s : Session σ) (h h' : Handle) :
    (s.destroy h).room h' = if h'.id = h.id then none else s.room h' :=
  LawfulRegistry.capacity?_destroy s.device h h'

theorem room_destroyAll (s : Session σ) (hs : List Handle) (h' : Handle) :
    (s.destroyAll hs).room h' = if h'.id ∈ hs.map (·.id) then none else s.room h' := by
  induction hs generalizing s with
  | nil => simp [destroyAll]
  | cons h hs ih =>
      rw [show s.destroyAll (h :: hs) = (s.destroy h).destroyAll hs from rfl, ih, room_destroy]
      by_cases first : h'.id = h.id
      · simp [first]
      · simp [first]

end

theorem destroyAll_context [Registry σ] (s : Session σ) (hs : List Handle) :
    (s.destroyAll hs).context = s.context := by
  induction hs generalizing s with
  | nil => rfl
  | cons h hs ih => exact ih (s.destroy h)

theorem resizeAll_context [Registry σ] (s : Session σ) (rs : List (Handle × Nat)) :
    (s.resizeAll rs).2.context = s.context := by
  induction rs generalizing s with
  | nil => rfl
  | cons r rs ih =>
      simp only [resizeAll]
      have hr : (s.resize r.1 r.2).2.context = s.context := absorb_context _ _ _
      split <;> rename_i he
      · rw [he] at hr; exact hr
      · rw [he] at hr; rw [ih]; exact hr

theorem events_destroyAll [Registry σ] (s : Session σ) (hs : List Handle) :
    (s.destroyAll hs).events = s.events ++ hs.map .destroyed := by
  induction hs generalizing s with
  | nil => simp [destroyAll]
  | cons h hs ih =>
      rw [show s.destroyAll (h :: hs) = (s.destroy h).destroyAll hs from rfl, ih]
      simp [events, destroy, note]

/-! ## What tasks do while they are prepared -/

section
variable [Registry σ]

/-- A session comes from another one by calls that keep buffers. -/
inductive Stocks : Session σ → Session σ → Prop
  | refl (s : Session σ) : Stocks s s
  | allocate {s t : Session σ} (role : Role) (fields : List Field) (kind : Kind) (hint : UsageHint) :
      Stocks s t → Stocks s (t.allocate role fields kind hint).2
  | resize {s t : Session σ} (h : Handle) (n : Nat) : Stocks s t → Stocks s (t.resize h n).2
  | upload {s t : Session σ} (h : Handle) (x : Source) : Stocks s t → Stocks s (t.upload h x).2
  | destroy {s t : Session σ} (h : Handle) : Stocks s t → Stocks s (t.destroy h)
  | alike {s t u : Session σ} : Alike t u → Stocks s t → Stocks s u
  | withContext {s t : Session σ} (c : Context) : Stocks s t → Stocks s (t.withContext c)

namespace Stocks
variable {s t u : Session σ}

theorem trans (h : Stocks s t) (h' : Stocks t u) : Stocks s u := by
  induction h' with
  | refl => exact h
  | allocate role fields kind hint _ ih => exact .allocate role fields kind hint ih
  | resize h n _ ih => exact .resize h n ih
  | upload h x _ ih => exact .upload h x ih
  | destroy h _ ih => exact .destroy h ih
  | alike h _ ih => exact .alike h ih
  | withContext c _ ih => exact .withContext c ih

theorem report (h : Stocks s t) (level : LogLevel) (text : String) : Stocks s (t.report level text) :=
  .alike (alike_report t level text) h

theorem destroyAll (h : Stocks s t) (hs : List Handle) : Stocks s (t.destroyAll hs) := by
  induction hs generalizing t with
  | nil => exact h
  | cons x xs ih => exact ih (h.destroy x)

theorem resizeAll (h : Stocks s t) (rs : List (Handle × Nat)) : Stocks s (t.resizeAll rs).2 := by
  induction rs generalizing t with
  | nil => exact h
  | cons r rs ih =>
      simp only [Session.resizeAll]
      have hr := h.resize r.1 r.2
      split <;> rename_i he
      · rw [he] at hr; exact hr
      · rw [he] at hr; exact ih hr

theorem history (h : Stocks s t) :
    ∃ made, t.history = s.history ++ made ∧ ∀ m ∈ made, m.event.isStock = true := by
  have extend {α : Type} {made : List (Moment σ)} {t : Session σ} {r : Reply σ α} {ev : α → Event}
      (hm : t.history = s.history ++ made) (hs : ∀ m ∈ made, m.event.isStock = true)
      (he : ∀ a, (ev a).isStock = true) : ∃ made', (t.absorb r ev).2.history = s.history ++ made' ∧
        ∀ m ∈ made', m.event.isStock = true := by
    rcases absorb_history t r ev with h | ⟨a, h⟩
    · exact ⟨made, h.trans hm, hs⟩
    · refine ⟨made ++ [⟨ev a, _⟩], by rw [h, hm, List.append_assoc], ?_⟩
      intro m hmem
      rcases List.mem_append.mp hmem with old | new
      · exact hs m old
      · rw [List.mem_singleton.mp new]; exact he a
  induction h with
  | refl => exact ⟨[], by simp, by simp⟩
  | allocate role fields kind hint _ ih =>
      obtain ⟨made, hm, hs⟩ := ih
      exact extend hm hs fun _ => rfl
  | resize h n _ ih =>
      obtain ⟨made, hm, hs⟩ := ih
      exact extend hm hs fun _ => rfl
  | upload h x _ ih =>
      obtain ⟨made, hm, hs⟩ := ih
      exact extend hm hs fun _ => rfl
  | @destroy t h _ ih =>
      obtain ⟨made, hm, hs⟩ := ih
      refine ⟨made ++ [⟨.destroyed h, (t.destroy h).device⟩], ?_, ?_⟩
      · rw [← List.append_assoc, ← hm]; rfl
      · intro m hmem
        rcases List.mem_append.mp hmem with old | new
        · exact hs m old
        · rw [List.mem_singleton.mp new]; rfl
  | alike h _ ih => rw [h.history]; exact ih
  | withContext _ _ ih => exact ih

/-- What all calls keep of a device, they keep together. -/
theorem device {P : σ → Prop} (h : Stocks s t) (keeps : RegistryKeeps P) (hs : P s.device) :
    P t.device := by
  induction h with
  | refl => exact hs
  | allocate role fields kind hint _ ih =>
      rw [Session.allocate, absorb_device]; exact keeps.allocate _ _ _ _ _ ih
  | resize h n _ ih => rw [Session.resize, absorb_device]; exact keeps.resize _ _ _ ih
  | upload h x _ ih => rw [Session.upload, absorb_device]; exact keeps.upload _ _ _ ih
  | destroy h _ ih => exact keeps.destroy _ _ ih
  | alike h _ ih => rw [h.device]; exact ih
  | withContext _ _ ih => exact ih

theorem sound [LawfulRegistry σ] (h : Stocks s t) (hs : s.Sound) : t.Sound :=
  h.device Device.registryKeeps_sound hs

end Stocks

theorem sound_of_allocate [LawfulRegistry σ] {s t : Session σ} {role : Role} {fields : List Field} {kind : Kind}
    {hint : UsageHint} {result : Except Error Handle} (sound : s.Sound)
    (he : s.allocate role fields kind hint = (result, t)) : t.Sound := by
  have hs := (Stocks.refl s).allocate role fields kind hint
  rw [he] at hs
  exact hs.sound sound

end

/-! ## What tasks do while they are executed -/

section
variable [CommandSink σ]

/-- A session comes from another one by commands. -/
inductive Performs : Session σ → Session σ → Prop
  | refl (s : Session σ) : Performs s s
  | fill {s t : Session σ} (h : Handle) (v : Int32) : Performs s t → Performs s (t.fill h v).2
  | draw {s t : Session σ} (d : Draw) : Performs s t → Performs s (t.draw d).2
  | alike {s t u : Session σ} : Alike t u → Performs s t → Performs s u

namespace Performs
variable {s t u : Session σ}

theorem trans (h : Performs s t) (h' : Performs t u) : Performs s u := by
  induction h' with
  | refl => exact h
  | fill h v _ ih => exact .fill h v ih
  | draw d _ ih => exact .draw d ih
  | alike h _ ih => exact .alike h ih

theorem report (h : Performs s t) (level : LogLevel) (text : String) :
    Performs s (t.report level text) := .alike (alike_report t level text) h

theorem context (h : Performs s t) : t.context = s.context := by
  induction h with
  | refl => rfl
  | fill h v _ ih => rw [Session.fill, absorb_context, ih]
  | draw d _ ih => rw [Session.draw, absorb_context, ih]
  | alike h _ ih => rw [h.context]; exact ih

theorem history (h : Performs s t) :
    ∃ made, t.history = s.history ++ made ∧ ∀ m ∈ made, m.event.isCommand = true := by
  have extend {made : List (Moment σ)} {t : Session σ} {m : Moment σ}
      (hm : t.history = s.history ++ made) (hms : ∀ m ∈ made, m.event.isCommand = true)
      (hn : m.event.isCommand = true) : ∃ made', t.history ++ [m] = s.history ++ made' ∧
        ∀ m ∈ made', m.event.isCommand = true := by
    refine ⟨made ++ [m], by rw [hm, List.append_assoc], ?_⟩
    intro x hx
    rcases List.mem_append.mp hx with old | new
    · exact hms x old
    · rw [List.mem_singleton.mp new]; exact hn
  induction h with
  | refl => exact ⟨[], by simp, by simp⟩
  | @fill t h v _ ih =>
      obtain ⟨made, hm, hms⟩ := ih
      rcases absorb_history t (CommandSink.fill t.device h v) fun _ => .filled h v with he | ⟨_, he⟩
      · exact ⟨made, he.trans hm, hms⟩
      · rw [Session.fill, he]
        exact extend hm hms rfl
  | @draw t d _ ih =>
      obtain ⟨made, hm, hms⟩ := ih
      rcases absorb_history t (CommandSink.draw t.device d) fun _ => .drew d with he | ⟨_, he⟩
      · exact ⟨made, he.trans hm, hms⟩
      · rw [Session.draw, he]
        exact extend hm hms rfl
  | alike h _ ih => rw [h.history]; exact ih

theorem device {P : σ → Prop} (h : Performs s t) (keep : CommandsKeep P) (hs : P s.device) :
    P t.device := by
  induction h with
  | refl => exact hs
  | fill h v _ ih => rw [Session.fill, absorb_device]; exact keep.fill _ _ _ ih
  | draw d _ ih => rw [Session.draw, absorb_device]; exact keep.draw _ _ ih
  | alike h _ ih => rw [h.device]; exact ih

section
variable [Registry σ] [LawfulDevice σ]

theorem sound (h : Performs s t) (hs : s.Sound) : t.Sound := h.device Device.commandsKeep_sound hs

theorem room (h : Performs s t) : t.room = s.room :=
  h.device (Device.commandsKeep_capacity? (Registry.capacity? s.device)) rfl

end

end Performs

end

end Session

end Transparency.Frame

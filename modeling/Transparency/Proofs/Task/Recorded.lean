import Transparency.Proofs.Frame.Quiet
import Transparency.Proofs.Task.Turns

/-!
# What the device records

While tasks are executed, the device records an operation for each command that is carried out, in order, and
nothing else: what the history says was done on the device was done on it.
-/

namespace Transparency.Device
open Buffer (Handle)

/-- What a device records of a draw. -/
def Operation.ofDraw (draw : Draw) : Operation :=
  .drawn draw.label draw.shader.hash draw.state (draw.buffers.map (·.buffer.role)) draw.targets

theorem Recorder.draw_cases (d : Recorder) (c : Draw) :
    (∃ e, d.draw c = .fail e d) ∨
    d.draw c = .done { d with operations := d.operations ++ [.ofDraw c] } := by
  unfold Recorder.draw
  split
  · exact Or.inl ⟨_, rfl⟩
  · exact Or.inr rfl

namespace Faulty
variable (f : Faulty Recorder)

/-- A command fails and leaves the device as it is, or it is carried out on the device. -/
theorem fill_cases (x : Handle) (v : Int32) :
    (∃ e d, CommandSink.fill f x v = .fail e d ∧ d.device = f.device) ∨
    ∃ b d, f.device.buffer? x = some b ∧ CommandSink.fill f x v = .done d ∧ d.device =
      f.device.update x { b with contents := .filled v b.capacity } (.filled b.role v b.capacity) := by
  simp only [CommandSink.fill]
  rcases f.attempt_cases (.fill x.role) (fun d => d.fill x v) with ⟨e, h⟩ | h
  · exact Or.inl ⟨e, _, h, rfl⟩
  · rcases f.device.fill_cases x v with ⟨e, hf⟩ | ⟨b, known, hf⟩
    · rw [hf] at h
      exact Or.inl ⟨e, _, h, rfl⟩
    · rw [hf] at h
      exact Or.inr ⟨b, _, known, h, rfl⟩

theorem draw_cases (c : Draw) :
    (∃ e d, CommandSink.draw f c = .fail e d ∧ d.device = f.device) ∨
    ∃ d, CommandSink.draw f c = .done d ∧
      d.device = { f.device with operations := f.device.operations ++ [.ofDraw c] } := by
  simp only [CommandSink.draw]
  rcases f.attempt_cases .draw (fun d => d.draw c) with ⟨e, h⟩ | h
  · exact Or.inl ⟨e, _, h, rfl⟩
  · rcases f.device.draw_cases c with ⟨e, hc⟩ | hc
    · rw [hc] at h
      exact Or.inl ⟨e, _, h, rfl⟩
    · rw [hc] at h
      exact Or.inr ⟨_, h, rfl⟩

end Faulty

end Transparency.Device

namespace Transparency.Frame
open Buffer (Handle)
open Device (CommandSink Recorder Faulty Operation Reply)

/-- What the device recorded at a moment at which a command was carried out. -/
def Moment.operation? (m : Moment (Faulty Recorder)) : Option Operation :=
  match m.event with
  | .filled x value => (m.device.device.buffer? x).map fun b => .filled b.role value b.capacity
  | .drew draw => some (.ofDraw draw)
  | _ => none

namespace Session
variable {s t u : Session (Faulty Recorder)} {made made' : List (Moment (Faulty Recorder))}

/-- The history of a session goes on, and the device records the commands in it. -/
structure Records (s t : Session (Faulty Recorder)) (made : List (Moment (Faulty Recorder))) : Prop where
  history : t.history = s.history ++ made
  operations : t.device.device.operations = s.device.device.operations ++ made.filterMap (·.operation?)

theorem records_of_alike (h : Alike s t) : Records s t [] where
  history := h.history.trans (List.append_nil _).symm
  operations := by rw [h.device, List.filterMap_nil, List.append_nil]

theorem Records.trans (h : Records s t made) (h' : Records t u made') : Records s u (made ++ made') where
  history := by rw [h'.history, h.history, List.append_assoc]
  operations := by rw [h'.operations, h.operations, List.filterMap_append, List.append_assoc]

theorem Records.alike (h : Records s t made) (ha : Alike t u) : Records s u made := by
  have hu := h.trans (records_of_alike ha)
  rwa [List.append_nil] at hu

/-- The history tells what is recorded. -/
theorem Records.of_history (h : Records s t made) (hm : t.history = s.history ++ made') : Records s t made' := by
  obtain rfl := List.append_cancel_left (h.history.symm.trans hm)
  exact h

/-- A note about something that is no command leaves no record. -/
theorem records_note (s : Session (Faulty Recorder)) (event : Event) (quiet : event.isCommand = false) :
    Records s (s.note event) [⟨event, s.device⟩] where
  history := rfl
  operations := by
    have none : Moment.operation? ⟨event, s.device⟩ = none := by
      cases event <;> first | rfl | cases quiet
    rw [List.filterMap_cons_none none, List.filterMap_nil, List.append_nil]
    rfl

/-- A call that fails leaves neither event nor record. -/
theorem records_absorb_fail {e : Error} {d : Faulty Recorder} {event : Unit → Event}
    (same : d.device = s.device.device) : Records s (s.absorb (.fail e d) event).2 [] where
  history := (List.append_nil _).symm
  operations := by
    rw [List.filterMap_nil, List.append_nil, ← same]
    rfl

theorem records_absorb_done {d : Faulty Recorder} {event : Unit → Event} {o : Operation}
    (recorded : Moment.operation? ⟨event (), d⟩ = some o)
    (added : d.device.operations = s.device.device.operations ++ [o]) :
    Records s (s.absorb (.done d) event).2 [⟨event (), d⟩] where
  history := rfl
  operations := by
    rw [List.filterMap_cons_some recorded, List.filterMap_nil, ← added]
    rfl

theorem exists_records_fill (s : Session (Faulty Recorder)) (x : Handle) (v : Int32) :
    ∃ made, Records s (s.fill x v).2 made := by
  rw [fill]
  rcases s.device.fill_cases x v with ⟨e, d, he, same⟩ | ⟨b, d, -, he, hd⟩
  · rw [he]
    exact ⟨_, records_absorb_fail same⟩
  · rw [he]
    refine ⟨_, records_absorb_done ?_ (by rw [hd]; rfl)⟩
    simp only [Moment.operation?, hd]
    exact congrArg (Option.map _) (Recorder.buffer?_update_self _ _ _ _)

theorem exists_records_draw (s : Session (Faulty Recorder)) (c : Draw) :
    ∃ made, Records s (s.draw c).2 made := by
  rw [draw]
  rcases s.device.draw_cases c with ⟨e, d, he, same⟩ | ⟨d, he, hd⟩
  · rw [he]
    exact ⟨_, records_absorb_fail same⟩
  · rw [he]
    exact ⟨_, records_absorb_done rfl (by rw [hd])⟩

theorem Performs.exists_records (h : Performs s t) : ∃ made, Records s t made := by
  induction h with
  | refl => exact ⟨[], records_of_alike (.refl s)⟩
  | @fill t x v _ ih =>
      obtain ⟨made, hm⟩ := ih
      obtain ⟨_, hf⟩ := t.exists_records_fill x v
      exact ⟨_, hm.trans hf⟩
  | @draw t c _ ih =>
      obtain ⟨made, hm⟩ := ih
      obtain ⟨_, hd⟩ := t.exists_records_draw c
      exact ⟨_, hm.trans hd⟩
  | alike ha _ ih =>
      obtain ⟨made, hm⟩ := ih
      exact ⟨made, hm.alike ha⟩

theorem exists_records_of_clearCounter (h : s.clearCounter = (.ok (), t)) : ∃ made, Records s t made := by
  rcases of_clearCounter_ok h with ⟨-, rfl⟩ | ⟨-, x, u, -, hf, hd, -, hh⟩
  · exact ⟨[], records_of_alike (.refl _)⟩
  · -- the clear is a fill with a note behind it
    obtain ⟨made, hm⟩ := s.exists_records_fill x counterClearValue
    rw [hf] at hm
    have hn := u.records_note (.cleared x) rfl
    refine ⟨made ++ [⟨.cleared x, u.device⟩], ?_, ?_⟩
    · rw [hh, ← List.append_assoc, ← hm.history, (of_absorb_ok hf).2.2.2, List.append_assoc]
      rfl
    · rw [hd]
      exact (hm.trans hn).operations

end Session

end Transparency.Frame

namespace Transparency.Task
open Device (Recorder Faulty)
open Transparency.Frame (Session)
open Transparency.Frame.Session (Records)

/-! ## Turns -/

theorem Producer.exists_records (p : Producer) (s : Session (Faulty Recorder)) :
    ∃ made, Records s (p.execute s).2 made := by
  rcases p.execute_cases s with ⟨-, hp, -⟩ | ⟨-, b, u, -, hc, -, hp⟩
  · exact hp.exists_records
  · obtain ⟨_, hm⟩ := Session.exists_records_of_clearCounter hc
    obtain ⟨_, hr⟩ := hp.exists_records
    exact ⟨_, (hm.trans (u.records_note _ rfl)).trans hr⟩

theorem Resolve.exists_records (r : Resolve) (s : Session (Faulty Recorder)) :
    ∃ made, Records s (r.execute s) made := by
  cases asked : s.context.hasFlag .requestFlag with
  | false => exact ⟨[], Session.records_of_alike (r.execute_of_idle s asked)⟩
  | true =>
      rw [r.execute_of_requested s asked]
      -- the flags that are taken down are no concern of the device
      have hd : Records s (takeDown s) [] := ⟨(List.append_nil _).symm, (List.append_nil _).symm⟩
      split
      · rcases r.drawPass_cases (takeDown s) with ⟨hp, -⟩ | ⟨pass, b, u, -, hu, he⟩
        · obtain ⟨_, hr⟩ := hp.exists_records
          exact ⟨_, hd.trans hr⟩
        · obtain ⟨_, hr⟩ := (takeDown s).exists_records_draw (r.resolveDraw pass b)
          rw [hu] at hr
          rw [he]
          exact ⟨_, (hd.trans hr).trans (u.records_note _ rfl)⟩
      · exact ⟨[], hd⟩

end Transparency.Task

import Transparency.Proofs.Fragment.Labelled
import Transparency.Proofs.Task.Recorded
import Transparency.Proofs.Template.Layouts

/-!
# Tasks on which nothing fails

Where no device call fails and the size is not negative, the task that resolves gets its pass and its
buffers, every producer that asked for the buffers calls its writer, and the fragments are resolved.
-/

namespace Transparency.Fragment.Bundle
open Device (Registry LawfulRegistry Recorder Faulty)
open Transparency.Frame (Session)

theorem prepare_of_quiet (bundle : Bundle) {s : Session (Faulty Recorder)} {requested : Size}
    (quiet : s.device.Quiet) (sound : s.Sound) (nonneg : requested.isNegative = false) :
    ∃ b, (bundle.prepare s requested).bundle.buffers = some b ∧
      (bundle.prepare s requested).session.context = b.publish s.context := by
  cases hb : bundle.buffers with
  | some b =>
      have he : bundle.ensure s = { result := .ok b, bundle, session := s } := by rw [ensure, hb]
      exact ⟨b, prepare_published nonneg (by rw [he]) (by rw [he, hb])⟩
  | none =>
      obtain ⟨b, t, ha⟩ := allocateBuffers_of_willing Faulty.willing_quiet quiet sound
      have he : bundle.ensure s = { result := .ok b, bundle := { buffers := some b }, session := t } := by
        rw [ensure, hb, ha]
      exact ⟨b, prepare_published nonneg (by rw [he]) (by rw [he])⟩

end Transparency.Fragment.Bundle

namespace Transparency.Task.Resolve
open Device (Registry LawfulRegistry Recorder Faulty)
open Transparency.Frame (Session)

variable (r : Resolve) {s : Session (Faulty Recorder)}

theorem ensurePass_of_able (able : s.device.device.Able) :
    ∃ p t, r.ensurePass s = (.ok { r with pass := some p }, t) ∧ Session.Alike s t := by
  rcases r.ensurePass_cases s with ⟨e, he⟩ | h
  · obtain ⟨program, hp⟩ := Shader.resolveProgram_ok
    have features : (Registry.features s.device).fragmentStorage = true := able.fragmentStorage
    rw [ensurePass, features, hp] at he
    split at he <;> cases he
  · exact h

/-- Where nothing fails, a frame that needs the task finds its pass built and its buffers published. -/
theorem prepare_of_quiet (quiet : s.device.Quiet) (sound : s.Sound) (held : r.bundle.Held s)
    (needed : r.isNeeded s.context = true)
    (nonneg : (r.sizeFor (unclear s).context).isNegative = false) :
    ∃ b : Fragment.Buffers, (r.prepare s).1.bundle.buffers = some b ∧ b.HeldIn (r.prepare s).2 ∧
      (r.prepare s).2.context = b.publish (unclear s).context ∧ (r.prepare s).1.pass.isSome = true ∧
      (r.prepare s).1.settings = r.settings := by
  have able : (unclear s).device.device.Able := quiet.able
  obtain ⟨p, t, he, ha⟩ := r.ensurePass_of_able able
  obtain ⟨u, hu, hb, hp, hs, hr⟩ := r.prepare_of_pass s needed he ha
  have hu' : u.device.Quiet ∧ u.Sound := by
    rw [Session.Sound, hu.device]; exact ⟨quiet, sound⟩
  have hheld : r.bundle.Held u := held.keeps (.of_eq hu.room)
  obtain ⟨b, hbuffers, hc⟩ := r.bundle.prepare_of_quiet hu'.1 hu'.2 nonneg
  refine ⟨b, by rw [hb, hbuffers], ?_, ?_, hp, hs⟩
  · exact (hheld.prepare hu'.2 _ b hbuffers).keeps (.of_eq hr.room)
  · rw [hr.context, hc, hu.context]

/-- The buffers that the task has once it is prepared have the roles of their handles. -/
theorem prepare_labelled (sound : s.Sound) (labelled : r.bundle.Labelled s) :
    (r.prepare s).1.bundle.Labelled (r.prepare s).2 := by
  cases hn : r.isNeeded s.context with
  | false =>
      obtain ⟨he, ha⟩ := r.prepare_of_not_isNeeded s hn
      rw [he]
      exact labelled.congr ha.device
  | true =>
      rcases r.prepare_of_isNeeded s hn with ⟨he, ha⟩ | ⟨u, ha, hb, hr⟩
      · rw [he]
        exact labelled.congr ha.device
      · have hu : r.bundle.Labelled u := labelled.congr ha.device
        have hs : u.Sound := ha.sound sound
        rw [hb]
        exact (hu.prepare hs (r.sizeFor (unclear s).context)).congr hr.device

end Transparency.Task.Resolve

namespace Transparency.Fragment.Commands
open Device (CommandSink Reply)
open Transparency.Frame (Session)

variable {σ α : Type}

/-- What a call comes to depends on nothing but its reply. -/
theorem absorb_same (s t : Session σ) (reply : Reply σ α) (event : α → Frame.Event) :
    (t.absorb reply event).1 = (s.absorb reply event).1 ∧
    (t.absorb reply event).2.device = (s.absorb reply event).2.device ∧
    ∃ made, (s.absorb reply event).2.history = s.history ++ made ∧
      (t.absorb reply event).2.history = t.history ++ made := by
  unfold Session.absorb
  cases reply.result with
  | error e => exact ⟨rfl, rfl, [], (List.append_nil _).symm, (List.append_nil _).symm⟩
  | ok a => exact ⟨rfl, rfl, _, rfl, rfl⟩

variable [CommandSink σ]

theorem run_same (commands : Commands) {s t : Session σ} (same : t.device = s.device) :
    ∃ made, (commands.run s).2.history = s.history ++ made ∧
      (commands.run t).2.history = t.history ++ made := by
  induction commands generalizing s t with
  | done result => exact ⟨[], (List.append_nil _).symm, (List.append_nil _).symm⟩
  | fill x v next ih =>
      obtain ⟨result, device, first, hs, ht⟩ :=
        absorb_same s t (CommandSink.fill s.device x v) fun _ => .filled x v
      simp only [run, Session.fill, same]
      rw [result]
      obtain ⟨rest, hs', ht'⟩ := ih _ device
      exact ⟨first ++ rest, by rw [hs', hs, List.append_assoc], by rw [ht', ht, List.append_assoc]⟩
  | draw c next ih =>
      obtain ⟨result, device, first, hs, ht⟩ :=
        absorb_same s t (CommandSink.draw s.device c) fun _ => .drew c
      simp only [run, Session.draw, same]
      rw [result]
      obtain ⟨rest, hs', ht'⟩ := ih _ device
      exact ⟨first ++ rest, by rw [hs', hs, List.append_assoc], by rw [ht', ht, List.append_assoc]⟩

/-- Commands add to a history what they come to on the device alone. -/
theorem history_run (commands : Commands) (s : Session σ) : (commands.run s).2.history =
    s.history ++ (commands.run { device := s.device }).2.history := by
  obtain ⟨made, hs, ht⟩ := commands.run_same (s := s) (t := { device := s.device }) rfl
  rw [hs, ht]
  rfl

end Transparency.Fragment.Commands

namespace Transparency.Task
open Buffer (Handle)
open Device (Recorder Faulty)
open Fragment (Buffers)
open Transparency.Frame (Session Moment counterClearValue)
open Transparency.Frame.Session (Performs)

/-- The context has buffers that are there and have the roles of their handles, and nothing fails. -/
structure Served (b : Buffers) (s : Session (Faulty Recorder)) : Prop where
  published : Buffers.ofContext? s.context = some b
  held : b.HeldIn s
  labelled : b.Labelled s
  quiet : s.device.Quiet

/-- A call of a producer's writer, and what the commands of the writer come to on the device as it is then. -/
def Wrote (b : Buffers) (p : Producer) (made : List (Moment (Faulty Recorder))) : Prop :=
  ∃ d, made = ⟨.wrote p.name b, d⟩ :: ((p.writer.write b).run { device := d }).2.history

variable {b : Buffers} {s t : Session (Faulty Recorder)}

theorem Served.alike (h : Served b s) (ha : Session.Alike s t) : Served b t where
  published := by rw [ha.context, h.published]
  held := h.held.keeps (.of_eq ha.room)
  labelled := h.labelled.congr ha.device
  quiet := by rw [ha.device]; exact h.quiet

theorem Served.performs (h : Served b s) (hp : Performs s t) : Served b t where
  published := by rw [hp.context, h.published]
  held := h.held.keeps (.of_eq hp.room)
  labelled := h.labelled.performs hp
  quiet := hp.device Faulty.commandsKeep_quiet h.quiet

theorem Served.note (h : Served b s) (event : Frame.Event) : Served b (s.note event) where
  published := h.published
  held := h.held.keeps (.of_eq rfl)
  labelled := h.labelled
  quiet := h.quiet

theorem Served.clearCounter (h : Served b s) (down : s.context.hasFlag .clearedFlag = false) :
    ∃ t u, s.clearCounter = (.ok (), t) ∧ Served b t ∧ t.context = s.context.setFlag .clearedFlag ∧
      s.fill b.counter counterClearValue = (.ok (), u) ∧ t.device = u.device ∧
      t.history = s.history ++ [⟨.filled b.counter counterClearValue, u.device⟩,
        ⟨.cleared b.counter, u.device⟩] := by
  have hcounter := Buffers.counter_of_ofContext? h.published
  have live : (s.room b.counter).isSome := h.held.live _ b.counter_mem_toList
  obtain ⟨u, hu⟩ := Session.fill_of_quiet h.quiet live counterClearValue
  have hs : Served b u := by
    have hp := (Performs.refl s).fill b.counter counterClearValue
    rw [hu] at hp
    exact h.performs hp
  obtain ⟨t, hc⟩ := Session.clearCounter_of_unfailing h.quiet.plan hcounter live
  rcases Session.of_clearCounter_ok hc with ⟨up, -⟩ | ⟨-, counter, v, hb, hf, hd, hctx, hh⟩
  · rw [up] at down; cases down
  · rw [hcounter] at hb
    cases hb
    rw [hu] at hf
    cases hf
    have hr : t.room = u.room := Session.room_of_device hd
    refine ⟨t, u, hc, ⟨?_, hs.held.keeps (.of_eq hr), ?_, by rw [hd]; exact hs.quiet⟩, hctx, hu, hd, hh⟩
    · rw [hctx, Buffers.ofContext?_setFlag _ (by decide), h.published]
    · exact hs.labelled.congr hd

/-- A producer that asked for the buffers calls its writer; the first one to do so clears the counter. -/
theorem Served.execute_producer (h : Served b s) {p : Producer} (asked : p.requested = true) :
    ∃ made, Wrote b p made ∧ Served b (p.execute s).2 ∧
      ((s.context.hasFlag .clearedFlag = true ∧ (p.execute s).2.context = s.context ∧
          (p.execute s).2.history = s.history ++ made) ∨
        (s.context.hasFlag .clearedFlag = false ∧
          (p.execute s).2.context = s.context.setFlag .clearedFlag ∧
          ∃ u, s.fill b.counter counterClearValue = (.ok (), u) ∧
            (p.execute s).2.history = s.history ++ ([⟨.filled b.counter counterClearValue, u.device⟩,
              ⟨.cleared b.counter, u.device⟩] ++ made))) := by
  cases flag : s.context.hasFlag .clearedFlag with
  | true =>
      have hc := Session.clearCounter_of_hasFlag flag
      have ha := (p.execute_of_clear s asked h.published hc).2
      have hp := (p.writer.write b).run_performs (s.note (.wrote p.name b))
      refine ⟨_, ⟨s.device, rfl⟩, ((h.note _).performs hp).alike ha,
        Or.inl ⟨rfl, ha.context.trans hp.context, ?_⟩⟩
      rw [ha.history, Fragment.Commands.history_run, Session.note, List.append_assoc]
      rfl
  | false =>
      obtain ⟨t, u, hc, ht, hctx, hu, hd, hh⟩ := h.clearCounter flag
      have ha := (p.execute_of_clear s asked h.published hc).2
      have hp := (p.writer.write b).run_performs (t.note (.wrote p.name b))
      refine ⟨_, ⟨t.device, rfl⟩, ((ht.note _).performs hp).alike ha,
        Or.inr ⟨rfl, (ha.context.trans hp.context).trans hctx, u, hu, ?_⟩⟩
      rw [ha.history, Fragment.Commands.history_run, Session.note, hh]
      simp

theorem Served.execute_resolve (h : Served b s) {r : Resolve} (pass : r.pass.isSome = true)
    (enabled : r.settings.enabled = true) (asked : s.context.hasFlag .requestFlag = true) :
    ∃ draw, draw.label = r.name ∧ draw.buffers = b.forReading ∧
      (r.execute s).history = s.history ++
        [⟨.drew draw, (r.execute s).device⟩, ⟨.resolved r.name draw, (r.execute s).device⟩] := by
  obtain ⟨p, hp⟩ := Option.isSome_iff_exists.mp pass
  have hs : Served b (Resolve.takeDown s) :=
    ⟨by simp [Resolve.takeDown, Session.withContext, h.published], h.held.keeps (.of_eq rfl), h.labelled, h.quiet⟩
  have live : ∀ x ∈ (r.resolveDraw p b).buffers, ((Resolve.takeDown s).room x.buffer).isSome := by
    intro x hx
    apply hs.held.live x.buffer
    simp only [Resolve.resolveDraw, Buffers.forReading, Buffers.bindings, List.mem_cons,
      List.not_mem_nil, or_false] at hx
    rcases hx with rfl | rfl | rfl | rfl | rfl <;> simp [Buffers.toList, Buffers.entries]
  obtain ⟨u, hu⟩ := Session.draw_of_quiet hs.quiet live
  obtain ⟨-, -, -, hh⟩ := Session.of_absorb_ok hu
  rw [r.execute_of_requested s asked, enabled, if_pos rfl]
  refine ⟨r.resolveDraw p b, rfl, rfl, ?_⟩
  simp only [Resolve.drawPass, hp, hs.published, hu, Session.note, hh, List.append_assoc]
  rfl

end Transparency.Task

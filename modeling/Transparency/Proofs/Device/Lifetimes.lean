import Transparency.Proofs.Device.Requests
import Transparency.Proofs.Device.Steady

/-!
# The life of a buffer

A device that is asked for one thing after another gives out every number once. As long as a buffer is there it
has room for the most that it was made or resized for; once it was destroyed, every call through its handle fails,
and no call on another handle has a part in this.
-/

namespace Transparency

theorem Table.erase_of_get? {κ ν : Type} [DecidableEq κ] {t : Table κ ν} {key : κ} (h : t.get? key = none) :
    t.erase key = t := by
  refine ext_entries (List.filter_eq_self.mpr fun e he => ?_)
  have other : e.1 ≠ key := fun same => notMem_keys_of_get? h (List.mem_map.mpr ⟨e, he, same⟩)
  simp [other]

namespace Device
open Buffer (Role Kind Field UsageHint Handle Source)

/-! ## Exchanges -/

/-- A call and what the device said to it. -/
structure Exchange where
  request : Request Handle
  answer : Answer

namespace Exchange

/-- The number of the buffer whose room the call may change. -/
def subject? : Exchange → Option Nat
  | ⟨.allocate _ _ _ _ _, .made x⟩ => some x.id
  | ⟨.resize h _, _⟩ | ⟨.destroy h, _⟩ => some h.id
  | _ => none

/-- Whether the buffer with this number was given back. -/
def destroys (id : Nat) : Exchange → Bool
  | ⟨.destroy h, _⟩ => h.id = id
  | _ => false

/-- The elements that the buffer with this number was resized for. -/
def granted? (id : Nat) : Exchange → Option Nat
  | ⟨.resize h n, .done⟩ => if h.id = id then some n else none
  | _ => none

/-- The room behind a number after the call, by the room before it. -/
def room (id : Nat) (before : Option Nat) : Exchange → Option Nat
  | ⟨.allocate _ _ _ kind _, .made x⟩ => if x.id = id then some (initialCapacity kind) else before
  | ⟨.resize h n, .done⟩ => if h.id = id then before.map (max · n) else before
  | ⟨.destroy h, _⟩ => if h.id = id then none else before
  | _ => before

variable {e : Exchange} {id : Nat} {before : Option Nat}

theorem room_of_refused (refused : e.answer.refused = true) (kept : ∀ h, e.request ≠ .destroy h) :
    e.room id before = before := by
  obtain ⟨r, a⟩ := e
  cases a with
  | failed error =>
      cases r with
      | destroy h => exact absurd rfl (kept h)
      | _ => rfl
  | _ => cases refused

theorem room_of_other (other : e.subject? ≠ some id) : e.room id before = before := by
  unfold room
  split <;> first | exact if_neg fun same => other (congrArg some same) | rfl

theorem room_of_issued (issued : ∀ x, e.answer.handle? = some x → x.id ≠ id) : e.room id before =
    if e.destroys id then none else before.map fun n => (e.granted? id).elim n (max n) := by
  obtain ⟨r, a⟩ := e
  cases r with
  | allocate name role fields kind hint =>
      cases a with
      | made x => simpa [room, destroys, granted?] using fun same => absurd same (issued x rfl)
      | _ => simp [room, destroys, granted?]
  | resize h n =>
      cases a with
      | done => by_cases same : h.id = id <;> simp [room, destroys, granted?, same]
      | _ => simp [room, destroys, granted?]
  | destroy h => simp [room, destroys, granted?]
  | _ => simp [room, destroys, granted?]

end Exchange

/-! ## Devices that keep count -/

/-- The laws of a device that gives out every number once, and on which a call through a handle without a buffer
fails and leaves no trace. -/
class AccountableDevice (σ : Type) [Registry σ] [CommandSink σ] [Issuer σ] extends LawfulDevice σ where
  /-- The number of the next handle. -/
  next : σ → Nat
  /-- The targets that a draw needs are known. -/
  Shows : σ → List Target → Prop
  sound_issue {d : σ} (role : Role) (fields : List Field) (kind : Kind) :
    Sound d → Sound (Issuer.issue d role fields kind).2
  lt_next {d : σ} {h : Handle} : Sound d → (Registry.capacity? d h).isSome → h.id < next d
  next_perform {d : σ} (r : Request Handle) : Sound d →
    next d ≤ next (r.perform d).2 ∧ ∀ x, (r.perform d).1.handle? = some x → next d < next (r.perform d).2
  responds {d : σ} (r : Request Handle) : Sound d →
    ((r.perform d).1.refused = true ∧ Registry.capacity? (r.perform d).2 = Registry.capacity? d) ∨
      Follows d (next d) r
  resize_gone {d : σ} {h : Handle} (n : Nat) : Registry.capacity? d h = none →
    Registry.resize d h n = .fail (.unknownBuffer h.role) d
  upload_gone {d : σ} {h : Handle} (s : Source) : Registry.capacity? d h = none →
    Registry.upload d h s = .fail (.unknownBuffer h.role) d
  destroy_gone {d : σ} {h : Handle} : Registry.capacity? d h = none → Registry.destroy d h = d
  fill_gone {d : σ} {h : Handle} (v : Int32) : Registry.capacity? d h = none →
    CommandSink.fill d h v = .fail (.unknownBuffer h.role) d
  draw_gone {d : σ} {c : Draw} {b : Buffer.Binding} : Shows d c.targets →
    (c.buffers.find? fun b => (Registry.capacity? d b.buffer).isNone) = some b →
    CommandSink.draw d c = .fail (.unknownBuffer b.buffer.role) d

section
variable {σ : Type} [Registry σ] [CommandSink σ] [Issuer σ] {d : σ} {r : Request Handle} {i j : Nat}

theorem lt_of_made (follows : Follows d i r) (count : j = i + r.numbers) {x : Handle}
    (made : (r.perform d).1.handle? = some x) : i < j := by
  rw [follows.answer] at made
  have one := (Request.id_of_handle? made).2
  omega

end

namespace Recorder
variable {d : Recorder} {h : Handle}

theorem buffer?_of_gone (gone : Registry.capacity? d h = none) : d.buffer? h = none :=
  Option.map_eq_none_iff.mp gone

instance : AccountableDevice Recorder where
  next := nextId
  Shows _ _ := True
  sound_issue _ _ _ sound id live := Nat.lt_succ_of_lt (sound id live)
  lt_next sound live := sound.lt_of_room live
  next_perform {d} r sound := by
    by_cases serves : d.Serves r
    · have count := (settings_perform serves).2
      exact ⟨by omega, fun x made => lt_of_made (follows sound serves) count made⟩
    · obtain ⟨refused, same⟩ := perform_of_not_serves serves
      rw [same, Answer.handle?_of_refused refused]
      exact ⟨Nat.le_refl _, fun x made => by cases made⟩
  responds {d} r sound := by
    by_cases serves : d.Serves r
    · exact Or.inr (follows sound serves)
    · obtain ⟨refused, same⟩ := perform_of_not_serves serves
      exact Or.inl ⟨refused, congrArg Registry.capacity? same⟩
  resize_gone n gone := by simp only [Registry.resize, Recorder.resize, buffer?_of_gone gone]
  upload_gone s gone := by simp only [Registry.upload, Recorder.upload, buffer?_of_gone gone]
  destroy_gone gone := by simp only [Registry.destroy, Recorder.destroy, buffer?_of_gone gone]
  fill_gone v gone := by simp only [CommandSink.fill, Recorder.fill, buffer?_of_gone gone]
  draw_gone {d c b} _ first := by
    simp only [CommandSink.draw, Recorder.draw, firstUnknown?_buffers, first, Option.map_some]

end Recorder

namespace Limited
variable {d : Limited} {h : Handle}

theorem buffer?_of_gone (gone : Registry.capacity? d h = none) : d.buffer? h = none :=
  Option.map_eq_none_iff.mp gone

/-- All targets that hold colors are registered. -/
def Shows (d : Limited) (targets : List Target) : Prop :=
  ∀ t ∈ targets, t.isDepth = false → t.id ∈ d.targets

theorem firstUnregistered?_of_shows {targets : List Target} (shows : d.Shows targets) :
    d.firstUnregistered? (targets.filter fun t => !t.isDepth) = none := by
  simp only [firstUnregistered?, Option.map_eq_none_iff, List.find?_eq_none, List.mem_filter]
  rintro t ⟨ht, color⟩
  simpa using shows t ht (by simpa using color)

instance : AccountableDevice Limited where
  next := nextId
  Shows := Shows
  sound_issue _ _ _ sound id live := Nat.lt_succ_of_lt (sound id live)
  lt_next sound live := sound.lt_of_room live
  next_perform {d} r sound := by
    have count := d.nextId_perform r
    refine ⟨by omega, fun x made => ?_⟩
    rcases d.refuses_or_follows sound r with ⟨refused, -⟩ | follows
    · rw [Answer.handle?_of_refused refused] at made
      cases made
    · exact lt_of_made follows count made
  responds {d} r sound := d.refuses_or_follows sound r
  resize_gone n gone := by simp only [Registry.resize, Limited.resize, buffer?_of_gone gone]
  upload_gone s gone := by simp only [Registry.upload, Limited.upload, buffer?_of_gone gone]
  destroy_gone {d h} gone := by
    have same : d.buffers.erase h.id = d.buffers := Table.erase_of_get? (buffer?_of_gone gone)
    simp only [Registry.destroy, Limited.destroy, same]
  fill_gone v gone := by simp only [CommandSink.fill, Limited.fill, buffer?_of_gone gone]
  draw_gone {d c b} shows first := by
    simp only [CommandSink.draw, Limited.draw, firstUnregistered?_of_shows shows, firstUnknown?_buffers, first,
      Option.map_some]

end Limited

/-! ## Dialogues -/

/-- The numbers that were given out. -/
def numbers (said : List Exchange) : List Nat := said.filterMap fun e => e.answer.handle?.map (·.id)

theorem numbers_append (said later : List Exchange) : numbers (said ++ later) = numbers said ++ numbers later :=
  List.filterMap_append

/-- The room behind a number that was given out before: the most that it was resized for, until it is destroyed. -/
theorem foldl_room {id : Nat} {later : List Exchange} (issued : id ∉ numbers later) (before : Option Nat) :
    later.foldl (Exchange.room id) before = if later.any (·.destroys id) then none else
      before.map fun n => (later.filterMap (·.granted? id)).foldl max n := by
  induction later generalizing before with
  | nil => simp
  | cons e rest ih =>
      have other : ∀ x, e.answer.handle? = some x → x.id ≠ id := by
        rintro x hx rfl
        simp [numbers, hx] at issued
      have issued : id ∉ numbers rest := fun h => issued (by
        rw [← List.singleton_append, numbers_append]
        exact List.mem_append_right _ h)
      -- once it is destroyed there is nothing left that a resize could enlarge
      rw [List.foldl_cons, Exchange.room_of_issued other, ih issued]
      cases destroyed : e.destroys id with
      | true => simp [destroyed]
      | false => cases granted : e.granted? id <;> simp [destroyed, granted, Function.comp_def]

/-- A device, and what was said to it so far. -/
structure Dialogue (σ : Type) where
  device : σ
  said : List Exchange := []

section
variable {σ : Type} [Registry σ] [CommandSink σ] [Issuer σ] {d : σ} {j : Dialogue σ}

/-- A request, with what the device answers to it. -/
def Request.exchange (d : σ) (r : Request Handle) : Exchange := ⟨r, (r.perform d).1⟩

namespace Dialogue

/-- Asks the device for something; question and answer are taken down. -/
def ask (j : Dialogue σ) (r : Request Handle) : Dialogue σ where
  device := (r.perform j.device).2
  said := j.said ++ [r.exchange j.device]

/-- Asks for one thing after another. -/
def run (j : Dialogue σ) (script : List (Request Handle)) : Dialogue σ := script.foldl ask j

/-- What comes of the device does not depend on what was said before. -/
theorem device_run (j j' : Dialogue σ) (same : j.device = j'.device) (script : List (Request Handle)) :
    (j.run script).device = (j'.run script).device := by
  induction script generalizing j j' with
  | nil => exact same
  | cons r rest ih => exact ih _ _ (by rw [ask, ask, same])

/-- A buffer was made, and this was said later. -/
def Made (j : Dialogue σ) (x : Handle) (kind : Kind) (later : List Exchange) : Prop :=
  ∃ earlier name role fields hint, j.said = earlier ++ ⟨.allocate name role fields kind hint, .made x⟩ :: later

end Dialogue

/-- Every call through a handle fails, and the device stays as it is. -/
structure Gone (shows : List Target → Prop) (d : σ) (x : Handle) : Prop where
  room : Registry.capacity? d x = none
  resize (n : Nat) : (Request.resize x n).perform d = (.failed (.unknownBuffer x.role), d)
  upload (source : Source) : (Request.upload x source).perform d = (.failed (.unknownBuffer x.role), d)
  fill (value : Int32) : (Request.fill x value).perform d = (.failed (.unknownBuffer x.role), d)
  destroy : (Request.destroy x).perform d = (.done, d)
  /-- A draw fails on the first of its buffers that is not there. -/
  draw (label : String) (shader : Shader.Program) (state : PassState) (slots : List (Slot Handle))
    (targets : List Target) : shows targets → (∃ s ∈ slots, s.buffer = x) →
    ∃ s, (slots.find? fun s => (Registry.capacity? d s.buffer).isNone) = some s ∧
      (Request.draw label shader state slots targets).perform d = (.failed (.unknownBuffer s.buffer.role), d)

/-- What callers can tell of the buffers of a device from what was said. -/
structure Lifetimes (shows : List Target → Prop) (j : Dialogue σ) : Prop where
  /-- A new handle has a number that was not given out before, and that no buffer has. -/
  fresh (r : Request Handle) (x : Handle) : (r.perform j.device).1 = .made x →
    x.id ∉ numbers j.said ∧ Registry.capacity? j.device x = none
  /-- A buffer that was not destroyed has room for the most that it was made or resized for. -/
  live (x : Handle) (kind : Kind) (later : List Exchange) : j.Made x kind later →
    (∀ e ∈ later, e.destroys x.id = false) →
    Registry.capacity? j.device x = some ((later.filterMap (·.granted? x.id)).foldl max (initialCapacity kind))
  /-- No buffer ever shrinks. -/
  grows (x : Handle) (m n : Nat) (script : List (Request Handle)) : Registry.capacity? j.device x = some m →
    Registry.capacity? (j.run script).device x = some n → m ≤ n
  /-- A buffer that was destroyed stays so, whatever else is made. -/
  gone (x : Handle) (kind : Kind) (later : List Exchange) : j.Made x kind later →
    (∃ e ∈ later, e.destroys x.id = true) → ∀ y : Handle, y.id = x.id → Gone shows j.device y
  /-- A call changes the room of no buffer but its own. -/
  apart (r : Request Handle) (y : Handle) : (r.exchange j.device).subject? ≠ some y.id →
    Registry.capacity? (r.perform j.device).2 y = Registry.capacity? j.device y

/-! ## What a call does -/

variable [AccountableDevice σ]
open LawfulRegistry (Sound)
open AccountableDevice (next Shows)

theorem room_perform (sound : Sound d) (r : Request Handle) (x : Handle) :
    Registry.capacity? (r.perform d).2 x = (r.exchange d).room x.id (Registry.capacity? d x) := by
  rcases AccountableDevice.responds r sound with ⟨refused, same⟩ | follows
  · rw [same, Exchange.room_of_refused refused]
    -- a buffer is never refused to be given back
    rintro h rfl
    cases refused
  · rw [follows.rooms, Request.exchange, follows.answer]
    cases r with
    | allocate name role fields kind hint => simp [Request.after, Request.answer, Exchange.room, eq_comm]
    | resize h n =>
        simp only [Request.after, Request.answer, Request.answerFor]
        by_cases same : h.id = x.id
        · rw [LawfulRegistry.capacity?_congr d same]
          cases Registry.capacity? d x <;> simp [Exchange.room, same]
        · rw [if_neg (Ne.symm same), Exchange.room_of_other (by simpa [Exchange.subject?] using same)]
    | destroy h => simp [Request.after, Exchange.room, eq_comm]
    | _ => simp [Request.after, Exchange.room]

theorem room_perform_other (sound : Sound d) {r : Request Handle} {y : Handle}
    (other : (r.exchange d).subject? ≠ some y.id) :
    Registry.capacity? (r.perform d).2 y = Registry.capacity? d y := by
  rw [room_perform sound, Exchange.room_of_other other]

theorem AccountableDevice.sound_perform (sound : Sound d) (r : Request Handle) : Sound (r.perform d).2 :=
  Device.sound_perform (fun role fields kind => sound_issue role fields kind sound) sound r

theorem id_of_made (sound : Sound d) {r : Request Handle} {x : Handle} (made : (r.perform d).1 = .made x) :
    x.id = next d := by
  rcases AccountableDevice.responds r sound with ⟨refused, -⟩ | follows
  · rw [made] at refused
    cases refused
  · exact (Request.id_of_handle? (by rw [← follows.answer, made]; rfl)).1

theorem room_of_made (sound : Sound d) {r : Request Handle} {x : Handle} (made : (r.perform d).1 = .made x) :
    Registry.capacity? d x = none := by
  refine Option.not_isSome_iff_eq_none.mp fun live => ?_
  have used := AccountableDevice.lt_next sound live
  rw [id_of_made sound made] at used
  exact Nat.lt_irrefl _ used

/-- A number that was given out before does not get a buffer again. -/
theorem room_perform_of_gone (sound : Sound d) (r : Request Handle) {x : Handle} (issued : x.id < next d)
    (gone : Registry.capacity? d x = none) : Registry.capacity? (r.perform d).2 x = none := by
  have other : ∀ y, (r.exchange d).answer.handle? = some y → y.id ≠ x.id := by
    intro y hy
    rw [id_of_made sound (Answer.handle?_eq_some.mp hy)]
    exact Nat.ne_of_gt issued
  rw [room_perform sound, Exchange.room_of_issued other, gone, Option.map_none, ite_self]

theorem gone_of_room {x : Handle} (room : Registry.capacity? d x = none) : Gone (Shows d) d x where
  room
  resize n := by rw [Request.perform, AccountableDevice.resize_gone n room]; rfl
  upload source := by rw [Request.perform, AccountableDevice.upload_gone source room]; rfl
  fill value := by rw [Request.perform, AccountableDevice.fill_gone value room]; rfl
  destroy := by rw [Request.perform, AccountableDevice.destroy_gone room]
  draw label shader state slots targets shows bound := by
    obtain ⟨s, hs, rfl⟩ := bound
    cases first : slots.find? fun s => (Registry.capacity? d s.buffer).isNone with
    | none => simpa [room] using List.find?_eq_none.mp first s hs
    | some dead =>
        have first : ((slots.map (·.bound)).find? fun b => (Registry.capacity? d b.buffer).isNone) =
            some dead.bound := by
          rw [List.find?_map, Function.comp_def]
          exact congrArg (Option.map (·.bound)) first
        refine ⟨dead, rfl, ?_⟩
        rw [Request.perform, AccountableDevice.draw_gone shows first]
        rfl

/-! ## What a dialogue does -/

/-- The device came to its rooms through what was said. -/
structure Reached (d : σ) (j : Dialogue σ) : Prop where
  sound : Sound j.device
  rooms (x : Handle) : Registry.capacity? j.device x = j.said.foldl (Exchange.room x.id) (Registry.capacity? d x)
  issued : ∀ id ∈ numbers j.said, next d ≤ id ∧ id < next j.device
  next_le : next d ≤ next j.device
  distinct : (numbers j.said).Nodup

theorem Reached.start (sound : Sound d) : Reached d { device := d } where
  sound
  rooms _ := rfl
  issued _ h := by cases h
  next_le := Nat.le_refl _
  distinct := List.nodup_nil

theorem numbers_ask (sound : Sound j.device) (r : Request Handle) :
    numbers (j.ask r).said = numbers j.said ∨
    (numbers (j.ask r).said = numbers j.said ++ [next j.device] ∧ next j.device < next (j.ask r).device) := by
  rw [Dialogue.ask, numbers_append]
  cases said : (r.perform j.device).1 with
  | made x =>
      refine Or.inr ⟨?_, (AccountableDevice.next_perform r sound).2 x (congrArg Answer.handle? said)⟩
      rw [← id_of_made sound said]
      simp [numbers, Request.exchange, said, Answer.handle?]
  | _ => exact Or.inl (by simp [numbers, Request.exchange, said, Answer.handle?])

theorem Reached.ask (reached : Reached d j) (r : Request Handle) : Reached d (j.ask r) := by
  have le : next j.device ≤ next (j.ask r).device := (AccountableDevice.next_perform r reached.sound).1
  refine ⟨AccountableDevice.sound_perform reached.sound r, fun x => ?rooms, ?issued,
    Nat.le_trans reached.next_le le, ?distinct⟩
  case rooms =>
    simp only [Dialogue.ask, List.foldl_append, List.foldl_cons, List.foldl_nil, ← reached.rooms]
    exact room_perform reached.sound r x
  case issued =>
    intro id h
    rcases numbers_ask reached.sound r with same | ⟨more, lt⟩
    · rw [same] at h
      obtain ⟨lower, upper⟩ := reached.issued id h
      exact ⟨lower, Nat.lt_of_lt_of_le upper le⟩
    · rw [more, List.mem_append, List.mem_singleton] at h
      rcases h with h | rfl
      · obtain ⟨lower, upper⟩ := reached.issued id h
        exact ⟨lower, Nat.lt_of_lt_of_le upper le⟩
      · exact ⟨reached.next_le, lt⟩
  case distinct =>
    rcases numbers_ask reached.sound r with same | ⟨more, -⟩
    · rw [same]
      exact reached.distinct
    · rw [more, List.nodup_append]
      refine ⟨reached.distinct, by simp, fun id h last hlast => ?_⟩
      rw [List.mem_singleton.mp hlast]
      exact Nat.ne_of_lt (reached.issued id h).2

theorem Reached.run (reached : Reached d j) (script : List (Request Handle)) : Reached d (j.run script) := by
  induction script generalizing j with
  | nil => exact reached
  | cons r rest ih => exact ih (reached.ask r)

namespace Reached

theorem room_of_made (reached : Reached d j) {x : Handle} {kind : Kind} {later : List Exchange}
    (made : j.Made x kind later) : Registry.capacity? j.device x =
      if later.any (·.destroys x.id) then none else
        some ((later.filterMap (·.granted? x.id)).foldl max (initialCapacity kind)) := by
  obtain ⟨earlier, name, role, fields, hint, said⟩ := made
  have distinct := reached.distinct
  rw [said, numbers_append, ← List.singleton_append, numbers_append] at distinct
  -- no number comes twice, so that nothing said later is about another buffer
  have issued : x.id ∉ numbers later := by
    have own : numbers [⟨.allocate name role fields kind hint, .made x⟩] = [x.id] := rfl
    rw [own, List.singleton_append] at distinct
    exact (List.nodup_cons.mp (List.nodup_append.mp distinct).2.1).1
  rw [reached.rooms, said, List.foldl_append, List.foldl_cons, foldl_room issued]
  simp [Exchange.room]

theorem lifetimes (reached : Reached d j) : Lifetimes (Shows j.device) j where
  fresh r x made := by
    refine ⟨fun used => ?_, Device.room_of_made reached.sound made⟩
    have lt := (reached.issued x.id used).2
    rw [id_of_made reached.sound made] at lt
    exact Nat.lt_irrefl _ lt
  live x kind later made kept := by
    have kept : later.any (·.destroys x.id) = false := List.any_eq_false.mpr (by simpa using kept)
    rw [reached.room_of_made made, kept]
    rfl
  grows x m n script before after := by
    have live : (Registry.capacity? j.device x).isSome := by rw [before]; rfl
    have used := AccountableDevice.lt_next reached.sound live
    -- the same calls on the device as it is, so that only what is said from here on counts
    have onward := (Reached.start reached.sound).run script
    rw [Dialogue.device_run j { device := j.device } rfl] at after
    have issued : x.id ∉ numbers (Dialogue.run { device := j.device } script).said := fun h =>
      Nat.lt_irrefl _ (Nat.lt_of_lt_of_le used (onward.issued x.id h).1)
    rw [onward.rooms, before, foldl_room issued] at after
    split at after
    · cases after
    · cases after
      dsimp only
      rw [List.foldl_max]
      exact Nat.le_max_left _ _
  gone x kind later made lost y same := by
    refine gone_of_room ?_
    rw [LawfulRegistry.capacity?_congr _ same, reached.room_of_made made, if_pos (List.any_eq_true.mpr lost)]
  apart r y other := room_perform_other reached.sound other

end Reached

end

/-- Whatever is asked of either device, its buffers have the room that they were made and resized for until they
are destroyed, and are gone from then on. -/
theorem lifetimes_run (script : List (Request Handle)) :
    (∀ d : Recorder, Lifetimes (fun _ => True) (Dialogue.run { device := { d with buffers := .empty } } script)) ∧
    ∀ d : Limited, let j := Dialogue.run { device := { d with buffers := .empty } } script
      Lifetimes (fun targets => ∀ t ∈ targets, t.isDepth = false → t.id ∈ j.device.targets) j := by
  refine ⟨fun d => ?_, fun d => ?_⟩
  · have sound : LawfulRegistry.Sound { d with buffers := .empty } := fun id live => by cases live
    exact ((Reached.start sound).run script).lifetimes
  · have sound : LawfulRegistry.Sound { d with buffers := .empty } := fun id live => by cases live
    exact ((Reached.start sound).run script).lifetimes

/-- With elements of sixteen bytes, 64 bytes are enough for three of them and not for five. -/
example : Registry.capacity? (Dialogue.run { device := Limited.ofLimits { bufferSize := 64 } 8 }
    [.allocate 0 .data [⟨"color", .float32x4⟩] .storage {}, .resize ⟨1, .data, .storage, []⟩ 3,
      .resize ⟨1, .data, .storage, []⟩ 5]).device ⟨1, .data, .storage, []⟩ = some 3 := by rfl

end Device

end Transparency

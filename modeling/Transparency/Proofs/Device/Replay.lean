import Mathlib.Data.List.Infix
import Mathlib.Data.List.Nodup
import Mathlib.Logic.Function.Basic
import Transparency.Proofs.Device.Lifetimes
import Transparency.Proofs.Device.Refinement

/-!
# The record tells the whole story

As long as no two buffers of the recording device share a role, its buffers can be told from its record alone,
whenever parts of the record are taken out: with their room and all that they hold.
-/

namespace Transparency.Device
open Buffer (Role Kind Field UsageHint Handle Source)

/-! ## Reading a record -/

/-- What is known of a buffer. -/
structure Stored where
  capacity : Nat
  bytes : List UInt8

/-- The buffers by their roles. -/
abbrev Shelf := Role → Option Stored

/-- What an operation makes of the buffers, if it fits them. -/
def Operation.replay (shelf : Shelf) : Operation → Option Shelf
  | allocated role _ capacity =>
    if (shelf role).isSome then none else some (Function.update shelf role (some ⟨capacity, []⟩))
  | resized role before after => (shelf role).bind fun stored =>
    if stored.capacity = before ∧ before < after then
      some (Function.update shelf role (some ⟨after, []⟩))
    else none
  | uploaded role bytes => (shelf role).map fun stored =>
    Function.update shelf role (some { stored with bytes })
  | destroyed role => (shelf role).map fun _ => Function.update shelf role none
  | filled role value elements => (shelf role).bind fun stored =>
    if elements = stored.capacity then
      some (Function.update shelf role (some ⟨elements, (List.replicate elements (Bytes.ofInt32 value)).flatten⟩))
    else none
  | drawn _ _ _ roles _ => if ∀ role ∈ roles, (shelf role).isSome then some shelf else none

/-- What a whole record makes of no buffers, if each operation fits those before it. -/
def replay (operations : List Operation) : Option Shelf := operations.foldlM Operation.replay fun _ => none

/-! ## Buffers told apart by their roles -/

/-- What is stored for a buffer of the device. -/
def RecordedBuffer.stored (b : RecordedBuffer) : Stored := ⟨b.capacity, b.contents.toBytes⟩

/-- No two buffers share a role. -/
def DistinctRoles (t : Table Nat RecordedBuffer) : Prop := (t.entries.map (·.2.role)).Nodup

instance (t : Table Nat RecordedBuffer) : Decidable (DistinctRoles t) :=
  inferInstanceAs (Decidable (List.Nodup _))

/-- A buffer may stand at a number: it has the role of the one that stands there, if there is one. -/
def Replaces (t : Table Nat RecordedBuffer) (id : Nat) (b : RecordedBuffer) : Prop :=
  ∀ old, t.get? id = some old → b.role = old.role

/-- The shelf holds exactly the buffers of the table. -/
def Mirrors (t : Table Nat RecordedBuffer) (shelf : Shelf) : Prop :=
  ∀ role stored, shelf role = some stored ↔ ∃ id b, t.get? id = some b ∧ b.role = role ∧ b.stored = stored

section
variable {t : Table Nat RecordedBuffer} {shelf : Shelf} {id id' : Nat} {b b' : RecordedBuffer}

theorem Replaces.of_none (fresh : t.get? id = none) : Replaces t id b := by
  intro old known
  rw [fresh] at known
  cases known

theorem Replaces.of_some (known : t.get? id = some b) (same : b'.role = b.role) : Replaces t id b' := by
  intro old h
  rw [known] at h
  cases h
  exact same

theorem DistinctRoles.id_eq (distinct : DistinctRoles t) (known : t.get? id = some b)
    (known' : t.get? id' = some b') (same : b.role = b'.role) : id = id' := by
  obtain ⟨_, _, split, -⟩ := List.lookup_eq_some_iff.mp known
  obtain ⟨_, _, split', -⟩ := List.lookup_eq_some_iff.mp known'
  have mem : (id, b) ∈ t.entries := by simp [split]
  have mem' : (id', b') ∈ t.entries := by simp [split']
  exact congrArg Prod.fst (List.inj_on_of_nodup_map distinct mem mem' same)

namespace Mirrors

theorem empty : Mirrors .empty fun _ => none := by
  rintro role stored
  simp [Table.get?, Table.empty]

theorem shelf_eq (mirrors : Mirrors t shelf) (known : t.get? id = some b) : shelf b.role = some b.stored :=
  (mirrors b.role b.stored).mpr ⟨id, b, known, rfl, rfl⟩

theorem shelf_eq_none (mirrors : Mirrors t shelf) (fresh : t.get? id = none)
    (distinct : DistinctRoles (t.insert id b)) : shelf b.role = none := by
  -- a buffer of that role would share it with the new one
  refine Option.eq_none_iff_forall_ne_some.mpr fun stored h => ?_
  obtain ⟨id', b', known, role, -⟩ := (mirrors b.role stored).mp h
  have other : id' ≠ id := by
    rintro rfl
    rw [fresh] at known
    cases known
  refine other (distinct.id_eq ?_ ?_ role)
  · rw [Table.get?_insert, if_neg other, known]
  · rw [Table.get?_insert, if_pos rfl]

theorem insert (mirrors : Mirrors t shelf) (distinct : DistinctRoles (t.insert id b))
    (replaces : Replaces t id b) :
    Mirrors (t.insert id b) (Function.update shelf b.role (some b.stored)) := by
  have here : (t.insert id b).get? id = some b := by rw [Table.get?_insert, if_pos rfl]
  intro role stored
  by_cases own : role = b.role
  · subst own
    rw [Function.update_self, Option.some.injEq]
    refine ⟨fun h => ⟨id, b, here, rfl, h⟩, ?_⟩
    rintro ⟨id', b', known, role, rfl⟩
    obtain rfl := distinct.id_eq known here role
    rw [here] at known
    cases known
    rfl
  · rw [Function.update_of_ne own, mirrors role stored]
    -- neither the old buffer at this number nor the new one has this role
    refine exists_congr fun id' => exists_congr fun b' => and_congr_left fun ⟨role', _⟩ => ?_
    rw [Table.get?_insert]
    split
    · subst id'
      refine ⟨fun known => absurd (role'.symm.trans (replaces b' known).symm) own, ?_⟩
      rintro ⟨⟩
      exact absurd role'.symm own
    · exact Iff.rfl

theorem erase (mirrors : Mirrors t shelf) (distinct : DistinctRoles t) (known : t.get? id = some b) :
    Mirrors (t.erase id) (Function.update shelf b.role none) := by
  intro role stored
  simp only [Table.get?_erase]
  by_cases own : role = b.role
  · subst own
    rw [Function.update_self]
    refine ⟨(by rintro ⟨⟩), ?_⟩
    rintro ⟨id', b', left, role, -⟩
    split at left
    · cases left
    · rename_i other
      exact absurd (distinct.id_eq left known role) other
  · rw [Function.update_of_ne own, mirrors role stored]
    refine exists_congr fun id' => exists_congr fun b' => and_congr_left fun ⟨role', _⟩ => ?_
    split
    · subst id'
      rw [known]
      refine ⟨?_, fun h => by cases h⟩
      rintro ⟨⟩
      exact absurd role'.symm own
    · exact Iff.rfl

end Mirrors

end

/-! ## What a call adds to the record -/

/-- What a call does to the buffers, with what it adds to the record. -/
inductive Effect (t : Table Nat RecordedBuffer) : List Operation → Table Nat RecordedBuffer → Prop
  | quiet : Effect t [] t
  | allocated {id : Nat} (role : Role) (kind : Kind) (fresh : t.get? id = none) :
      Effect t [.allocated role kind (initialCapacity kind)]
        (t.insert id { role, capacity := initialCapacity kind })
  | resized {id n : Nat} {b : RecordedBuffer} (known : t.get? id = some b) (more : b.capacity < n) :
      Effect t [.resized b.role b.capacity n] (t.insert id { b with capacity := n, contents := .none })
  | uploaded {id : Nat} {b : RecordedBuffer} (bytes : List UInt8) (known : t.get? id = some b) :
      Effect t [.uploaded b.role bytes] (t.insert id { b with contents := .bytes bytes })
  | filled {id : Nat} {b : RecordedBuffer} (value : Int32) (known : t.get? id = some b) :
      Effect t [.filled b.role value b.capacity] (t.insert id { b with contents := .filled value b.capacity })
  | destroyed {id : Nat} {b : RecordedBuffer} (known : t.get? id = some b) :
      Effect t [.destroyed b.role] (t.erase id)
  | drawn (label : String) (shader : Hash.Digest) (state : PassState) {roles : List Role}
      (targets : List Target) (live : ∀ role ∈ roles, ∃ id b, t.get? id = some b ∧ b.role = role) :
      Effect t [.drawn label shader state roles targets] t

namespace Effect
variable {t t' : Table Nat RecordedBuffer} {ops : List Operation} {shelf : Shelf} {id : Nat}
  {b b' : RecordedBuffer}

theorem role_of_insert {new : RecordedBuffer} {place : Nat} (before : t.get? id = some b)
    (after : (t.insert place new).get? id = some b') (replaces : Replaces t place new) : b'.role = b.role := by
  rw [Table.get?_insert] at after
  split at after
  · subst id
    cases after
    exact replaces b before
  · rw [before] at after
    cases after
    rfl

theorem role_eq (effect : Effect t ops t') (before : t.get? id = some b) (after : t'.get? id = some b') :
    b'.role = b.role := by
  cases effect with
  | quiet | drawn => rw [before] at after; cases after; rfl
  | allocated role kind fresh => exact role_of_insert before after (.of_none fresh)
  | resized known more => exact role_of_insert before after (.of_some known rfl)
  | uploaded bytes known => exact role_of_insert before after (.of_some known rfl)
  | filled value known => exact role_of_insert before after (.of_some known rfl)
  | destroyed known =>
      rw [Table.get?_erase] at after
      split at after
      · cases after
      · rw [before] at after
        cases after
        rfl

theorem foldlM_replay_singleton (o : Operation) (shelf : Shelf) :
    [o].foldlM Operation.replay shelf = o.replay shelf := by
  rw [List.foldlM_cons]
  exact bind_pure _

/-- What is added to the record fits the buffers, and leads to those after the call. -/
theorem replay (effect : Effect t ops t') (mirrors : Mirrors t shelf) (distinct : DistinctRoles t)
    (distinct' : DistinctRoles t') :
    ∃ shelf', ops.foldlM Operation.replay shelf = some shelf' ∧ Mirrors t' shelf' := by
  cases effect with
  | quiet => exact ⟨shelf, rfl, mirrors⟩
  | allocated role kind fresh =>
      refine ⟨_, ?_, mirrors.insert distinct' (.of_none fresh)⟩
      rw [foldlM_replay_singleton, Operation.replay, mirrors.shelf_eq_none fresh distinct']
      rfl
  | resized known more =>
      refine ⟨_, ?_, mirrors.insert distinct' (.of_some known rfl)⟩
      rw [foldlM_replay_singleton, Operation.replay, mirrors.shelf_eq known]
      exact if_pos ⟨rfl, more⟩
  | uploaded bytes known =>
      refine ⟨_, ?_, mirrors.insert distinct' (.of_some known rfl)⟩
      rw [foldlM_replay_singleton, Operation.replay, mirrors.shelf_eq known]
      rfl
  | filled value known =>
      refine ⟨_, ?_, mirrors.insert distinct' (.of_some known rfl)⟩
      rw [foldlM_replay_singleton, Operation.replay, mirrors.shelf_eq known]
      exact if_pos rfl
  | destroyed known =>
      refine ⟨_, ?_, mirrors.erase distinct known⟩
      rw [foldlM_replay_singleton, Operation.replay, mirrors.shelf_eq known]
      rfl
  | drawn label shader state targets live =>
      refine ⟨shelf, ?_, mirrors⟩
      rw [foldlM_replay_singleton, Operation.replay]
      refine if_pos fun role h => ?_
      obtain ⟨id, b, known, rfl⟩ := live role h
      rw [mirrors.shelf_eq known]
      rfl

end Effect

/-- The handles that a request draws with. -/
def Request.drawn : Request Handle → List Handle
  | draw _ _ _ slots _ => slots.map (·.buffer)
  | _ => []

theorem Reply.result_of_failed {σ : Type} {reply : Reply σ Unit} {e : Error}
    (failed : (reply.outcome fun _ => .done).1 = .failed e) : reply.result = .error e := by
  rw [Reply.outcome] at failed
  cases h : reply.result <;> rw [h] at failed <;> cases failed
  rfl

namespace Recorder
variable {d : Recorder} {q : Request Handle}

/-- A call on one buffer that fails leaves no trace, if it only fails when the buffer is not there. -/
theorem device_of_failed {h : Handle} {reply : RecordedBuffer → Reply Recorder Unit} {e : Error}
    (fine : ∀ b, (reply b).result = .ok ())
    (failed : (match d.buffer? h with
      | none => Reply.fail (.unknownBuffer h.role) d
      | some b => reply b).result = .error e) :
    (match d.buffer? h with
      | none => Reply.fail (.unknownBuffer h.role) d
      | some b => reply b).device = d := by
  cases known : d.buffer? h with
  | none => rfl
  | some b =>
      simp only [known, fine b] at failed
      cases failed

/-- A call that fails leaves no trace. -/
theorem perform_of_failed {e : Error} (failed : (q.perform d).1 = .failed e) : (q.perform d).2 = d := by
  cases q with
  | allocate name role fields kind hint =>
      simp only [Request.perform, Registry.allocate, Recorder.allocate] at failed ⊢
      split at failed
      · rename_i refusing
        rw [if_pos refusing]
        rfl
      · cases failed
  | resize h n => exact device_of_failed (fun b => by split <;> rfl) (Reply.result_of_failed failed)
  | upload h source => exact device_of_failed (fun _ => rfl) (Reply.result_of_failed failed)
  | fill h value => exact device_of_failed (fun _ => rfl) (Reply.result_of_failed failed)
  | draw label shader state slots targets =>
      simp only [Request.perform, CommandSink.draw, Recorder.draw] at failed ⊢
      split at failed
      · rfl
      · cases failed
  | _ => cases failed

/-- Every call has one of these effects, if the handles it draws with have the roles of their buffers. -/
theorem effect_perform (sound : d.Sound)
    (matched : ∀ x ∈ q.drawn, ∀ b, d.buffer? x = some b → b.role = x.role) :
    ∃ ops, (q.perform d).2.operations = d.operations ++ ops ∧ Effect d.buffers ops (q.perform d).2.buffers := by
  have quiet {d' : Recorder} (same : d' = d) :
      ∃ ops, d'.operations = d.operations ++ ops ∧ Effect d.buffers ops d'.buffers := by
    subst same
    exact ⟨[], (List.append_nil _).symm, .quiet⟩
  cases q with
  | allocate name role fields kind hint =>
      simp only [Request.perform, Registry.allocate, Recorder.allocate]
      split
      · exact quiet rfl
      · have fresh : d.buffers.get? d.nextId = none := by
          refine Option.not_isSome_iff_eq_none.mp fun live => ?_
          exact Nat.lt_irrefl _ (sound d.nextId live)
        exact ⟨_, rfl, .allocated role kind fresh⟩
  | issue name role fields kind => exact ⟨[], (List.append_nil _).symm, .quiet⟩
  | resize h n =>
      simp only [Request.perform, Registry.resize, Recorder.resize]
      cases known : d.buffer? h with
      | none => exact quiet rfl
      | some b =>
          dsimp only
          split
          · exact quiet rfl
          · rename_i more
            exact ⟨_, rfl, .resized known (Nat.lt_of_not_le more)⟩
  | upload h source =>
      simp only [Request.perform, Registry.upload, Recorder.upload]
      cases known : d.buffer? h with
      | none => exact quiet rfl
      | some b => exact ⟨_, rfl, .uploaded source.bytes known⟩
  | destroy h =>
      simp only [Request.perform, Registry.destroy, Recorder.destroy]
      cases known : d.buffer? h with
      | none => exact quiet rfl
      | some b => exact ⟨_, rfl, .destroyed known⟩
  | capacity h => exact quiet rfl
  | fill h value =>
      simp only [Request.perform, CommandSink.fill, Recorder.fill]
      cases known : d.buffer? h with
      | none => exact quiet rfl
      | some b => exact ⟨_, rfl, .filled value known⟩
  | draw label shader state slots targets =>
      simp only [Request.perform, CommandSink.draw, Recorder.draw]
      split
      · exact quiet rfl
      · rename_i unknown
        refine ⟨_, rfl, .drawn label shader.hash state targets fun role h => ?_⟩
        obtain ⟨binding, hb, rfl⟩ := List.mem_map.mp h
        obtain ⟨s, hs, rfl⟩ := List.mem_map.mp hb
        have live := List.find?_eq_none.mp unknown s.buffer (List.mem_map_of_mem hb)
        rw [Bool.not_eq_true, Option.isNone_eq_false_iff] at live
        obtain ⟨b, known⟩ := Option.isSome_iff_exists.mp live
        exact ⟨s.buffer.id, b, known, matched s.buffer (List.mem_map_of_mem hs) b known⟩

theorem role_of_made (sound : d.Sound) {x : Handle} {b : RecordedBuffer} (made : (q.perform d).1 = .made x)
    (known : (q.perform d).2.buffer? x = some b) : b.role = x.role := by
  have serves : d.Serves q := by
    by_contra refuses
    have := (perform_of_not_serves refuses).1
    rw [made] at this
    cases this
  have answer := (follows sound serves).answer
  rw [made] at answer
  have numbers := (Request.id_of_handle? (congrArg Answer.handle? answer.symm)).2
  cases q with
  | allocate name role fields kind hint =>
      cases answer
      simp only [Request.perform, Registry.allocate, d.allocate_of_willing (serves rfl), Reply.outcome,
        buffer?_update_self, Option.some.injEq] at known
      rw [← known]
  | issue name role fields kind =>
      cases answer
      exact absurd (sound.issued known) (Nat.lt_irrefl _)
  | _ => cases numbers

end Recorder

/-! ## Callers that hold what they were given -/

theorem mem_of_resolve_slots {held : Holding} {slots : List (Slot Nat)} {bound : List (Slot Handle)}
    (resolved : slots.mapM (Slot.resolve held) = some bound) :
    ∀ s ∈ bound, ∃ name, held name = some s.buffer := by
  induction slots generalizing bound with
  | nil => cases resolved; simp
  | cons s rest ih =>
      simp only [List.mapM_cons, Option.bind_eq_bind, Option.bind_eq_some_iff] at resolved
      obtain ⟨t, ht, ts, hts, made⟩ := resolved
      cases made
      obtain ⟨h, hs, rfl⟩ := Option.map_eq_some_iff.mp ht
      rintro u (_ | ⟨_, hu⟩)
      · exact ⟨s.buffer, hs⟩
      · exact ih hts u hu

theorem Request.held_of_drawn {held : Holding} {r : Request Nat} {q : Request Handle}
    (resolved : r.resolve held = some q) : ∀ x ∈ q.drawn, ∃ name, held name = some x := by
  cases r with
  | draw label shader state slots targets =>
      obtain ⟨bound, hs, rfl⟩ := Option.map_eq_some_iff.mp resolved
      intro x hx
      obtain ⟨s, hs', rfl⟩ := List.mem_map.mp hx
      exact mem_of_resolve_slots hs s hs'
  | allocate name role fields kind hint => cases resolved; simp [drawn]
  | issue name role fields kind => cases resolved; simp [drawn]
  | _ => obtain ⟨h, -, rfl⟩ := Option.map_eq_some_iff.mp resolved; simp [drawn]

/-- The handles that a caller holds were given out, and have the roles of their buffers. -/
structure Owned (c : Client Recorder) : Prop where
  sound : c.device.Sound
  issued : ∀ name x, c.held name = some x → x.id < c.device.nextId
  matched : ∀ name x b, c.held name = some x → c.device.buffer? x = some b → b.role = x.role

namespace Owned
variable {c : Client Recorder}

theorem effect_perform (owned : Owned c) {r : Request Nat} {q : Request Handle}
    (resolved : r.resolve c.held = some q) :
    ∃ ops, (q.perform c.device).2.operations = c.device.operations ++ ops ∧
      Effect c.device.buffers ops (q.perform c.device).2.buffers :=
  Recorder.effect_perform owned.sound fun x hx b known => by
    obtain ⟨name, held⟩ := Request.held_of_drawn resolved x hx
    exact owned.matched name x b held known

theorem effect_step (owned : Owned c) (r : Request Nat) :
    ∃ ops, (c.step r).after.device.operations = c.device.operations ++ ops ∧
      Effect c.device.buffers ops (c.step r).after.device.buffers := by
  unfold Client.step
  cases resolved : r.resolve c.held with
  | none => exact ⟨[], (List.append_nil _).symm, .quiet⟩
  | some q => exact owned.effect_perform resolved

theorem step (owned : Owned c) (r : Request Nat) : Owned (c.step r).after := by
  unfold Client.step
  cases resolved : r.resolve c.held with
  | none => exact owned
  | some q =>
      obtain ⟨ops, -, effect⟩ := owned.effect_perform resolved
      have sound : LawfulRegistry.Sound c.device := owned.sound
      obtain ⟨le, lt⟩ := AccountableDevice.next_perform q sound
      refine ⟨AccountableDevice.sound_perform sound q, fun name x hx => ?_, fun name x b hx known => ?_⟩
      · rcases Request.of_keep hx with made | held
        · rw [id_of_made sound (Answer.handle?_eq_some.mp made)]
          exact lt x made
        · exact Nat.lt_of_lt_of_le (owned.issued name x held) le
      · rcases Request.of_keep hx with made | held
        · exact Recorder.role_of_made owned.sound (Answer.handle?_eq_some.mp made) known
        · cases before : c.device.buffer? x with
          | some old => exact (effect.role_eq before known).trans (owned.matched name x old held before)
          | none =>
              -- a buffer that is gone does not come back under a handle that was given out
              have gone := room_perform_of_gone sound q (owned.issued name x held)
                (congrArg (Option.map (·.capacity)) before)
              rw [Recorder.buffer?_of_gone gone] at known
              cases known

end Owned

/-! ## Records that are taken out -/

/-- What happens to a device that records. -/
inductive Act
  | ask (request : Request Nat)
  | take
  /-- From now on buffers are refused, or they are not. -/
  | refuse (refusing : Bool)

/-- A device, its caller, and the records that were taken out. -/
structure Archive where
  client : Client Recorder
  taken : List Operation := []

namespace Archive

/-- The whole record: what was taken out, one after another, and what is still there. -/
def record (a : Archive) : List Operation := a.taken ++ a.client.device.operations

/-- A request is carried out, the record is taken out, or the device changes its mind. -/
def act (a : Archive) : Act → Archive
  | .ask r => { a with client := (a.client.step r).after }
  | .take => {
      client := { a.client with device := a.client.device.withoutOperations }
      taken := a.taken ++ a.client.device.operations }
  | .refuse refusing => { a with client.device.refusing := refusing }

/-- Lets one thing happen after another. -/
def run (a : Archive) (acts : List Act) : Archive := acts.foldl act a

/-- A new device with the given features, the first handle of which has the number `nextId`. -/
def new (features : Features) (nextId : Nat) : Archive := { client := { device := { features, nextId } } }

/-- The record can be read, and shows the buffers as they are. -/
structure Faithful (a : Archive) : Prop where
  owned : Owned a.client
  replays : ∃ shelf, replay a.record = some shelf ∧ Mirrors a.client.device.buffers shelf

theorem Faithful.act {a : Archive} (faithful : Faithful a) (x : Act)
    (distinct : DistinctRoles a.client.device.buffers) (distinct' : DistinctRoles (a.act x).client.device.buffers) :
    Faithful (a.act x) := by
  obtain ⟨shelf, read, mirrors⟩ := faithful.replays
  cases x with
  | ask r =>
      obtain ⟨ops, added, effect⟩ := faithful.owned.effect_step r
      obtain ⟨shelf', more, mirrors'⟩ := effect.replay mirrors distinct distinct'
      have record : (a.act (.ask r)).record = a.record ++ ops := by
        simp only [Archive.record, Archive.act, added, List.append_assoc]
      refine ⟨faithful.owned.step r, shelf', ?_, mirrors'⟩
      rw [record, replay, List.foldlM_append, ← replay, read]
      exact more
  | take =>
      have record : (a.act .take).record = a.record := List.append_nil _
      exact ⟨⟨faithful.owned.sound, faithful.owned.issued, faithful.owned.matched⟩, shelf, record ▸ read, mirrors⟩
  | refuse refusing =>
      exact ⟨⟨faithful.owned.sound, faithful.owned.issued, faithful.owned.matched⟩, shelf, read, mirrors⟩

theorem faithful_new (features : Features) (nextId : Nat) : Faithful (new features nextId) where
  owned := {
    sound := fun id live => by cases live
    issued := fun name x held => by cases held
    matched := fun name x b held => by cases held }
  replays := ⟨_, rfl, Mirrors.empty⟩

theorem Faithful.run {a : Archive} (faithful : Faithful a) (acts : List Act)
    (distinct : ∀ part ∈ acts.inits, DistinctRoles (a.run part).client.device.buffers) : Faithful (a.run acts) := by
  induction acts using List.reverseRecOn with
  | nil => exact faithful
  | append_singleton rest x ih =>
      have ran : a.run (rest ++ [x]) = (a.run rest).act x := by simp [Archive.run]
      have before := distinct rest (by simp)
      have after := distinct (rest ++ [x]) (by simp)
      rw [ran] at after ⊢
      -- what came before has fewer points at which roles must be told apart
      refine (ih fun part h => distinct part ?_).act x before after
      rw [List.mem_inits] at h ⊢
      exact h.trans (List.prefix_append rest [x])

end Archive

/-- As long as no two buffers share a role, the whole record can be read and shows exactly the buffers that are
there, with their room and all that they hold; calls that fail and resizes to no more than there is leave no trace. -/
theorem replay_record (features : Features) (nextId : Nat) (acts : List Act)
    (distinct : ∀ part ∈ acts.inits, DistinctRoles ((Archive.new features nextId).run part).client.device.buffers) :
    let a := (Archive.new features nextId).run acts
    let d := a.client.device
    (∃ shelf, replay a.record = some shelf ∧ ∀ role stored, shelf role = some stored ↔
      ∃ id b, d.buffers.get? id = some b ∧ b.role = role ∧ b.stored = stored) ∧
    (∀ (q : Request Handle) (e : Error), (q.perform d).1 = .failed e → (q.perform d).2 = d) ∧
    ∀ (h : Handle) (m n : Nat), Registry.capacity? d h = some m → n ≤ m →
      (Request.resize h n).perform d = (.done, d) := by
  intro a d
  have faithful := (Archive.faithful_new features nextId).run acts distinct
  refine ⟨faithful.replays, fun q e => Recorder.perform_of_failed, fun h m n room enough => ?_⟩
  rw [Request.perform, SteadyRegistry.resize_enough room enough]
  rfl

/-- A counter that grows and is filled, next to a buffer that goes, with the record taken out in between. -/
def session : List Act :=
  [.ask (.allocate 0 .counter [] .storage {}), .ask (.resize 0 2), .take, .ask (.fill 0 (-1)),
    .ask (.allocate 1 .uniforms [] .uniform {}), .ask (.upload 1 ⟨"size", [1, 2]⟩), .take, .ask (.resize 0 1),
    .ask (.draw "resolve" ⟨"resolve", ""⟩ .resolve [⟨0, 0, .readOnlyStorage⟩] []), .ask (.destroy 1), .refuse true,
    .ask (.allocate 2 .data [] .storage {})]

theorem replay_record_of_session :
    (∀ part ∈ session.inits, DistinctRoles ((Archive.new .all 1).run part).client.device.buffers) ∧
    ∃ shelf, replay ((Archive.new .all 1).run session).record = some shelf ∧
      shelf .counter = some ⟨2, [255, 255, 255, 255, 255, 255, 255, 255]⟩ := by
  have distinct : ∀ part ∈ session.inits,
      DistinctRoles ((Archive.new .all 1).run part).client.device.buffers := by decide
  obtain ⟨shelf, read, mirrors⟩ := (replay_record .all 1 session distinct).1
  exact ⟨distinct, shelf, read, (mirrors .counter _).mpr ⟨1, _, rfl, rfl, rfl⟩⟩

end Transparency.Device

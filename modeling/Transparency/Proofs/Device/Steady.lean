import Transparency.Proofs.Device.Exact

/-!
# Calls made again

On a device without injected faults, a call that failed fails again and changes nothing, and one that was already
served has nothing left to do.
-/

namespace Transparency

/-! ## Tables -/

namespace Table
variable {κ ν : Type} [DecidableEq κ] {t : Table κ ν} {key : κ}

theorem replaceEntry_of_lookup {entries : List (κ × ν)} {value : ν} (h : entries.lookup key = some value) :
    replaceEntry key value entries = entries := by
  induction entries with
  | nil => cases h
  | cons e rest ih =>
      obtain ⟨k, v⟩ := e
      by_cases same : k = key
      · subst same
        simp only [List.lookup_cons_self, Option.some.injEq] at h
        simp [replaceEntry, h]
      · have other : (key == k) = false := by simpa using Ne.symm same
        rw [List.lookup_cons, other] at h
        simp [replaceEntry, same, ih h]

/-- Setting a value that is there changes nothing. -/
theorem insert_of_get? {value : ν} (h : t.get? key = some value) : t.insert key value = t :=
  ext_entries (replaceEntry_of_lookup h)

theorem replaceEntry_of_notMem {entries : List (κ × ν)} {value : ν} (h : key ∉ entries.map (·.1)) :
    replaceEntry key value entries = entries ++ [(key, value)] := by
  induction entries with
  | nil => rfl
  | cons e rest ih =>
      simp only [List.map_cons, List.mem_cons, not_or] at h
      simp [replaceEntry, Ne.symm h.1, ih h.2]

theorem notMem_keys_of_get? (h : t.get? key = none) : key ∉ t.entries.map (·.1) := by
  intro hmem
  obtain ⟨e, he, rfl⟩ := List.mem_map.mp hmem
  have := List.lookup_eq_none_iff.mp h e he
  simp at this

theorem entries_foldl_erase (t : Table κ ν) (keys : List κ) :
    (keys.foldl erase t).entries = t.entries.filter fun e => e.1 ∉ keys := by
  induction keys generalizing t with
  | nil => exact (List.filter_eq_self.mpr (by simp)).symm
  | cons key keys ih => simp [ih, erase, List.filter_filter, Bool.and_comm]

/-- A new key that is set and taken away again leaves nothing. -/
theorem foldl_erase_insert {value : ν} (fresh : t.get? key = none) (keys : List κ) :
    (keys ++ [key]).foldl erase (t.insert key value) = keys.foldl erase t := by
  have notMem := notMem_keys_of_get? fresh
  have appended : (t.insert key value).entries = t.entries ++ [(key, value)] := replaceEntry_of_notMem notMem
  apply ext_entries
  rw [entries_foldl_erase, entries_foldl_erase, appended, List.filter_append]
  have gone : [(key, value)].filter (fun e => decide (e.1 ∉ keys ++ [key])) = [] := by simp
  rw [gone, List.append_nil]
  refine List.filter_congr fun e he => ?_
  have other : e.1 ≠ key := fun same => notMem (List.mem_map.mpr ⟨e, he, same⟩)
  simp [other]

end Table

namespace Device
open Buffer (Role Kind Field UsageHint Handle Source)

/-! ## The laws -/

/-- The laws of a device on which failed calls on buffers leave no trace, and neither do calls that find what they
ask for. -/
class SteadyRegistry (σ : Type) [Registry σ] extends LawfulRegistry σ where
  resize_enough {d : σ} {h : Handle} {m n : Nat} : Registry.capacity? d h = some m → n ≤ m →
    Registry.resize d h n = .done d
  resize_failed {d : σ} {h : Handle} {n : Nat} {e : Error} : (Registry.resize d h n).result = .error e →
    (Registry.resize d h n).device = d
  upload_failed {d : σ} {h : Handle} {s : Source} {e : Error} : (Registry.upload d h s).result = .error e →
    (Registry.upload d h s).device = d

instance : SteadyRegistry Recorder where
  resize_enough {d h m n} room enough := by
    obtain ⟨b, known, rfl⟩ := Option.map_eq_some_iff.mp room
    simp only [Registry.resize, Recorder.resize, known]
    exact if_pos enough
  resize_failed {d h n e} failed := by
    simp only [Registry.resize, Recorder.resize] at failed ⊢
    split at failed <;> rename_i known
    · rfl
    · split at failed <;> cases failed
  upload_failed {d h s e} failed := by
    simp only [Registry.upload, Recorder.upload] at failed ⊢
    split at failed <;> rename_i known
    · rfl
    · cases failed

instance : SteadyRegistry Limited where
  resize_enough {d h m n} room enough := by
    obtain ⟨b, known, rfl⟩ := Option.map_eq_some_iff.mp room
    simp only [Registry.resize, Limited.resize, known]
    exact if_pos enough
  resize_failed {d h n e} failed := by
    simp only [Registry.resize] at failed ⊢
    rcases d.resize_cases h n with
      ⟨-, he⟩ | ⟨b, -, ⟨-, he⟩ | ⟨-, e, -, he⟩ | ⟨-, size, log, -, he⟩⟩
    · rw [he]; rfl
    · rw [he]; rfl
    · rw [he]; rfl
    · rw [he] at failed; cases failed
  upload_failed {d h s e} _ := d.upload_device h s

namespace Limited
variable {d : Limited}

/-- The device differs at most in the number of its next handle. -/
def Restores (d d' : Limited) : Prop := d' = { d with nextId := d'.nextId }

theorem Restores.refl (d : Limited) : d.Restores d := rfl

/-- Whether a buffer can be made depends on nothing but the limits. -/
theorem admission_congr {d' : Limited} (same : d'.limits = d.limits) (role : Role) (fields : List Field)
    (kind : Kind) : d'.admission role fields kind = d.admission role fields kind := by
  rw [admission, same, admission]

end Limited

end Device

end Transparency

/-! Tables from keys to values. A key keeps its place when its value changes. -/
namespace Transparency

/-- A finite map; the entries stand in the order in which their keys came. -/
structure Table (κ : Type) (ν : Type) where
  entries : List (κ × ν) := []
  distinct : (entries.map (·.1)).Nodup := by simp

namespace Table
variable {κ : Type} {ν : Type}

/-- The table without entries. -/
def empty : Table κ ν := {}

instance : Inhabited (Table κ ν) := ⟨empty⟩

/-- Two tables with the same entries are the same. -/
theorem ext_entries {t u : Table κ ν} (h : t.entries = u.entries) : t = u := by
  cases t; cases u; cases h; rfl

/-- The number of entries. -/
def size (t : Table κ ν) : Nat := t.entries.length

/-- The keys, in order. -/
def keys (t : Table κ ν) : List κ := t.entries.map (·.1)

/-- Whether there is no entry. -/
def isEmpty (t : Table κ ν) : Bool := t.entries.isEmpty

variable [DecidableEq κ]

/-- The value at a key. -/
def get? (t : Table κ ν) (key : κ) : Option ν := t.entries.lookup key

/-- Whether the key has a value. -/
def contains (t : Table κ ν) (key : κ) : Bool := (t.get? key).isSome

/-- Replaces the value at a key, or appends the key. -/
def replaceEntry (key : κ) (value : ν) : List (κ × ν) → List (κ × ν)
  | [] => [(key, value)]
  | (k, v) :: rest =>
    if k = key then (key, value) :: rest else (k, v) :: replaceEntry key value rest

theorem mem_keys_replaceEntry {key : κ} {value : ν} {entries : List (κ × ν)} {k : κ} :
    k ∈ (replaceEntry key value entries).map (·.1) ↔ k = key ∨ k ∈ entries.map (·.1) := by
  induction entries with
  | nil => simp [replaceEntry]
  | cons e rest ih =>
    obtain ⟨k', v⟩ := e
    simp only [replaceEntry]
    split
    · next h => subst h; simp
    · simp only [List.map_cons, List.mem_cons, ih]
      constructor <;> rintro (h | h | h) <;> simp [h]

theorem nodup_replaceEntry {key : κ} {value : ν} {entries : List (κ × ν)}
    (h : (entries.map (·.1)).Nodup) : ((replaceEntry key value entries).map (·.1)).Nodup := by
  induction entries with
  | nil => simp [replaceEntry]
  | cons e rest ih =>
    obtain ⟨k', v⟩ := e
    simp only [List.map_cons, List.nodup_cons] at h
    simp only [replaceEntry]
    split
    · next hk => subst hk; simpa using h
    · next hk =>
      simp only [List.map_cons, List.nodup_cons, mem_keys_replaceEntry]
      exact ⟨fun hmem => hmem.elim hk h.1, ih h.2⟩

/-- Sets the value at a key. -/
def insert (t : Table κ ν) (key : κ) (value : ν) : Table κ ν where
  entries := replaceEntry key value t.entries
  distinct := nodup_replaceEntry t.distinct

/-- Removes a key. -/
def erase (t : Table κ ν) (key : κ) : Table κ ν where
  entries := t.entries.filter fun e => !decide (e.1 = key)
  distinct := by
    have h := t.distinct
    have hsub : List.Sublist ((t.entries.filter fun e => !decide (e.1 = key)).map (·.1))
        (t.entries.map (·.1)) := List.filter_sublist.map _
    exact hsub.nodup h

/-! ### What the operations do to the values -/

@[simp] theorem get?_empty (key : κ) : (empty : Table κ ν).get? key = none := rfl

theorem lookup_replaceEntry {key k : κ} {value : ν} {entries : List (κ × ν)} :
    (replaceEntry key value entries).lookup k =
      if k = key then some value else entries.lookup k := by
  induction entries with
  | nil =>
    by_cases h : k = key
    · simp [replaceEntry, h]
    · simp [replaceEntry, List.lookup_cons, h, beq_eq_false_iff_ne.2 h]
  | cons e rest ih =>
    obtain ⟨k', v⟩ := e
    by_cases hk : k' = key
    · subst hk
      by_cases h : k = k'
      · simp [replaceEntry, h]
      · simp [replaceEntry, List.lookup_cons, h, beq_eq_false_iff_ne.2 h]
    · by_cases h : k = k'
      · subst h
        simp [replaceEntry, hk]
      · simp [replaceEntry, List.lookup_cons, hk, beq_eq_false_iff_ne.2 h, ih]

@[simp] theorem get?_insert (t : Table κ ν) (key k : κ) (value : ν) :
    (t.insert key value).get? k = if k = key then some value else t.get? k :=
  lookup_replaceEntry

theorem replaceEntry_replaceEntry {key : κ} {value value' : ν} {entries : List (κ × ν)} :
    replaceEntry key value' (replaceEntry key value entries) = replaceEntry key value' entries := by
  induction entries with
  | nil => simp [replaceEntry]
  | cons e rest ih =>
    obtain ⟨k, v⟩ := e
    by_cases hk : k = key
    · simp [replaceEntry, hk]
    · simp [replaceEntry, hk, ih]

/-- Of two values that are set at a key, only the later one counts. -/
theorem insert_insert (t : Table κ ν) (key : κ) (value value' : ν) :
    (t.insert key value).insert key value' = t.insert key value' :=
  ext_entries replaceEntry_replaceEntry

theorem lookup_filter_ne {key k : κ} {entries : List (κ × ν)} :
    (entries.filter fun e => !decide (e.1 = key)).lookup k =
      if k = key then none else entries.lookup k := by
  induction entries with
  | nil => simp
  | cons e rest ih =>
    obtain ⟨k', v⟩ := e
    by_cases hk : k' = key
    · subst hk
      rw [List.filter_cons_of_neg (by simp), ih]
      by_cases h : k = k'
      · simp [h]
      · simp [List.lookup_cons, h, beq_eq_false_iff_ne.2 h]
    · rw [List.filter_cons_of_pos (by simpa using hk)]
      by_cases h : k = k'
      · subst h
        simp [hk]
      · simp [List.lookup_cons, beq_eq_false_iff_ne.2 h, ih]

@[simp] theorem get?_erase (t : Table κ ν) (key k : κ) :
    (t.erase key).get? k = if k = key then none else t.get? k :=
  lookup_filter_ne

theorem mem_entries_iff (t : Table κ ν) {key : κ} {value : ν} :
    (key, value) ∈ t.entries ↔ t.get? key = some value := by
  rw [get?]
  have h := t.distinct
  generalize t.entries = entries at h
  induction entries with
  | nil => simp
  | cons e rest ih =>
    obtain ⟨k, v⟩ := e
    simp only [List.map_cons, List.nodup_cons] at h
    rw [List.mem_cons, List.lookup_cons]
    by_cases same : key = k
    · subst same
      have other : (key, value) ∉ rest := fun hmem => h.1 (List.mem_map.mpr ⟨_, hmem, rfl⟩)
      simp [other, eq_comm]
    · simp [same, beq_eq_false_iff_ne.2 same, ih h.2]

end Table

end Transparency

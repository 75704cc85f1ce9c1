import Transparency.Frame.Protocol

/-!
# Entries of the frame context

What each change of the context does to the flags, the buffers and the targets that it holds.
-/

namespace Transparency.Frame
open Buffer (Handle)

namespace Context
variable (c : Context)

@[simp] theorem hasFlag_empty (k : Key) : Context.hasFlag (.empty : Context) k = false := rfl

theorem get?_setFlag_of_ne {k k' : Key} (other : k' ≠ k) : (c.setFlag k).get? k' = c.get? k' := by
  simp [setFlag, other]

theorem get?_dropFlag (k k' : Key) :
    (c.dropFlag k).get? k' = if k' = k ∧ c.hasFlag k' = true then none else c.get? k' := by
  unfold dropFlag
  by_cases same : k' = k
  · subst same
    cases present : c.hasFlag k' <;> simp
  · split <;> simp [same]

theorem get?_dropFlag_of_ne {k k' : Key} (other : k' ≠ k) : (c.dropFlag k).get? k' = c.get? k' := by
  simp [get?_dropFlag, other]

@[simp] theorem buffer?_empty (k : Key) : Context.buffer? (.empty : Context) k = none := rfl

@[simp] theorem hasFlag_setFlag (k k' : Key) :
    (c.setFlag k).hasFlag k' = if k' = k then true else c.hasFlag k' := by
  by_cases same : k' = k <;> simp [hasFlag, setFlag, same]

@[simp] theorem hasFlag_dropFlag (k k' : Key) :
    (c.dropFlag k).hasFlag k' = if k' = k then false else c.hasFlag k' := by
  unfold dropFlag
  split
  · by_cases same : k' = k <;> simp [hasFlag, same]
  · rename_i absent
    by_cases same : k' = k
    · simpa [same] using absent
    · simp [same]

@[simp] theorem hasFlag_setBuffer (k k' : Key) (h : Handle) :
    (c.setBuffer k h).hasFlag k' = if k' = k then false else c.hasFlag k' := by
  by_cases same : k' = k <;> simp [hasFlag, setBuffer, same]

@[simp] theorem hasFlag_setTargets (k' : Key) (ts : List Target) :
    (c.setTargets ts).hasFlag k' = if k' = .targets then false else c.hasFlag k' := by
  by_cases same : k' = .targets <;> simp [hasFlag, setTargets, same]

@[simp] theorem buffer?_setFlag (k k' : Key) :
    (c.setFlag k).buffer? k' = if k' = k then none else c.buffer? k' := by
  by_cases same : k' = k <;> simp [buffer?, setFlag, same]

@[simp] theorem buffer?_dropFlag (k k' : Key) : (c.dropFlag k).buffer? k' = c.buffer? k' := by
  unfold dropFlag
  split
  · rename_i present
    by_cases same : k' = k
    · -- what is dropped is a flag, so there was no buffer at the key
      subst same
      simp only [hasFlag] at present
      split at present <;> simp_all [buffer?]
    · simp [buffer?, same]
  · rfl

@[simp] theorem buffer?_setBuffer (k k' : Key) (h : Handle) :
    (c.setBuffer k h).buffer? k' = if k' = k then some h else c.buffer? k' := by
  by_cases same : k' = k <;> simp [buffer?, setBuffer, same]

@[simp] theorem buffer?_setTargets (k' : Key) (ts : List Target) :
    (c.setTargets ts).buffer? k' = if k' = .targets then none else c.buffer? k' := by
  by_cases same : k' = .targets <;> simp [buffer?, setTargets, same]

@[simp] theorem targets?_dropFlag (k : Key) : (c.dropFlag k).targets? = c.targets? := by
  unfold dropFlag
  split
  · rename_i present
    by_cases same : Key.targets = k
    · -- what is dropped is a flag, so there were no targets at the key
      subst same
      simp only [hasFlag] at present
      split at present <;> simp_all [targets?]
    · simp [targets?, same]
  · rfl

end Context

end Transparency.Frame

namespace Transparency.Fragment
open Buffer (Handle)
open Transparency.Frame (Key Context)

namespace Buffers
variable (b : Buffers) (c : Context)

theorem publish_eq : b.publish c =
    ((((c.setBuffer .counterBuffer b.counter).setBuffer .indexBuffer b.indices).setBuffer
      .dataBuffer b.data).setBuffer .depthBuffer b.depth).setBuffer .uniformBuffer b.uniforms := rfl

@[simp] theorem hasFlag_publish (k : Key) :
    (b.publish c).hasFlag k = if k ∈ Key.fragmentBuffers then false else c.hasFlag k := by
  cases k <;> simp [publish_eq, Key.fragmentBuffers]

theorem get?_publish_of_notMem {k : Key} (other : k ∉ Key.fragmentBuffers) :
    (b.publish c).get? k = c.get? k := by
  simp only [Key.fragmentBuffers, List.mem_cons, List.not_mem_nil, or_false, not_or] at other
  obtain ⟨h1, h2, h3, h4, h5⟩ := other
  simp [publish_eq, Context.setBuffer, h1, h2, h3, h4, h5]

theorem get?_publish {k : Key} {h : Handle} (entry : (k, h) ∈ b.entries) :
    (b.publish c).get? k = some (.buffer h) := by
  simp only [entries, List.mem_cons, Prod.mk.injEq, List.not_mem_nil, or_false] at entry
  rcases entry with ⟨rfl, rfl⟩ | ⟨rfl, rfl⟩ | ⟨rfl, rfl⟩ | ⟨rfl, rfl⟩ | ⟨rfl, rfl⟩ <;>
    simp [publish_eq, Context.setBuffer]

@[simp] theorem buffer?_publish_counter : (b.publish c).buffer? .counterBuffer = some b.counter := by
  simp [publish_eq]

@[simp] theorem ofContext?_publish : ofContext? (b.publish c) = some b := by
  simp [ofContext?, publish_eq]

@[simp] theorem ofContext?_dropFlag (k : Key) : ofContext? (c.dropFlag k) = ofContext? c := by
  simp [ofContext?]

@[simp] theorem ofContext?_setFlag {k : Key} (other : k ∉ Key.fragmentBuffers) :
    ofContext? (c.setFlag k) = ofContext? c := by
  simp only [Key.fragmentBuffers, List.mem_cons, List.not_mem_nil, or_false, not_or] at other
  obtain ⟨h1, h2, h3, h4, h5⟩ := other
  simp [ofContext?, Ne.symm h1, Ne.symm h2, Ne.symm h3, Ne.symm h4, Ne.symm h5]

theorem counter_of_ofContext? {c : Context} {b : Buffers} (h : ofContext? c = some b) :
    c.buffer? .counterBuffer = some b.counter := by
  simp only [ofContext?, Option.bind_eq_bind, Option.bind_eq_some_iff] at h
  obtain ⟨counter, hc, _, -, _, -, _, -, _, -, he⟩ := h
  cases he
  exact hc

end Buffers

end Transparency.Fragment

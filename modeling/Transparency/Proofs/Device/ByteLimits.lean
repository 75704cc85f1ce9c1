import Mathlib.Algebra.Ring.Nat
import Mathlib.Order.Bounds.Basic
import Transparency.Device.Limited

/-!
# The check of a buffer's bytes

A buffer is made if its bytes are within the limits that apply to it. Bytes are counted up to the largest word only: a
buffer with more of them is taken for a smaller one exactly if no limit that applies is below that word.
-/

namespace Transparency.Device.Limits
open Buffer (Role Handle)

variable {limits : Limits} {role : Role} {usage : Usage} {stride capacity m n : Nat}

/-! ## The limits that apply -/

/-- The limits that apply to a buffer with the given uses. -/
inductive Applies (limits : Limits) (usage : Usage) : Nat → Prop
  | whole : Applies limits usage limits.bufferSize
  | storage : usage.storage = true → Applies limits usage limits.storageBinding
  | uniform : usage.uniform = true → Applies limits usage limits.uniformBinding

theorem Applies.min (hm : limits.Applies usage m) (hn : limits.Applies usage n) : limits.Applies usage (min m n) := by
  rcases Nat.le_total m n with h | h
  · rwa [Nat.min_eq_left h]
  · rwa [Nat.min_eq_right h]

theorem applies_bound (limits : Limits) (usage : Usage) : limits.Applies usage (limits.bound usage) := by
  rw [bound]
  have stored : limits.Applies usage
      (if usage.storage then Min.min limits.bufferSize limits.storageBinding else limits.bufferSize) := by
    split
    · rename_i storage
      exact Applies.whole.min (.storage storage)
    · exact .whole
  split
  · rename_i uniform
    exact stored.min (.uniform uniform)
  · exact stored

theorem Applies.bound_le (applies : limits.Applies usage n) : limits.bound usage ≤ n := by
  cases applies with
  | whole => simp only [bound]; split <;> split <;> omega
  | storage storage => simp only [bound, storage, if_true]; split <;> omega
  | uniform uniform => simp only [bound, uniform, if_true]; omega

/-- The bound is the smallest of the limits that apply. -/
theorem isLeast_bound (limits : Limits) (usage : Usage) : IsLeast {n | limits.Applies usage n} (limits.bound usage) :=
  ⟨limits.applies_bound usage, fun _ applies => applies.bound_le⟩

theorem le_bound_iff : n ≤ limits.bound usage ↔ ∀ limit, limits.Applies usage limit → n ≤ limit :=
  le_isGLB_iff (limits.isLeast_bound usage).isGLB

theorem bound_lt_iff : limits.bound usage < n ↔ ∃ limit, limits.Applies usage limit ∧ limit < n :=
  isGLB_lt_iff (limits.isLeast_bound usage).isGLB

/-! ## The bytes that are counted -/

/-- The bytes of a buffer, however many they are. -/
def allBytes (stride capacity : Nat) : Nat := stride * max capacity 1

/-- The check lets through what is within all limits that apply, with the bytes that it takes, and for anything else
gives the smallest of these limits. -/
structure ChecksExactly (limits : Limits) (role : Role) (usage : Usage) (stride capacity : Nat) : Prop where
  accepts : ∀ size, limits.check role usage stride capacity = .ok size ↔
    (∀ limit, limits.Applies usage limit → allBytes stride capacity ≤ limit) ∧ size = allBytes stride capacity
  refuses : (∃ limit, limits.Applies usage limit ∧ limit < allBytes stride capacity) →
    ∃ size least, IsLeast {limit | limits.Applies usage limit} least ∧
      limits.check role usage stride capacity = .error (.bufferTooLarge role size least)

/-- The bytes of a buffer cannot be counted, and no limit is below what can. -/
def Overlooks (limits : Limits) (usage : Usage) (stride capacity : Nat) : Prop :=
  maxByteCount < allBytes stride capacity ∧ ∀ limit, limits.Applies usage limit → maxByteCount ≤ limit

theorem byteCount_of_le (countable : allBytes stride capacity ≤ maxByteCount) :
    byteCount stride capacity = allBytes stride capacity := Nat.min_eq_left countable

theorem byteCount_of_lt (uncountable : maxByteCount < allBytes stride capacity) :
    byteCount stride capacity = maxByteCount := Nat.min_eq_right (Nat.le_of_lt uncountable)

theorem check_of_le (within : byteCount stride capacity ≤ limits.bound usage) :
    limits.check role usage stride capacity = .ok (byteCount stride capacity) := if_neg (Nat.not_lt.mpr within)

theorem check_of_lt (beyond : limits.bound usage < byteCount stride capacity) :
    limits.check role usage stride capacity =
      .error (.bufferTooLarge role (byteCount stride capacity) (limits.bound usage)) := if_pos beyond

theorem check_of_overlooks (overlooks : limits.Overlooks usage stride capacity) :
    limits.check role usage stride capacity = .ok maxByteCount := by
  have within : maxByteCount ≤ limits.bound usage := le_bound_iff.mpr overlooks.2
  rw [← byteCount_of_lt overlooks.1] at within ⊢
  exact check_of_le within

theorem not_checksExactly_of_overlooks (overlooks : limits.Overlooks usage stride capacity) :
    ¬limits.ChecksExactly role usage stride capacity := by
  intro exact
  have same := ((exact.accepts maxByteCount).mp (check_of_overlooks overlooks)).2
  exact Nat.ne_of_lt overlooks.1 same

theorem checksExactly_of_countable (countable : allBytes stride capacity ≤ maxByteCount) :
    limits.ChecksExactly role usage stride capacity where
  accepts size := by
    rw [← le_bound_iff, ← byteCount_of_le countable]
    rcases Nat.lt_or_ge (limits.bound usage) (byteCount stride capacity) with beyond | within
    · rw [check_of_lt beyond]
      exact iff_of_false nofun fun h => absurd h.1 (Nat.not_le.mpr beyond)
    · rw [check_of_le within]
      simp [within, eq_comm]
  refuses beyond := by
    rw [← bound_lt_iff, ← byteCount_of_le countable] at beyond
    exact ⟨_, _, limits.isLeast_bound usage, check_of_lt beyond⟩

/-- A limit below the largest count stops what cannot be counted. -/
theorem checksExactly_of_bound_lt (uncountable : maxByteCount < allBytes stride capacity)
    (limited : limits.bound usage < maxByteCount) : limits.ChecksExactly role usage stride capacity where
  accepts size := by
    rw [check_of_lt (by rwa [byteCount_of_lt uncountable]), ← le_bound_iff]
    -- such a buffer is within no limit below the largest count, so that nothing may be accepted
    refine iff_of_false nofun fun h => ?_
    have := h.1
    omega
  refuses _ := ⟨_, _, limits.isLeast_bound usage, check_of_lt (by rwa [byteCount_of_lt uncountable])⟩

theorem checksExactly_of_not_overlooks (seen : ¬limits.Overlooks usage stride capacity) :
    limits.ChecksExactly role usage stride capacity := by
  rcases Nat.lt_or_ge maxByteCount (allBytes stride capacity) with uncountable | countable
  · refine checksExactly_of_bound_lt uncountable (Nat.lt_of_not_le fun wide => ?_)
    exact seen ⟨uncountable, le_bound_iff.mp wide⟩
  · exact checksExactly_of_countable countable

/-- The check is exact unless it overlooks a buffer, and then lets it through with the largest count for its bytes. -/
theorem checksExactly_iff (limits : Limits) (role : Role) (usage : Usage) (stride capacity : Nat) :
    (limits.ChecksExactly role usage stride capacity ↔ ¬limits.Overlooks usage stride capacity) ∧
    ∀ size, limits.check role usage stride capacity = .ok size ∧ size ≠ allBytes stride capacity ↔
      limits.Overlooks usage stride capacity ∧ size = maxByteCount := by
  by_cases overlooks : limits.Overlooks usage stride capacity
  · refine ⟨iff_of_false (not_checksExactly_of_overlooks overlooks) (not_not_intro overlooks), fun size => ?_⟩
    rw [check_of_overlooks overlooks]
    constructor
    · rintro ⟨same, -⟩
      exact ⟨overlooks, (Except.ok.inj same).symm⟩
    · rintro ⟨-, rfl⟩
      exact ⟨rfl, Nat.ne_of_lt overlooks.1⟩
  · have exact : limits.ChecksExactly role usage stride capacity := checksExactly_of_not_overlooks overlooks
    refine ⟨iff_of_true exact overlooks, fun size => iff_of_false ?_ fun h => overlooks h.1⟩
    rintro ⟨accepted, other⟩
    exact other ((exact.accepts size).mp accepted).2

/-- A device without any limits but those of counting. -/
def unlimited : Limits := { bufferSize := maxByteCount, storageBinding := maxByteCount }

/-- The colors of so many fragments are one byte more than can be counted, and the check lets them through. -/
theorem unlimited_overlooks :
    let colors : Handle := ⟨1, .data, .storage, [⟨"color", .float32x4⟩]⟩
    allBytes colors.stride (2 ^ 60) = 18446744073709551616 ∧
    unlimited.check .data (Usage.ofKind .storage) colors.stride (2 ^ 60) = .ok 18446744073709551615 ∧
    ¬unlimited.ChecksExactly .data (Usage.ofKind .storage) colors.stride (2 ^ 60) := by
  refine ⟨by decide, by decide, not_checksExactly_of_overlooks ⟨by decide, ?_⟩⟩
  exact le_bound_iff.mp (by decide)

end Transparency.Device.Limits

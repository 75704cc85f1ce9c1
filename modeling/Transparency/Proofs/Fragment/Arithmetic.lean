import Mathlib.Algebra.Group.Int.Defs
import Mathlib.Algebra.Ring.Nat
import Transparency.Proofs.Fragment.Sizing

/-!
# The arithmetic of requests

What a request comes to, said with integers that have no end. Counted in words that wrap around, the capacities are
the same: only the fragments of a screen can be too many, and then the request is refused.
-/

namespace Transparency

namespace Size
variable {size requested recorded : Size}

theorem columns_lt (size : Size) : size.columns < 2 ^ 31 := by
  have short := size.width.toInt_lt
  rw [columns]
  omega

theorem rows_lt (size : Size) : size.rows < 2 ^ 31 := by
  have short := size.height.toInt_lt
  rw [rows]
  omega

/-- A screen has far fewer pixels than a word counts. -/
theorem pixels_lt (size : Size) : size.columns * size.rows < 2 ^ 62 :=
  calc size.columns * size.rows
    _ < 2 ^ 31 * 2 ^ 31 := Nat.mul_lt_mul'' size.columns_lt size.rows_lt
    _ = 2 ^ 62 := rfl

theorem toInt_columns_sup (nonneg : requested.isNegative = false) :
    ((requested.sup recorded).columns : Int) = max requested.width.toInt recorded.width.toInt := by
  have := (not_isNegative_iff _).mp nonneg
  rw [columns, toInt_width_sup]
  omega

theorem toInt_rows_sup (nonneg : requested.isNegative = false) :
    ((requested.sup recorded).rows : Int) = max requested.height.toInt recorded.height.toInt := by
  have := (not_isNegative_iff _).mp nonneg
  rw [rows, toInt_height_sup]
  omega

end Size

namespace Fragment

namespace Capacities
variable {requested recorded : Size}

theorem countable_sup_iff (nonneg : requested.isNegative = false) : Countable (requested.sup recorded) ↔
    8 * (max requested.width.toInt recorded.width.toInt *
      max requested.height.toInt recorded.height.toInt) < 2 ^ 64 := by
  rw [Countable, ← Size.toInt_columns_sup nonneg, ← Size.toInt_rows_sup nonneg]
  norm_cast

theorem counter_need_sup (nonneg : requested.isNegative = false) :
    ((need (requested.sup recorded)).counter : Int) =
      max requested.width.toInt recorded.width.toInt * max requested.height.toInt recorded.height.toInt + 1 := by
  rw [need, ← Size.toInt_columns_sup nonneg, ← Size.toInt_rows_sup nonneg]
  norm_cast

theorem fragments_need_sup (nonneg : requested.isNegative = false) :
    ((need (requested.sup recorded)).fragments : Int) =
      8 * (max requested.width.toInt recorded.width.toInt * max requested.height.toInt recorded.height.toInt) := by
  rw [need, ← Size.toInt_columns_sup nonneg, ← Size.toInt_rows_sup nonneg]
  norm_cast

/-! ## Words -/

/-- The pixels of a screen, counted in words that wrap around. -/
def pixelsInWords (size : Size) : UInt64 := UInt64.ofNat size.columns * UInt64.ofNat size.rows

/-- Counted in words that wrap around, the pixels of a screen and its counters come out right, and so do its
fragments if they can be counted. -/
structure Unwrapped (size : Size) : Prop where
  pixels : (pixelsInWords size).toNat = size.columns * size.rows
  counter : (pixelsInWords size + 1).toNat = (need size).counter
  fragments : Countable size → (pixelsInWords size * 8).toNat = (need size).fragments

theorem unwrapped (size : Size) : Unwrapped size := by
  have few := size.pixels_lt
  have pixels : (pixelsInWords size).toNat = size.columns * size.rows := by
    have columns : (UInt64.ofNat size.columns).toNat = size.columns :=
      UInt64.toNat_ofNat_of_lt' (Nat.lt_trans size.columns_lt (by decide))
    have rows : (UInt64.ofNat size.rows).toNat = size.rows :=
      UInt64.toNat_ofNat_of_lt' (Nat.lt_trans size.rows_lt (by decide))
    rw [pixelsInWords, UInt64.toNat_mul, columns, rows, Nat.mod_eq_of_lt (by omega)]
  refine ⟨pixels, ?_, fun countable => ?_⟩
  · rw [UInt64.toNat_add, pixels, show (1 : UInt64).toNat = 1 from rfl, Nat.mod_eq_of_lt (by omega), need]
  · rw [Countable] at countable
    rw [UInt64.toNat_mul, pixels, show (8 : UInt64).toNat = 8 from rfl, Nat.mul_comm,
      Nat.mod_eq_of_lt countable, need]

end Capacities

/-! ## Requests -/

namespace Decision
variable {requested recorded : Size}

theorem evaluate_eq_invalidSize_iff :
    evaluate requested recorded = .error (.invalidSize requested) ↔ requested.isNegative = true := by
  rw [evaluate_eq]
  by_cases negative : requested.isNegative = true
  · exact iff_of_true (if_pos negative) negative
  · rw [if_neg negative]
    refine iff_of_false ?_ negative
    split
    · nofun
    · split <;> nofun

theorem evaluate_of_nonneg (nonneg : requested.isNegative = false) : evaluate requested recorded =
    if recorded.covers requested then .ok .unchanged
    else if Capacities.Countable (requested.sup recorded) then
      .ok (.grow (requested.sup recorded) (Capacities.need (requested.sup recorded)))
    else .error (.capacityOverflow (requested.sup recorded)) := by
  rw [evaluate_eq, nonneg, if_neg Bool.false_ne_true]

theorem evaluate_eq_unchanged_iff (nonneg : requested.isNegative = false) :
    evaluate requested recorded = .ok .unchanged ↔ recorded.covers requested = true := by
  rw [evaluate_of_nonneg nonneg]
  by_cases covered : recorded.covers requested = true
  · exact iff_of_true (if_pos covered) covered
  · rw [if_neg covered]
    refine iff_of_false ?_ covered
    split <;> nofun

theorem evaluate_eq_capacityOverflow_iff (nonneg : requested.isNegative = false)
    (uncovered : ¬recorded.covers requested = true) :
    evaluate requested recorded = .error (.capacityOverflow (requested.sup recorded)) ↔
      ¬Capacities.Countable (requested.sup recorded) := by
  rw [evaluate_of_nonneg nonneg, if_neg uncovered]
  by_cases countable : Capacities.Countable (requested.sup recorded)
  · rw [if_pos countable]
    exact iff_of_false nofun (not_not_intro countable)
  · exact iff_of_true (if_neg countable) countable

/-- A request with a negative axis is refused, and one that the recorded size covers changes nothing. Any other one
asks for the larger value on each axis: it is refused if the fragments of such a screen cannot be counted, and else it is
granted exactly, so that what it covers changes nothing afterwards. -/
theorem evaluate_by_larger_axes (requested recorded : Size) :
    let w := max requested.width.toInt recorded.width.toInt
    let h := max requested.height.toInt recorded.height.toInt
    let larger := requested.sup recorded
    let negative := requested.width.toInt < 0 ∨ requested.height.toInt < 0
    let covered := requested.width.toInt ≤ recorded.width.toInt ∧ requested.height.toInt ≤ recorded.height.toInt
    (larger.width.toInt = w ∧ larger.height.toInt = h) ∧
    (evaluate requested recorded = .error (.invalidSize requested) ↔ negative) ∧
    (¬negative →
      (evaluate requested recorded = .ok .unchanged ↔ covered) ∧
      (¬covered →
        (evaluate requested recorded = .error (.capacityOverflow larger) ↔ 2 ^ 64 ≤ 8 * (w * h)) ∧
        (8 * (w * h) < 2 ^ 64 → ∃ caps : Capacities, evaluate requested recorded = .ok (.grow larger caps) ∧
          caps.counter = w * h + 1 ∧ caps.fragments = 8 * (w * h)))) ∧
    (∀ later : Size, later.width.toInt ≤ w → later.height.toInt ≤ h → evaluate later larger =
      if later.isNegative then .error (.invalidSize later) else .ok .unchanged) ∧
    Capacities.Unwrapped larger := by
  intro w h larger negative covered
  have hw : larger.width.toInt = w := requested.toInt_width_sup recorded
  have hh : larger.height.toInt = h := requested.toInt_height_sup recorded
  refine ⟨⟨hw, hh⟩, evaluate_eq_invalidSize_iff.trans requested.isNegative_iff, fun nonneg => ?_,
    fun later shorter lower => ?_, Capacities.unwrapped larger⟩
  · have nonneg : requested.isNegative = false :=
      Bool.eq_false_iff.mpr (mt requested.isNegative_iff.mp nonneg)
    refine ⟨(evaluate_eq_unchanged_iff nonneg).trans (recorded.covers_iff requested), fun uncovered => ?_⟩
    have uncovered := mt (recorded.covers_iff requested).mp uncovered
    refine ⟨?_, fun few => ?_⟩
    · rw [evaluate_eq_capacityOverflow_iff nonneg uncovered, Capacities.countable_sup_iff nonneg, Int.not_lt]
    · refine ⟨Capacities.need larger, ?_, Capacities.counter_need_sup nonneg, Capacities.fragments_need_sup nonneg⟩
      rw [evaluate_of_nonneg nonneg, if_neg uncovered, if_pos ((Capacities.countable_sup_iff nonneg).mpr few)]
  · have covers : larger.covers later = true := (larger.covers_iff later).mpr ⟨hw ▸ shorter, hh ▸ lower⟩
    rw [evaluate, if_pos covers]

/-- The longest axis leaves room for 2 ^ 30 pixels on the other one, and for no more. -/
theorem evaluate_on_longest_axis :
    (∃ caps : Capacities, evaluate ⟨7, 1073741824⟩ ⟨2147483647, -5⟩ = .ok (.grow ⟨2147483647, 1073741824⟩ caps) ∧
      caps.counter = (2305843008139952129 : Int) ∧ caps.fragments = (18446744065119617024 : Int)) ∧
    evaluate ⟨7, 1073741825⟩ ⟨2147483647, -5⟩ = .error (.capacityOverflow ⟨2147483647, 1073741825⟩) :=
  ⟨((evaluate_by_larger_axes ⟨7, 1073741824⟩ ⟨2147483647, -5⟩).2.2.1 (by decide)).2 (by decide) |>.2 (by decide),
    (((evaluate_by_larger_axes ⟨7, 1073741825⟩ ⟨2147483647, -5⟩).2.2.1 (by decide)).2 (by decide)).1.mpr (by decide)⟩

end Decision

end Fragment

end Transparency

import Transparency.Fragment.Sizing

/-!
# Sizes and capacities

Requests are decided exactly: no capacity is rounded, cut or wrapped.
-/

namespace Transparency

namespace Size
variable (size other : Size)

/-- The width in pixels; none if it is negative. -/
def columns : Nat := size.width.toInt.toNat

/-- The height in pixels; none if it is negative. -/
def rows : Nat := size.height.toInt.toNat

theorem isNegative_iff : size.isNegative = true ↔ size.width.toInt < 0 ∨ size.height.toInt < 0 := by
  simp [isNegative, Int32.lt_iff_toInt_lt]

theorem not_isNegative_iff :
    size.isNegative = false ↔ 0 ≤ size.width.toInt ∧ 0 ≤ size.height.toInt := by
  rw [← Bool.not_eq_true, isNegative_iff]
  omega

theorem covers_iff : size.covers other = true ↔
    other.width.toInt ≤ size.width.toInt ∧ other.height.toInt ≤ size.height.toInt := by
  simp [covers, Int32.le_iff_toInt_le]

theorem toInt_width_sup :
    (size.sup other).width.toInt = max size.width.toInt other.width.toInt := by
  simp only [sup, Int32.le_iff_toInt_le]
  split <;> omega

theorem toInt_height_sup :
    (size.sup other).height.toInt = max size.height.toInt other.height.toInt := by
  simp only [sup, Int32.le_iff_toInt_le]
  split <;> omega

theorem columns_sup : (size.sup other).columns = max size.columns other.columns := by
  rw [columns, toInt_width_sup, columns, columns]
  omega

theorem rows_sup : (size.sup other).rows = max size.rows other.rows := by
  rw [rows, toInt_height_sup, rows, rows]
  omega

theorem pixels_le_sup : other.columns * other.rows ≤ (size.sup other).columns * (size.sup other).rows := by
  rw [columns_sup, rows_sup]
  exact Nat.mul_le_mul (Nat.le_max_right _ _) (Nat.le_max_right _ _)

theorem covers_sup : (size.sup other).covers size = true := by
  rw [covers_iff, toInt_width_sup, toInt_height_sup]
  exact ⟨Int.le_max_left _ _, Int.le_max_left _ _⟩

theorem eq_empty_iff : size = {} ↔ size.width.toInt = 0 ∧ size.height.toInt = 0 := by
  rw [← Int32.toInt_zero, Int32.toInt_inj, Int32.toInt_inj]
  constructor
  · rintro rfl; exact ⟨rfl, rfl⟩
  · rintro ⟨hw, hh⟩; cases size; cases hw; cases hh; rfl

theorem sup_not_isNegative (h : size.isNegative = false) : (size.sup other).isNegative = false := by
  rw [not_isNegative_iff] at h ⊢
  rw [toInt_width_sup, toInt_height_sup]
  omega

theorem sup_ne_empty (h : other.isNegative = false) (hc : other.covers size ≠ true) :
    size.sup other ≠ {} := by
  intro he
  rw [eq_empty_iff, toInt_width_sup, toInt_height_sup] at he
  rw [not_isNegative_iff] at h
  exact hc ((covers_iff _ _).mpr (by omega))

end Size

namespace Fragment

theorem counted?_eq (n : Nat) : counted? n = if n < UInt64.size then some n else none := rfl

theorem Capacities.ofPixels?_eq (w h : Nat) : ofPixels? w h =
    if 8 * (w * h) < UInt64.size then some ⟨w * h + 1, 8 * (w * h)⟩ else none := by
  simp only [ofPixels?, counted?_eq, Shader.samplesPerPixel, Option.bind_eq_bind]
  by_cases fits : 8 * (w * h) < UInt64.size
  · have hp : w * h < UInt64.size := by omega
    -- the fragments are counted in steps of eight, so room for them leaves room for one counter more
    have hc : w * h + 1 < UInt64.size := by simp only [UInt64.size] at fits ⊢; omega
    simp only [fits, hp, hc, if_true, Option.bind_some, Nat.mul_comm (w * h) 8]
    rfl
  · rw [if_neg fits]
    split
    · rw [Option.bind_some, Nat.mul_comm (w * h) 8, if_neg fits]
      split <;> rfl
    · rfl

/-- The capacities that a screen needs. -/
def Capacities.need (size : Size) : Capacities :=
  ⟨size.columns * size.rows + 1, 8 * (size.columns * size.rows)⟩

/-- Whether the capacities that a screen needs can be counted. -/
def Capacities.Countable (size : Size) : Prop := 8 * (size.columns * size.rows) < UInt64.size

instance (size : Size) : Decidable (Capacities.Countable size) := inferInstanceAs (Decidable (_ < _))

theorem Capacities.ofSize_eq (size : Size) (h : size.isNegative = false) : ofSize size =
    if Countable size then .ok (need size) else .error (.capacityOverflow size) := by
  simp only [ofSize, h, Bool.false_eq_true, if_false, ofPixels?_eq, Countable, need, Size.columns,
    Size.rows]
  by_cases fits : 8 * (size.width.toInt.toNat * size.height.toInt.toNat) < UInt64.size
  · simp only [fits, if_true]
  · simp only [fits, if_false]

/-- The four things that a request comes to. -/
theorem Decision.evaluate_eq (requested recorded : Size) : evaluate requested recorded =
    if requested.isNegative then .error (.invalidSize requested)
    else if recorded.covers requested then .ok .unchanged
    else if Capacities.Countable (requested.sup recorded) then
      .ok (.grow (requested.sup recorded) (Capacities.need (requested.sup recorded)))
    else .error (.capacityOverflow (requested.sup recorded)) := by
  unfold evaluate
  split
  · rfl
  · rename_i hn
    split
    · rfl
    · simp only [Capacities.ofSize_eq _ (requested.sup_not_isNegative recorded (by simpa using hn))]
      split <;> rfl

/-- A request that makes buffers grow asks for what can be counted, and for more than nothing. -/
theorem Decision.of_evaluate_grow {requested recorded size : Size} {caps : Capacities}
    (nonneg : recorded.isNegative = false)
    (h : evaluate requested recorded = .ok (.grow size caps)) :
    size.isNegative = false ∧ size ≠ {} ∧ Capacities.ofSize size = .ok (Capacities.need size) ∧
      caps = Capacities.need size := by
  rw [evaluate_eq] at h
  split at h
  · cases h
  rename_i hn
  split at h
  · cases h
  rename_i hc
  split at h
  · rename_i countable
    cases h
    have hs := requested.sup_not_isNegative recorded (by simpa using hn)
    refine ⟨hs, requested.sup_ne_empty recorded nonneg hc, ?_, rfl⟩
    rw [Capacities.ofSize_eq _ hs, if_pos countable]
  · cases h

/-- What is granted is recorded. -/
theorem Decision.covers_of_evaluate {requested recorded : Size} {d : Decision}
    (h : evaluate requested recorded = .ok d) : (d.record recorded).covers requested = true := by
  rw [evaluate_eq] at h
  split at h
  · cases h
  split at h
  · rename_i covered
    cases h
    exact covered
  split at h
  · cases h
    exact requested.covers_sup recorded
  · cases h

/-- The same size is not granted twice. -/
theorem Decision.evaluate_again {requested recorded : Size} {d : Decision}
    (h : evaluate requested recorded = .ok d) : evaluate requested (d.record recorded) = .ok .unchanged := by
  have nonneg : requested.isNegative = false := by
    cases negative : requested.isNegative with
    | false => rfl
    | true =>
        rw [evaluate, negative, if_pos rfl] at h
        cases h
  rw [evaluate, nonneg, if_neg Bool.false_ne_true, if_pos (covers_of_evaluate h)]

end Fragment

end Transparency

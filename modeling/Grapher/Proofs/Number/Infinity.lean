import Grapher.Proofs.Number.Overflow
import Grapher.Proofs.Number.Sameness

namespace Grapher

open Float.Model Float.Model.UnpackedFloat

variable {u v : UnpackedFloat} {x y : Float}

theorem unpack_inf : Float.inf.toModel.unpack = .infinity .positive := rfl

theorem unpack_infinity (sign : Sign) :
    (Float.Model.pack (.infinity sign)).unpack = .infinity sign := by
  cases sign <;> rfl

theorem le_infinity_iff : UnpackedFloat.le u (.infinity .positive) = true ↔ u.isNaN = false := by
  cases u with
  | notANumber => exact iff_of_false nofun nofun
  | infinity sign => cases sign <;> exact iff_of_true rfl rfl
  | zero sign => exact iff_of_true rfl rfl
  | finite sign => cases sign <;> exact iff_of_true rfl rfl

theorem infinity_le_iff : UnpackedFloat.le (.infinity .negative) u = true ↔ u.isNaN = false := by
  cases u with
  | notANumber => exact iff_of_false nofun nofun
  | infinity sign => cases sign <;> exact iff_of_true rfl rfl
  | zero sign => exact iff_of_true rfl rfl
  | finite sign => cases sign <;> exact iff_of_true rfl rfl

theorem eq_of_infinity_le (le : UnpackedFloat.le (.infinity .positive) u = true) :
    u = .infinity .positive := by
  cases u with
  | notANumber => cases le
  | infinity sign => cases sign <;> first | rfl | cases le
  | zero => cases le
  | finite sign => cases sign <;> cases le

theorem eq_of_le_infinity (le : UnpackedFloat.le u (.infinity .negative) = true) :
    u = .infinity .negative := by
  cases u with
  | notANumber => cases le
  | infinity sign => cases sign <;> first | rfl | cases le
  | zero => cases le
  | finite sign => cases sign <;> cases le

theorem isNaN_of_le (le : UnpackedFloat.le u v = true) : u.isNaN = false ∧ v.isNaN = false := by
  cases u with
  | notANumber => cases le
  | infinity => cases v <;> first | exact ⟨rfl, rfl⟩ | cases le
  | zero => cases v <;> first | exact ⟨rfl, rfl⟩ | cases le
  | finite => cases v <;> first | exact ⟨rfl, rfl⟩ | cases le

theorem le_inf_iff (x : Float) : x ≤ Float.inf ↔ x.isNaN = false := by
  rw [double_le_unpack, unpack_inf]
  exact le_infinity_iff

theorem finite_or_infinity (number : u.isNaN = false) :
    u.isFinite = true ∨ ∃ sign, u = .infinity sign := by
  cases u with
  | notANumber => cases number
  | infinity sign => exact .inr ⟨sign, rfl⟩
  | zero => exact .inl rfl
  | finite => exact .inl rfl

theorem special_of_finite (finite : u.isFinite = true) : u.isNaN = false ∧ u.isInf = false := by
  cases u with
  | notANumber => cases finite
  | infinity => cases finite
  | zero => exact ⟨rfl, rfl⟩
  | finite => exact ⟨rfl, rfl⟩

/-- The order of the doubles is that of the numbers between two infinities. NaN has no place in it. -/
theorem double_le_trans {z : Float} (left : x ≤ y) (right : y ≤ z) : x ≤ z := by
  rw [double_le_unpack] at left right ⊢
  obtain ⟨xNumber, yNumber⟩ := isNaN_of_le left
  obtain ⟨-, zNumber⟩ := isNaN_of_le right
  rcases finite_or_infinity yNumber with yFinite | ⟨sign, infinite⟩
  · rcases finite_or_infinity xNumber with xFinite | ⟨sign, infinite⟩
    · rcases finite_or_infinity zNumber with zFinite | ⟨sign, infinite⟩
      · rw [← double_le_unpack, double_le_iff xFinite yFinite] at left
        rw [← double_le_unpack, double_le_iff yFinite zFinite] at right
        rw [← double_le_unpack, double_le_iff xFinite zFinite]
        exact left.trans right
      · rw [infinite] at right ⊢
        cases sign with
        | positive => exact le_infinity_iff.mpr xNumber
        | negative =>
            rw [eq_of_le_infinity right] at yFinite
            cases yFinite
    · rw [infinite] at left ⊢
      cases sign with
      | positive =>
          rw [eq_of_infinity_le left] at yFinite
          cases yFinite
      | negative => exact infinity_le_iff.mpr zNumber
  · rw [infinite] at left right
    cases sign with
    | positive =>
        rw [eq_of_infinity_le right]
        exact le_infinity_iff.mpr xNumber
    | negative =>
        rw [eq_of_le_infinity left]
        exact infinity_le_iff.mpr zNumber

theorem abs_canonical (canonical : Canonical u) : Canonical u.abs := by
  cases u <;> exact canonical

theorem abs_inRange (inRange : InRange u) : InRange u.abs := by
  cases u <;> exact inRange

theorem abs_isFinite (u : UnpackedFloat) : u.abs.isFinite = u.isFinite := by
  cases u <;> rfl

theorem isNaN_abs (x : Float) : x.abs.isNaN = x.isNaN := by
  change (Float.Model.pack x.toModel.unpack.abs).unpack.isNaN = x.toModel.unpack.isNaN
  obtain ⟨canonical, inRange⟩ := unpack_spec x.toModel
  by_cases finite : x.toModel.unpack.isFinite = true
  · have size := (abs_isFinite _).trans finite
    rw [unpack_pack size (abs_canonical canonical) (abs_inRange inRange),
      (special_of_finite finite).1, (special_of_finite size).1]
  · cases unpacked : x.toModel.unpack with
    | notANumber => rfl
    | infinity sign =>
        rw [show (UnpackedFloat.infinity sign).abs = .infinity .positive from rfl, unpack_infinity]
        rfl
    | zero => exact absurd (unpacked ▸ rfl) finite
    | finite => exact absurd (unpacked ▸ rfl) finite

theorem infinity_sub (sign : Sign) (finite : v.isFinite = true) :
    UnpackedFloat.sub .binary64 (.infinity sign) v = .infinity sign ∧
      UnpackedFloat.compare (.infinity sign) v ≠ some .eq := by
  cases v with
  | notANumber => cases finite
  | infinity => cases finite
  | zero => exact ⟨rfl, by cases sign <;> exact nofun⟩
  | finite => exact ⟨rfl, by cases sign <;> exact nofun⟩

theorem sub_infinity (sign : Sign) (finite : u.isFinite = true) :
    UnpackedFloat.sub .binary64 u (.infinity sign) = .infinity (-sign) := by
  cases u with
  | notANumber => cases finite
  | infinity => cases finite
  | zero => rfl
  | finite => rfl

theorem isNaN_sub (left : x.isNaN = false) (right : y.isNaN = false) :
    (x - y).isNaN = true ↔ x.isInf = true ∧ (x == y) = true := by
  rw [double_beq_unpack]
  change (Float.Model.pack
    (UnpackedFloat.sub .binary64 x.toModel.unpack y.toModel.unpack)).unpack.isNaN = true ↔
      x.toModel.unpack.isInf = true ∧ _
  rcases finite_or_infinity left with finite | ⟨sign, infinite⟩
  · rw [(special_of_finite finite).2]
    refine iff_of_false (Bool.eq_false_iff.mp ?_) fun both => Bool.false_ne_true both.1
    rcases finite_or_infinity right with finite' | ⟨sign', infinite'⟩
    · exact (sub_represents (represents_of_isFinite finite)
        (represents_of_isFinite finite')).pack_isNaN
    · rw [infinite', sub_infinity sign' finite, unpack_infinity]
      rfl
  · rw [infinite]
    rcases finite_or_infinity right with finite' | ⟨sign', infinite'⟩
    · rw [(infinity_sub sign finite').1, unpack_infinity]
      exact iff_of_false Bool.false_ne_true fun both => (infinity_sub sign finite').2 both.2
    · rw [infinite']
      cases sign <;> cases sign' <;> decide

/-- An infinite bound holds back two numbers only if they are the same infinity. -/
theorem distance_le_inf (left : x.isNaN = false) (right : y.isNaN = false) :
    (x - y).abs ≤ Float.inf ↔ ¬(x.isInf = true ∧ (x == y) = true) := by
  rw [le_inf_iff, isNaN_abs, ← isNaN_sub left right, Bool.not_eq_true]

end Grapher

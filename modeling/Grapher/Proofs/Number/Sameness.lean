import Grapher.Number.Scalar
import Grapher.Proofs.Number.Double

namespace Grapher

open Float.Model Float.Model.UnpackedFloat

variable {u v : UnpackedFloat}

theorem same_of_scaled {exponent exponent' : Int} {mantissa mantissa' : Nat}
    (same : (compare exponent exponent').then (compare mantissa mantissa') = .eq) :
    exponent = exponent' ∧ mantissa = mantissa' := by
  obtain ⟨exponents, mantissas⟩ := Ordering.then_eq_eq.mp same
  exact ⟨Int.compare_eq_eq.mp exponents, Nat.compare_eq_eq.mp mantissas⟩

theorem same_of_compare (same : UnpackedFloat.compare u v = some .eq) :
    u = v ∨ ∃ sign sign', u = .zero sign ∧ v = .zero sign' := by
  cases u with
  | notANumber => cases same
  | infinity sign =>
      cases v with
      | infinity sign' => cases sign <;> cases sign' <;> first | exact .inl rfl | cases same
      | _ => cases sign <;> cases same
  | zero sign =>
      cases v with
      | notANumber => cases same
      | infinity sign' => cases sign' <;> cases same
      | zero sign' => exact .inr ⟨sign, sign', rfl, rfl⟩
      | finite sign' => cases sign' <;> cases same
  | finite sign mantissa exponent pos =>
      cases v with
      | notANumber => cases same
      | infinity sign' => cases sign' <;> cases same
      | zero sign' => cases sign <;> cases same
      | finite sign' mantissa' exponent' pos' =>
          cases sign with
          | negative =>
              cases sign' with
              | negative =>
                  obtain ⟨rfl, rfl⟩ := same_of_scaled (Ordering.swap_eq_eq.mp (Option.some.inj same))
                  exact .inl rfl
              | positive => cases same
          | positive =>
              cases sign' with
              | negative => cases same
              | positive =>
                  obtain ⟨rfl, rfl⟩ := same_of_scaled (Option.some.inj same)
                  exact .inl rfl

theorem eq_zero_of_compare {sign : Sign} (same : UnpackedFloat.compare u (.zero sign) = some .eq) :
    ∃ sign', u = .zero sign' := by
  rcases same_of_compare same with rfl | ⟨sign', -, zero, -⟩
  · exact ⟨sign, rfl⟩
  · exact ⟨sign', zero⟩

theorem eq_of_compare (same : UnpackedFloat.compare u v = some .eq)
    (nonzero : ∀ sign, v ≠ .zero sign) : u = v := by
  rcases same_of_compare same with rfl | ⟨-, sign, -, zero⟩
  · rfl
  · exact absurd zero (nonzero sign)

theorem compare_self (same : UnpackedFloat.compare u v = some .eq) :
    UnpackedFloat.compare u u = some .eq := by
  rcases same_of_compare same with rfl | ⟨sign, sign', rfl, rfl⟩
  · exact same
  · rfl

theorem compare_symm (same : UnpackedFloat.compare u v = some .eq) :
    UnpackedFloat.compare v u = some .eq := by
  rcases same_of_compare same with rfl | ⟨sign, sign', rfl, rfl⟩
  · exact same
  · rfl

theorem double_beq_self {x y : Float} (same : (x == y) = true) : (x == x) = true :=
  (double_beq_unpack x x).mpr (compare_self ((double_beq_unpack x y).mp same))

theorem double_beq_symm {x y : Float} (same : (x == y) = true) : (y == x) = true :=
  (double_beq_unpack y x).mpr (compare_symm ((double_beq_unpack x y).mp same))

theorem sub_self_eq (u : UnpackedFloat) :
    UnpackedFloat.sub .binary64 u u = if u.isFinite then .zero .positive else .notANumber := by
  cases u with
  | notANumber => rfl
  | infinity sign => cases sign <;> rfl
  | zero sign => cases sign <;> rfl
  | finite sign mantissa exponent pos =>
      simp only [UnpackedFloat.sub, Int.sub_self]
      rfl

theorem sub_zeros (sign sign' : Sign) :
    ∃ other, UnpackedFloat.sub .binary64 (.zero sign) (.zero sign') = .zero other := by
  cases sign <;> cases sign' <;> exact ⟨_, rfl⟩

theorem mul_zero_finite (sign : Sign) (finite : v.isFinite = true) :
    ∃ other, UnpackedFloat.mul .binary64 (.zero sign) v = .zero other := by
  cases v with
  | notANumber => cases finite
  | infinity => cases finite
  | zero sign' => exact ⟨_, rfl⟩
  | finite sign' => exact ⟨_, rfl⟩

theorem unpack_mul (x y : Float) :
    (x * y).toModel.unpack =
      (Float.Model.pack (UnpackedFloat.mul .binary64 x.toModel.unpack y.toModel.unpack)).unpack := rfl

theorem unpack_abs_sub (x y : Float) :
    (x - y).abs.toModel.unpack =
      (Float.Model.pack (UnpackedFloat.abs (Float.Model.pack
        (UnpackedFloat.sub .binary64 x.toModel.unpack y.toModel.unpack)).unpack)).unpack := rfl

theorem unpack_zero (sign : Sign) : (Float.Model.pack (.zero sign)).unpack = .zero sign := by
  cases sign <;> rfl

theorem zero_le_of_positive {x : Float} (number : x.isNaN = false) (positive : ¬x ≤ 0) :
    UnpackedFloat.le (.zero .positive) x.toModel.unpack = true := by
  have zero : (0 : Float).toModel.unpack = .zero .positive := rfl
  rw [double_le_unpack, zero] at positive
  change x.toModel.unpack.isNaN = false at number
  cases unpacked : x.toModel.unpack with
  | notANumber =>
      rw [unpacked] at number
      cases number
  | infinity sign =>
      rw [unpacked] at positive
      cases sign with
      | negative => exact absurd rfl positive
      | positive => rfl
  | zero sign => rfl
  | finite sign =>
      rw [unpacked] at positive
      cases sign with
      | negative => exact absurd rfl positive
      | positive => rfl

/-- Numbers equal to one, scaled, are no distance apart, unless they grow too large for a double: two
infinities have no difference. -/
theorem level_rise {x y z scale bound : Float} (left : (x == z) = true) (right : (y == z) = true)
    (finite : scale.isFinite = true) (number : bound.isNaN = false) (positive : ¬bound ≤ 0) :
    (x * scale - y * scale).abs ≤ bound ↔ (z * scale).isFinite = true := by
  have close := zero_le_of_positive number positive
  rw [double_beq_unpack] at left right
  rw [double_le_unpack, unpack_abs_sub, unpack_mul, unpack_mul]
  change _ ↔ (z * scale).toModel.unpack.isFinite = true
  rw [unpack_mul]
  by_cases zero : ∃ sign, z.toModel.unpack = .zero sign
  · obtain ⟨sign, zero⟩ := zero
    rw [zero] at left right ⊢
    obtain ⟨signLeft, zeroLeft⟩ := eq_zero_of_compare left
    obtain ⟨signRight, zeroRight⟩ := eq_zero_of_compare right
    obtain ⟨first, scaledLeft⟩ := mul_zero_finite signLeft finite
    obtain ⟨second, scaledRight⟩ := mul_zero_finite signRight finite
    obtain ⟨third, difference⟩ := sub_zeros first second
    obtain ⟨fourth, scaled⟩ := mul_zero_finite sign finite
    have size : (UnpackedFloat.zero third).abs = .zero .positive := rfl
    rw [zeroLeft, zeroRight, scaledLeft, scaledRight, scaled, unpack_zero, unpack_zero, unpack_zero,
      difference, unpack_zero, size, unpack_zero]
    exact iff_of_true close rfl
  · have nonzero : ∀ sign, z.toModel.unpack ≠ .zero sign := fun sign other => zero ⟨sign, other⟩
    rw [eq_of_compare left nonzero, eq_of_compare right nonzero, sub_self_eq]
    split_ifs with scaled
    · exact iff_of_true close scaled
    · exact iff_of_false Bool.false_ne_true scaled

end Grapher

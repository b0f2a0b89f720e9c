import Grapher.Number.Scalar
import Grapher.Proofs.Number.Double

namespace Grapher

section Widening

open Float.Model Float.Model.UnpackedFloat

def valueOfSingle (x : Float32) : ℚ := valueOf x.toModel.unpack

theorem decode?_double {x : Float} (finite : x.isFinite = true) :
    ∃ d, x.decode? = some d ∧ d.value = valueOfDouble x :=
  @Exact.ofBits?_of_finite .binary64 _ finite

theorem value_of_decode? {x : Float} {d : Exact} (read : x.decode? = some d) :
    valueOfDouble x = d.value :=
  (@Exact.finite_of_ofBits? .binary64 _ _ read).2.symm

theorem decode?_single {x : Float32} (finite : x.isFinite = true) :
    ∃ d, x.decode? = some d ∧ d.value = valueOfSingle x :=
  @Exact.ofBits?_of_finite .binary32 _ finite

namespace Exact

/-- A number that is a normal double, or zero. -/
def IsDouble (d : Exact) : Prop :=
  d.mantissa < 2 ^ 53 ∧
    (d.mantissa ≠ 0 → -1022 ≤ d.exponent + d.mantissa.log2 ∧ d.exponent + d.mantissa.log2 ≤ 1023)

theorem isDouble_of_single {bits : ℕ} {d : Exact} (read : ofBits? 8 23 bits = some d) :
    d.IsDouble := by
  have digits : d.mantissa < 2 ^ 24 ∧ -149 ≤ d.exponent ∧ d.exponent ≤ 104 := by
    have low := Nat.mod_lt bits (show 0 < Nat.pow 2 23 by decide)
    have power := Nat.mod_lt (bits / Nat.pow 2 23) (show 0 < Nat.pow 2 8 by decide)
    simp only [ofBits?, Nat.pow_eq] at read low power
    split_ifs at read with top bottom
    · cases read
      refine ⟨?_, ?_, ?_⟩ <;> dsimp only <;> omega
    · cases read
      refine ⟨?_, ?_, ?_⟩ <;> dsimp only <;> omega
  refine ⟨by omega, fun nonzero => ?_⟩
  have log := (Nat.log2_lt nonzero).mpr digits.1
  omega

theorem ofBits?_fields {sign fraction : ℕ} (power : ℕ) (bit : sign < 2) (normal : 1 ≤ power)
    (finite : power ≤ 2046) (low : fraction < 2 ^ 52) :
    ofBits? 11 52 (sign * 2 ^ 63 + power * 2 ^ 52 + fraction) =
      some ⟨sign == 1, 2 ^ 52 + fraction, power - 1075⟩ := by
  have field : (sign * 2 ^ 63 + power * 2 ^ 52 + fraction) / 2 ^ 52 % 2 ^ 11 = power := by omega
  have mantissa : (sign * 2 ^ 63 + power * 2 ^ 52 + fraction) % 2 ^ 52 = fraction := by omega
  have top : (sign * 2 ^ 63 + power * 2 ^ 52 + fraction) / 2 ^ (11 + 52) % 2 = sign := by omega
  simp only [ofBits?, Nat.pow_eq, field, mantissa, top]
  rw [if_neg (by omega), if_neg (by omega)]
  rfl

theorem ofBits_value {bits : ℕ} {d : Exact} (word : bits < 2 ^ 64)
    (read : ofBits? 11 52 bits = some d) :
    (Float.ofBits (UInt64.ofNat bits)).isFinite = true ∧
      valueOfDouble (Float.ofBits (UInt64.ofNat bits)) = d.value := by
  have own : (UInt64.ofNat bits).toBitVec.toNat = bits := Nat.mod_eq_of_lt word
  obtain ⟨finite, value⟩ := @finite_of_ofBits? .binary64 _ _ (own.symm ▸ read)
  have kept := ofBits_spec finite
  refine ⟨?_, ?_⟩
  · change (Float.ofBits (UInt64.ofNat bits)).toModel.unpack.isFinite = true
    rw [kept]
    exact finite
  · rw [valueOfDouble, kept, value]

theorem shifted_value {mantissa width : ℕ} (least : 2 ^ width ≤ mantissa) (digits : width ≤ 52)
    (exponent : ℤ) :
    ((2 ^ 52 + (mantissa - 2 ^ width) * 2 ^ (52 - width) : ℕ) : ℚ) * 2 ^ (exponent + width - 52) =
      mantissa * 2 ^ exponent := by
  obtain ⟨rest, rfl⟩ := Nat.exists_eq_add_of_le least
  obtain ⟨shift, full⟩ := Nat.exists_eq_add_of_le digits
  have place : exponent + width - 52 = exponent - shift := by omega
  have mantissa : 2 ^ 52 + (2 ^ width + rest - 2 ^ width) * 2 ^ (52 - width) =
      (2 ^ width + rest) * 2 ^ shift := by
    rw [full, Nat.add_sub_cancel_left, Nat.add_sub_cancel_left, Nat.pow_add, Nat.add_mul]
  rw [mantissa, place, zpow_sub₀ two_ne_zero, zpow_natCast]
  push_cast
  field_simp

theorem fraction_lt (mantissa : ℕ) (digits : mantissa.log2 ≤ 52) :
    (mantissa - 2 ^ mantissa.log2) * 2 ^ (52 - mantissa.log2) < 2 ^ 52 := by
  have above : mantissa < 2 ^ (mantissa.log2 + 1) := Nat.lt_log2_self
  have below : mantissa - 2 ^ mantissa.log2 < 2 ^ mantissa.log2 := by omega
  calc (mantissa - 2 ^ mantissa.log2) * 2 ^ (52 - mantissa.log2)
      < 2 ^ mantissa.log2 * 2 ^ (52 - mantissa.log2) := by gcongr
    _ = 2 ^ 52 := by rw [← Nat.pow_add, Nat.add_sub_cancel' digits]

theorem toFloat_spec {d : Exact} (isDouble : d.IsDouble) :
    d.toFloat.isFinite = true ∧ valueOfDouble d.toFloat = d.value := by
  obtain ⟨negative, mantissa, exponent⟩ := d
  obtain ⟨digits, range⟩ := isDouble
  dsimp only at digits range
  have sign : (if negative then Nat.pow 2 63 else 0) = negative.toNat * 2 ^ 63 := by
    cases negative <;> rfl
  have bit : (negative.toNat == 1) = negative := by cases negative <;> rfl
  have bound : negative.toNat < 2 := Bool.toNat_lt negative
  rcases eq_or_ne mantissa 0 with rfl | nonzero
  · have read : ofBits? 11 52 (negative.toNat * 2 ^ 63) = some ⟨negative, 0, -1074⟩ := by
      cases negative <;> decide
    have zero := ofBits_value (by omega) read
    rw [toFloat, sign]
    simpa [value] using zero
  · obtain ⟨least, greatest⟩ := range nonzero
    have width : mantissa.log2 < 53 := (Nat.log2_lt nonzero).mpr digits
    have top : 2 ^ mantissa.log2 ≤ mantissa := Nat.log2_self_le nonzero
    have low := fraction_lt mantissa (show mantissa.log2 ≤ 52 by omega)
    have place : ((exponent + mantissa.log2 + 1023).toNat - 1075 : ℤ) =
        exponent + mantissa.log2 - 52 := by
      omega
    have read := ofBits?_fields (exponent + mantissa.log2 + 1023).toNat bound (by omega) (by omega) low
    have written := ofBits_value (by omega) read
    simp only [toFloat, sign, Nat.pow_eq, if_neg nonzero]
    refine ⟨written.1, ?_⟩
    rw [written.2, value, value, bit, place, shifted_value top (by omega)]

end Exact

theorem widen_spec {x : Float32} (finite : x.isFinite = true) :
    (widen x).isFinite = true ∧ valueOfDouble (widen x) = valueOfSingle x := by
  obtain ⟨d, read, value⟩ := decode?_single finite
  rw [widen, read, ← value]
  exact Exact.toFloat_spec (Exact.isDouble_of_single read)

theorem single_le_iff {x y : Float32} (xFinite : x.isFinite = true) (yFinite : y.isFinite = true) :
    x ≤ y ↔ valueOfSingle x ≤ valueOfSingle y := by
  change decide (x.toModel ≤ y.toModel) = true ↔ _
  rw [decide_eq_true_iff]
  exact @le_iff_valueOf .binary32 _ _ xFinite yFinite (canonicalIn_unpack _) (canonicalIn_unpack _)

theorem single_lt_iff {x y : Float32} (xFinite : x.isFinite = true) (yFinite : y.isFinite = true) :
    x < y ↔ valueOfSingle x < valueOfSingle y := by
  change decide (x.toModel < y.toModel) = true ↔ _
  rw [decide_eq_true_iff]
  exact @lt_iff_valueOf .binary32 _ _ xFinite yFinite (canonicalIn_unpack _) (canonicalIn_unpack _)

end Widening

/-- The number that a scalar stands for, zero if it is not finite. -/
def Scalar.exact {α : Type} [Scalar α] (x : α) : ℚ :=
  ((Scalar.decode? x).map Exact.value).getD 0

class LawfulScalar (α : Type) [Scalar α] : Prop where
  toFloat_finite {x : α} (finite : Scalar.isFinite x = true) : (Scalar.toFloat x).isFinite = true
  toFloat_value {x : α} (finite : Scalar.isFinite x = true) :
    valueOfDouble (Scalar.toFloat x) = Scalar.exact x
  less_iff {x y : α} (left : Scalar.isFinite x = true) (right : Scalar.isFinite y = true) :
    Scalar.less x y = true ↔ Scalar.exact x < Scalar.exact y
  lessEq_iff {x y : α} (left : Scalar.isFinite x = true) (right : Scalar.isFinite y = true) :
    Scalar.lessEq x y = true ↔ Scalar.exact x ≤ Scalar.exact y
  zero : Scalar.isFinite (Scalar.zero : α) = true ∧ Scalar.exact (Scalar.zero : α) = 0
  one : Scalar.isFinite (Scalar.one : α) = true ∧ Scalar.exact (Scalar.one : α) = 1
  minusOne : Scalar.isFinite (-Scalar.one : α) = true ∧ Scalar.exact (-Scalar.one : α) = -1

theorem exact_of_decode? {α : Type} [Scalar α] {x : α} {d : Exact} {value : ℚ}
    (read : Scalar.decode? x = some d) (own : d.value = value) : Scalar.exact x = value := by
  rw [Scalar.exact, read, Option.map_some, Option.getD_some, own]

theorem exact_double {x : Float} (finite : x.isFinite = true) :
    Scalar.exact x = valueOfDouble x := by
  obtain ⟨d, read, value⟩ := decode?_double finite
  exact exact_of_decode? read value

theorem exact_single {x : Float32} (finite : x.isFinite = true) :
    Scalar.exact x = valueOfSingle x := by
  obtain ⟨d, read, value⟩ := decode?_single finite
  exact exact_of_decode? read value

instance : LawfulScalar Float where
  toFloat_finite finite := finite
  toFloat_value finite := (exact_double finite).symm
  less_iff {x y} left right := by
    rw [exact_double left, exact_double right, ← double_lt_iff left right]
    exact decide_eq_true_iff
  lessEq_iff {x y} left right := by
    rw [exact_double left, exact_double right, ← double_le_iff left right]
    exact decide_eq_true_iff
  zero := ⟨by decide +kernel,
    exact_of_decode? (d := ⟨false, 0, -1074⟩) (by decide +kernel) (by norm_num [Exact.value])⟩
  one := ⟨by decide +kernel,
    exact_of_decode? (d := ⟨false, 2 ^ 52, -52⟩) (by decide +kernel) (by norm_num [Exact.value])⟩
  minusOne := ⟨by decide +kernel,
    exact_of_decode? (d := ⟨true, 2 ^ 52, -52⟩) (by decide +kernel) (by norm_num [Exact.value])⟩

instance : LawfulScalar Float32 where
  toFloat_finite finite := (widen_spec finite).1
  toFloat_value finite := (widen_spec finite).2.trans (exact_single finite).symm
  less_iff {x y} left right := by
    rw [exact_single left, exact_single right, ← single_lt_iff left right]
    exact decide_eq_true_iff
  lessEq_iff {x y} left right := by
    rw [exact_single left, exact_single right, ← single_le_iff left right]
    exact decide_eq_true_iff
  zero := ⟨by decide +kernel,
    exact_of_decode? (d := ⟨false, 0, -149⟩) (by decide +kernel) (by norm_num [Exact.value])⟩
  one := ⟨by decide +kernel,
    exact_of_decode? (d := ⟨false, 2 ^ 23, -23⟩) (by decide +kernel) (by norm_num [Exact.value])⟩
  minusOne := ⟨by decide +kernel,
    exact_of_decode? (d := ⟨true, 2 ^ 23, -23⟩) (by decide +kernel) (by norm_num [Exact.value])⟩

end Grapher

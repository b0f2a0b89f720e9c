import Grapher.Number.Scalar
import Grapher.Proofs.Number.Rounding

namespace Grapher

section Layout

open Float.Model Float.Model.UnpackedFloat

variable {spec : Format}

/-- A mantissa of all the digits of a format, of fewer only at its least exponent. -/
def CanonicalIn (spec : Format) : UnpackedFloat → Prop
  | .finite _ mantissa exponent _ =>
    mantissa < 2 ^ spec.mantissaBits ∧ spec.minExponent ≤ exponent ∧
      (spec.minExponent < exponent → 2 ^ spec.mantissaBitsWithoutImplicit ≤ mantissa)
  | _ => True

theorem canonicalIn_binary64 (u : UnpackedFloat) : CanonicalIn .binary64 u ↔ Canonical u := by
  cases u <;> rfl

theorem toNat_unpackMantissa (bits : BitVec spec.numBits) :
    (unpackMantissa bits).toNat = bits.toNat % 2 ^ spec.mantissaBitsWithoutImplicit := by
  have width : spec.mantissaBitsWithoutImplicit - 1 - 0 + 1 = spec.mantissaBitsWithoutImplicit := by
    have := spec.hm
    omega
  rw [unpackMantissa, BitVec.toNat_cast, BitVec.extractLsb_toNat, Nat.shiftRight_zero, width]

theorem toNat_unpackExponent (bits : BitVec spec.numBits) :
    (unpackExponent bits).toNat =
      bits.toNat / 2 ^ spec.mantissaBitsWithoutImplicit % 2 ^ spec.exponentBits := by
  have width : spec.mantissaBitsWithoutImplicit + spec.exponentBits - 1 -
      spec.mantissaBitsWithoutImplicit + 1 = spec.exponentBits := by
    have := spec.he
    omega
  rw [unpackExponent, BitVec.toNat_cast, BitVec.extractLsb_toNat, Nat.shiftRight_eq_div_pow, width]

theorem toNat_unpackSign (bits : BitVec spec.numBits) :
    (unpackSign bits).toNat =
      bits.toNat / 2 ^ (spec.exponentBits + spec.mantissaBitsWithoutImplicit) % 2 := by
  rw [unpackSign, BitVec.toNat_cast, BitVec.extractLsb_toNat, Nat.shiftRight_eq_div_pow, Nat.sub_self,
    Nat.add_comm spec.exponentBits]

theorem toNat_join {width : ℕ} (mantissa : BitVec width) :
    (1#1 ++ mantissa).toNat = 2 ^ width + mantissa.toNat := by
  rw [BitVec.toNat_append, ← Nat.shiftLeft_add_eq_or_of_lt mantissa.isLt, BitVec.toNat_ofNat,
    Nat.shiftLeft_eq]
  simp

theorem minExponent_eq (spec : Format) :
    spec.minExponent = 1 - (spec.exponentBias + spec.mantissaBitsWithoutImplicit : ℕ) := by
  have power : 1 ≤ 2 ^ (spec.exponentBits - 1) := Nat.one_le_two_pow
  have cast : ((2 ^ (spec.exponentBits - 1) : ℕ) : ℤ) = 2 ^ (spec.exponentBits - 1) := by push_cast; rfl
  simp only [Format.minExponent, Format.exponentBias, Format.mantissaBits]
  omega

theorem canonicalIn_unpack (bits : BitVec spec.numBits) : CanonicalIn spec (unpack spec bits) := by
  have least := minExponent_eq spec
  have mantissaSmall := (unpackMantissa bits).isLt
  have joined := toNat_join (unpackMantissa bits)
  have digits : (2 : ℕ) ^ spec.mantissaBits = 2 * 2 ^ spec.mantissaBitsWithoutImplicit := by
    rw [Format.mantissaBits, Nat.pow_add, Nat.pow_one]
  unfold UnpackedFloat.unpack
  dsimp only
  split_ifs with top none bottom none
  · trivial
  · trivial
  · trivial
  · rw [bottom]
    refine ⟨by omega, ?_, ?_⟩
    · simp only [BitVec.toNat_zero]
      omega
    · simp only [BitVec.toNat_zero]
      omega
  · have notBottom : (unpackExponent bits).toNat ≠ 0 := fun zero => bottom (BitVec.eq_of_toNat_eq zero)
    exact ⟨by omega, by omega, fun _ => by omega⟩

namespace Exact

def value (d : Exact) : ℚ :=
  (if d.negative then -1 else 1) * (d.mantissa * 2 ^ d.exponent)

theorem value_mk (sign : Sign) (mantissa : ℕ) (exponent : ℤ) :
    (mk (sign == .negative) mantissa exponent).value =
      (sign.apply 1 : ℤ) * (mantissa * 2 ^ exponent) := by
  cases sign <;> simp [value, Sign.apply]

theorem ofBits?_eq (bits : BitVec spec.numBits) :
    ofBits? spec.exponentBits spec.mantissaBitsWithoutImplicit bits.toNat =
      if unpackExponent bits = -1#_ then none
      else if unpackExponent bits = 0#_ then
        some ⟨Sign.ofBitVec (unpackSign bits) == .negative, (unpackMantissa bits).toNat,
          spec.minExponent⟩
      else
        some ⟨Sign.ofBitVec (unpackSign bits) == .negative, (1#1 ++ unpackMantissa bits).toNat,
          (unpackExponent bits).toNat - (spec.exponentBias + spec.mantissaBitsWithoutImplicit : ℕ)⟩ := by
  have top : unpackExponent bits = -1#_ ↔
      (unpackExponent bits).toNat = 2 ^ spec.exponentBits - 1 := by
    rw [BitVec.neg_one_eq_allOnes, ← BitVec.toNat_inj, BitVec.toNat_allOnes]
  have bottom : unpackExponent bits = 0#_ ↔ (unpackExponent bits).toNat = 0 := by
    rw [← BitVec.toNat_inj, BitVec.toNat_zero]
  have sign : (Sign.ofBitVec (unpackSign bits) == .negative) = ((unpackSign bits).toNat == 1) := by
    generalize unpackSign bits = bit
    revert bit
    decide
  simp only [top, bottom, sign, toNat_join, minExponent_eq, toNat_unpackExponent, toNat_unpackSign,
    toNat_unpackMantissa]
  rfl

theorem ofBits?_unpack (bits : BitVec spec.numBits) :
    match ofBits? spec.exponentBits spec.mantissaBitsWithoutImplicit bits.toNat with
    | some d => (unpack spec bits).isFinite = true ∧ d.value = valueOf (unpack spec bits)
    | none => (unpack spec bits).isFinite = false := by
  rw [ofBits?_eq]
  have least := minExponent_eq spec
  unfold UnpackedFloat.unpack
  dsimp only
  split_ifs with top none bottom none
  · rfl
  · rfl
  · refine ⟨rfl, ?_⟩
    rw [value_mk, none, valueOf_zero]
    simp
  · refine ⟨rfl, ?_⟩
    rw [value_mk, valueOf, apply_cast, mul_assoc, bottom, least, BitVec.toNat_zero]
    push_cast
    ring_nf
  · refine ⟨rfl, ?_⟩
    rw [value_mk, valueOf, apply_cast, mul_assoc]
    push_cast
    rfl

theorem ofBits?_of_finite {bits : BitVec spec.numBits} (finite : (unpack spec bits).isFinite = true) :
    ∃ d, ofBits? spec.exponentBits spec.mantissaBitsWithoutImplicit bits.toNat = some d ∧
      d.value = valueOf (unpack spec bits) := by
  have read := ofBits?_unpack bits
  split at read
  · rename_i d same
    exact ⟨d, same, read.2⟩
  · rw [read] at finite
    cases finite

theorem finite_of_ofBits? {bits : BitVec spec.numBits} {d : Exact}
    (read : ofBits? spec.exponentBits spec.mantissaBitsWithoutImplicit bits.toNat = some d) :
    (unpack spec bits).isFinite = true ∧ d.value = valueOf (unpack spec bits) := by
  have known := ofBits?_unpack bits
  rwa [read] at known

end Exact

end Layout

section Order

open Float.Model Float.Model.UnpackedFloat

variable {spec : Format}

/-- A greater exponent outweighs every mantissa. -/
theorem scaled_lt_scaled {mantissa mantissa' : ℕ} {exponent exponent' : ℤ}
    (digits : mantissa < 2 ^ spec.mantissaBits)
    (full : 2 ^ spec.mantissaBitsWithoutImplicit ≤ mantissa') (less : exponent < exponent') :
    (mantissa * 2 ^ exponent : ℚ) < mantissa' * 2 ^ exponent' := by
  calc (mantissa * 2 ^ exponent : ℚ) < 2 ^ (spec.mantissaBits + exponent) :=
        digits_scaled_lt digits exponent
    _ ≤ 2 ^ (spec.mantissaBitsWithoutImplicit + exponent') := by
        refine zpow_le_zpow_right₀ one_le_two ?_
        rw [Format.mantissaBits]
        omega
    _ ≤ mantissa' * 2 ^ exponent' := le_full_scaled full exponent'

theorem compare_scaled {mantissa mantissa' : ℕ} {exponent exponent' : ℤ} {sign sign' : Sign}
    {pos : 0 < mantissa} {pos' : 0 < mantissa'}
    (canonical : CanonicalIn spec (.finite sign mantissa exponent pos))
    (canonical' : CanonicalIn spec (.finite sign' mantissa' exponent' pos')) :
    (compare exponent exponent').then (compare mantissa mantissa') =
      compare (mantissa * 2 ^ exponent : ℚ) (mantissa' * 2 ^ exponent') := by
  have ⟨digits, least, full⟩ := canonical
  have ⟨digits', least', full'⟩ := canonical'
  rcases lt_trichotomy exponent exponent' with less | rfl | greater
  · rw [compare_lt_iff_lt.mpr less,
      compare_lt_iff_lt.mpr (scaled_lt_scaled digits (full' (by omega)) less)]
    rfl
  · have unit : (0 : ℚ) < 2 ^ exponent := by positivity
    rw [compare_eq_iff_eq.mpr rfl, Ordering.eq_then]
    symm
    rw [compare_iff]
    cases order : compare mantissa mantissa' with
    | lt =>
        have := compare_lt_iff_lt.mp order
        exact mul_lt_mul_of_pos_right (by exact_mod_cast this) unit
    | eq =>
        have := compare_eq_iff_eq.mp order
        exact congrArg (fun n : ℕ => (n * 2 ^ exponent : ℚ)) this
    | gt =>
        have := compare_gt_iff_gt.mp order
        exact mul_lt_mul_of_pos_right (by exact_mod_cast this) unit
  · rw [compare_gt_iff_gt.mpr greater,
      compare_gt_iff_gt.mpr (scaled_lt_scaled digits' (full (by omega)) greater)]
    rfl

theorem compare_neg_neg (x y : ℚ) : compare (-x) (-y) = (compare x y).swap := by
  rw [← Std.OrientedCmp.eq_swap, compare_iff]
  cases order : compare y x with
  | lt => exact neg_lt_neg (compare_lt_iff_lt.mp order)
  | eq => exact neg_inj.mpr (compare_eq_iff_eq.mp order).symm
  | gt => exact neg_lt_neg (compare_gt_iff_gt.mp order)

theorem compare_valueOf {u v : UnpackedFloat} (uFinite : u.isFinite = true)
    (vFinite : v.isFinite = true) (uCanonical : CanonicalIn spec u) (vCanonical : CanonicalIn spec v) :
    u.compare v = some (compare (valueOf u) (valueOf v)) := by
  have scaled (mantissa : ℕ) (exponent : ℤ) (pos : 0 < mantissa) :
      (0 : ℚ) < mantissa * 2 ^ exponent := by positivity
  cases u with
  | notANumber => contradiction
  | infinity => contradiction
  | zero sign =>
      cases v with
      | notANumber => contradiction
      | infinity => contradiction
      | zero sign' => rfl
      | finite sign' mantissa exponent pos =>
          have positive := scaled mantissa exponent pos
          symm
          cases sign' with
          | positive =>
              rw [valueOf_zero, valueOf_positive, compare_lt_iff_lt.mpr positive]
              rfl
          | negative =>
              rw [valueOf_zero, valueOf_negative, compare_gt_iff_gt.mpr (neg_neg_of_pos positive)]
              rfl
  | finite sign mantissa exponent pos =>
      have positive := scaled mantissa exponent pos
      cases v with
      | notANumber => contradiction
      | infinity => contradiction
      | zero sign' =>
          symm
          cases sign with
          | positive =>
              rw [valueOf_zero, valueOf_positive, compare_gt_iff_gt.mpr positive]
              rfl
          | negative =>
              rw [valueOf_zero, valueOf_negative, compare_lt_iff_lt.mpr (neg_neg_of_pos positive)]
              rfl
      | finite sign' mantissa' exponent' pos' =>
          have positive' := scaled mantissa' exponent' pos'
          have order := compare_scaled uCanonical vCanonical
          cases sign with
          | positive =>
              cases sign' with
              | positive =>
                  rw [valueOf_positive, valueOf_positive, ← order]
                  rfl
              | negative =>
                  rw [valueOf_positive, valueOf_negative, compare_gt_iff_gt.mpr (by linarith)]
                  rfl
          | negative =>
              cases sign' with
              | positive =>
                  rw [valueOf_negative, valueOf_positive, compare_lt_iff_lt.mpr (by linarith)]
                  rfl
              | negative =>
                  rw [valueOf_negative, valueOf_negative, compare_neg_neg, ← order]
                  rfl

section Canonical

variable {u v : UnpackedFloat}

theorem le_iff_valueOf (uFinite : u.isFinite = true) (vFinite : v.isFinite = true)
    (uCanonical : CanonicalIn spec u) (vCanonical : CanonicalIn spec v) :
    u.le v = true ↔ valueOf u ≤ valueOf v := by
  rw [UnpackedFloat.le, compare_valueOf uFinite vFinite uCanonical vCanonical, ← compare_le_iff_le,
    ne_eq, Ordering.ne_gt_iff_isLE]
  rfl

theorem lt_iff_valueOf (uFinite : u.isFinite = true) (vFinite : v.isFinite = true)
    (uCanonical : CanonicalIn spec u) (vCanonical : CanonicalIn spec v) :
    u.lt v = true ↔ valueOf u < valueOf v := by
  rw [UnpackedFloat.lt, compare_valueOf uFinite vFinite uCanonical vCanonical, beq_iff_eq,
    Option.some_inj, compare_lt_iff_lt]

end Canonical

end Order

end Grapher

import Grapher.Proofs.Number.Layout

namespace Grapher

section Packing

open Float.Model Float.Model.UnpackedFloat

theorem exponentBias_binary64 : Format.binary64.exponentBias = 1023 := by decide

def InRange : UnpackedFloat → Prop
  | .finite _ _ exponent _ => exponent ≤ 971
  | _ => True

/-- The least power of two that is too large for the doubles. -/
def overflowBound : ℚ := 2 ^ (1024 : ℤ)

theorem canonical_unpack (bits : BitVec Format.binary64.numBits) : Canonical (unpack .binary64 bits) :=
  (canonicalIn_binary64 _).mp (canonicalIn_unpack bits)

theorem inRange_unpack (bits : BitVec Format.binary64.numBits) : InRange (unpack .binary64 bits) := by
  have fieldSmall : (@unpackExponent .binary64 bits).toNat < 2 ^ 11 :=
    (@unpackExponent .binary64 bits).isLt
  unfold UnpackedFloat.unpack
  dsimp only
  split_ifs with top none bottom none
  · trivial
  · trivial
  · trivial
  · rw [bottom, exponentBias_binary64]
    simp [InRange]
  · have notTop : (@unpackExponent .binary64 bits).toNat ≠ 2047 :=
      fun ones => top (BitVec.eq_of_toNat_eq ones)
    rw [exponentBias_binary64]
    change _ ≤ (971 : ℤ)
    push_cast
    omega

theorem unpack_spec (x : Float.Model) : Canonical x.unpack ∧ InRange x.unpack :=
  ⟨canonical_unpack _, inRange_unpack _⟩

theorem abs_valueOf {sign : Sign} {mantissa : ℕ} {exponent : ℤ} (pos : 0 < mantissa) :
    |valueOf (.finite sign mantissa exponent pos)| = mantissa * 2 ^ exponent := by
  have unit : (0 : ℚ) < 2 ^ exponent := by positivity
  rw [valueOf, abs_mul, abs_of_pos unit]
  cases sign <;> simp [Sign.apply]

theorem abs_valueOf_lt {u : UnpackedFloat} (canonical : Canonical u) (inRange : InRange u) :
    |valueOf u| < overflowBound := by
  simp only [overflowBound]
  cases u with
  | finite sign mantissa exponent pos =>
      have greatest : exponent ≤ 971 := inRange
      rw [abs_valueOf]
      calc (mantissa : ℚ) * 2 ^ exponent < 2 ^ (53 + exponent) := digits_scaled_lt canonical.1 exponent
        _ ≤ 2 ^ (1024 : ℤ) := zpow_le_zpow_right₀ one_le_two (by omega)
  | _ => simp [valueOf]

theorem inRange_of_abs_lt {u : UnpackedFloat} (canonical : Canonical u)
    (small : |valueOf u| < overflowBound) : InRange u := by
  cases u with
  | finite sign mantissa exponent pos =>
      by_contra large
      have above : 972 ≤ exponent := not_le.mp large
      have full : 2 ^ 52 ≤ mantissa := canonical.2.2 (by omega)
      have bound : overflowBound ≤ mantissa * 2 ^ exponent := by
        calc overflowBound ≤ 2 ^ (52 + exponent) := zpow_le_zpow_right₀ one_le_two (by omega)
          _ ≤ mantissa * 2 ^ exponent := le_full_scaled full exponent
      rw [abs_valueOf] at small
      exact absurd small bound.not_gt
  | _ => trivial

theorem unpack_packComponents_normal (sign : Sign) {mantissa field : ℕ} (full : 2 ^ 52 ≤ mantissa)
    (digits : mantissa < 2 ^ 53) (least : 0 < field) (greatest : field < 2047) :
    UnpackedFloat.unpack .binary64
        (packComponents .binary64 sign (BitVec.ofNat _ field) (BitVec.ofNat _ mantissa)) =
      .finite sign mantissa (field - 1075) (by omega) := by
  have fieldNat : (BitVec.ofNat 11 field).toNat = field := by
    rw [BitVec.toNat_ofNat, Nat.mod_eq_of_lt (by omega)]
  have notTop : BitVec.ofNat 11 field ≠ -1#11 := by
    intro top
    have := congrArg BitVec.toNat top
    rw [fieldNat] at this
    exact absurd (this.trans rfl : field = 2047) (by omega)
  have notBottom : BitVec.ofNat 11 field ≠ 0#11 := by
    intro bottom
    have := congrArg BitVec.toNat bottom
    rw [fieldNat] at this
    exact absurd (this.trans rfl : field = 0) (by omega)
  have joined : (1#1 ++ BitVec.ofNat 52 mantissa).toNat = mantissa := by
    rw [toNat_join, BitVec.toNat_ofNat]
    omega
  unfold UnpackedFloat.unpack
  simp only [unpackMantissa_packComponents, unpackExponent_packComponents,
    unpackSign_packComponents, Sign.ofBitVec_toBitVec, exponentBias_binary64]
  rw [if_neg notTop, if_neg notBottom]
  simp only [finite.injEq, joined, fieldNat, true_and]
  push_cast
  omega

theorem unpack_packComponents_subnormal (sign : Sign) {mantissa : ℕ} (pos : 0 < mantissa)
    (digits : mantissa < 2 ^ 52) :
    UnpackedFloat.unpack .binary64
        (packComponents .binary64 sign (BitVec.ofNat _ 0) (BitVec.ofNat _ mantissa)) =
      .finite sign mantissa (-1074) pos := by
  have mantissaNat : (BitVec.ofNat 52 mantissa).toNat = mantissa := by
    rw [BitVec.toNat_ofNat, Nat.mod_eq_of_lt digits]
  have nonzero : BitVec.ofNat 52 mantissa ≠ 0#52 := by
    intro zero
    have := congrArg BitVec.toNat zero
    rw [mantissaNat] at this
    exact absurd (this.trans rfl : mantissa = 0) (by omega)
  unfold UnpackedFloat.unpack
  simp only [unpackMantissa_packComponents, unpackExponent_packComponents,
    unpackSign_packComponents, Sign.ofBitVec_toBitVec, exponentBias_binary64]
  rw [if_neg (by decide), if_pos trivial, dif_neg nonzero]
  simp only [finite.injEq, mantissaNat, true_and]
  rfl

theorem pack_eq {sign : Sign} {mantissa : ℕ} {exponent : ℤ} {pos : 0 < mantissa}
    (canonical : Canonical (.finite sign mantissa exponent pos)) (greatest : exponent ≤ 971) :
    UnpackedFloat.pack .binary64 (.finite sign mantissa exponent pos) =
      packComponents .binary64 sign
        (BitVec.ofNat _ (if 2 ^ 52 ≤ mantissa then (exponent + 1075).toNat else 0))
        (BitVec.ofNat _ mantissa) := by
  obtain ⟨digits, least, -⟩ := canonical
  have field : (exponent + (Format.binary64.exponentBias : ℤ) + (52 : ℕ)).toNat =
      (exponent + 1075).toNat := by
    rw [exponentBias_binary64]
    omega
  have log : mantissa.log2 + 1 = 53 ↔ 2 ^ 52 ≤ mantissa := by
    rw [← Nat.le_log2 pos.ne']
    have := (Nat.log2_lt pos.ne').mpr digits
    omega
  unfold UnpackedFloat.pack
  simp only [field]
  rw [if_neg (by omega)]
  split_ifs with full full' full'
  · rfl
  · exact absurd (log.mp full) full'
  · exact absurd (log.mpr full') full
  · rfl

theorem unpack_pack {u : UnpackedFloat} (isFinite : u.isFinite = true) (canonical : Canonical u)
    (inRange : InRange u) : (Float.Model.pack u).unpack = u := by
  cases u with
  | notANumber => contradiction
  | infinity => contradiction
  | zero sign => cases sign <;> rfl
  | finite sign mantissa exponent pos =>
      have ⟨digits, least, full⟩ := canonical
      have greatest : exponent ≤ 971 := inRange
      change UnpackedFloat.unpack .binary64 (UnpackedFloat.pack .binary64 _) = _
      rw [pack_eq canonical greatest]
      split_ifs with normal
      · rw [unpack_packComponents_normal sign normal digits (by omega) (by omega)]
        simp only [finite.injEq, true_and]
        omega
      · have bottom : exponent = -1074 := by
          by_contra above
          exact normal (full (by omega))
        subst bottom
        exact unpack_packComponents_subnormal sign pos (by omega)

theorem unpack_pack_overflow {sign : Sign} {mantissa : ℕ} {exponent : ℤ} {pos : 0 < mantissa}
    (large : 971 < exponent) :
    (Float.Model.pack (.finite sign mantissa exponent pos)).unpack = .infinity sign := by
  have packed : UnpackedFloat.pack .binary64 (.finite sign mantissa exponent pos) =
      packedInfinity .binary64 sign := by
    unfold UnpackedFloat.pack
    rw [exponentBias_binary64]
    exact if_pos (by simp only; omega)
  change UnpackedFloat.unpack .binary64 (UnpackedFloat.pack .binary64 _) = _
  rw [packed]
  cases sign <;> rfl

/-- A float below the bound of the doubles keeps its number. -/
theorem Represents.pack {u : UnpackedFloat} {x : ℚ} (represents : Represents u x)
    (small : |x| < overflowBound) : Represents (Float.Model.pack u).unpack x := by
  have inRange := inRange_of_abs_lt represents.canonical (represents.value.symm ▸ small)
  rwa [unpack_pack represents.finite represents.canonical inRange]

theorem Represents.of_pack {u : UnpackedFloat} {x : ℚ} (represents : Represents u x)
    (finite : (Float.Model.pack u).unpack.isFinite = true) :
    Represents (Float.Model.pack u).unpack x := by
  by_cases inRange : InRange u
  · rwa [unpack_pack represents.finite represents.canonical inRange]
  · cases u with
    | finite sign mantissa exponent pos =>
        rw [unpack_pack_overflow (not_le.mp inRange)] at finite
        cases finite
    | _ => exact absurd trivial inRange

end Packing

section Double

open Float.Model Float.Model.UnpackedFloat

/-- The number that a double stands for, zero if it is not finite. -/
def valueOfDouble (x : Float) : ℚ := valueOf x.toModel.unpack

theorem ofBits_spec {bits : UInt64} (finite : (unpack .binary64 bits.toBitVec).isFinite = true) :
    (Float.ofBits bits).toModel.unpack = unpack .binary64 bits.toBitVec :=
  unpack_pack finite (canonical_unpack _) (inRange_unpack _)

theorem represents_of_isFinite {x : Float} (finite : x.isFinite = true) :
    Represents x.toModel.unpack (valueOfDouble x) :=
  ⟨finite, (unpack_spec _).1, rfl⟩

theorem abs_valueOfDouble_lt (x : Float) : |valueOfDouble x| < overflowBound :=
  abs_valueOf_lt (unpack_spec _).1 (unpack_spec _).2

theorem nearestDouble_valueOfDouble (x : Float) :
    nearestDouble (valueOfDouble x) = valueOfDouble x :=
  nearestDouble_valueOf (unpack_spec _).1

theorem compare_represents {u v : UnpackedFloat} {x y : ℚ} (left : Represents u x)
    (right : Represents v y) : u.compare v = some (compare x y) := by
  obtain ⟨uFinite, uCanonical, rfl⟩ := left
  obtain ⟨vFinite, vCanonical, rfl⟩ := right
  exact compare_valueOf uFinite vFinite ((canonicalIn_binary64 u).mpr uCanonical)
    ((canonicalIn_binary64 v).mpr vCanonical)

theorem double_le_unpack (x y : Float) :
    x ≤ y ↔ UnpackedFloat.le x.toModel.unpack y.toModel.unpack = true := by
  change decide (x.toModel ≤ y.toModel) = true ↔ _
  rw [decide_eq_true_iff]
  rfl

theorem double_lt_unpack (x y : Float) :
    x < y ↔ UnpackedFloat.compare x.toModel.unpack y.toModel.unpack = some .lt := by
  change decide (x.toModel < y.toModel) = true ↔ _
  rw [decide_eq_true_iff]
  change (UnpackedFloat.compare x.toModel.unpack y.toModel.unpack == some .lt) = true ↔ _
  exact beq_iff_eq

theorem double_beq_unpack (x y : Float) :
    (x == y) = true ↔ UnpackedFloat.compare x.toModel.unpack y.toModel.unpack = some .eq := by
  change (UnpackedFloat.compare x.toModel.unpack y.toModel.unpack == some .eq) = true ↔ _
  exact beq_iff_eq

theorem double_le_iff {x y : Float} (xFinite : x.isFinite = true) (yFinite : y.isFinite = true) :
    x ≤ y ↔ valueOfDouble x ≤ valueOfDouble y := by
  rw [double_le_unpack]
  exact @le_iff_valueOf .binary64 _ _ xFinite yFinite (canonicalIn_unpack _) (canonicalIn_unpack _)

theorem double_lt_iff {x y : Float} (xFinite : x.isFinite = true) (yFinite : y.isFinite = true) :
    x < y ↔ valueOfDouble x < valueOfDouble y := by
  rw [double_lt_unpack, ← beq_iff_eq]
  exact @lt_iff_valueOf .binary64 _ _ xFinite yFinite (canonicalIn_unpack _) (canonicalIn_unpack _)

theorem exists_multiple {x : Float} {k : ℤ} (large : 2 ^ (k + 52) ≤ valueOfDouble x) :
    ∃ n : ℕ, valueOfDouble x = n * 2 ^ k := by
  have canonical := (unpack_spec x.toModel).1
  have positive : 0 < valueOfDouble x := lt_of_lt_of_le (by positivity) large
  unfold valueOfDouble at *
  cases unpacked : x.toModel.unpack with
  | finite sign mantissa exponent pos =>
      rw [unpacked] at canonical positive large
      cases sign with
      | negative =>
          have scaled : (0 : ℚ) < mantissa * 2 ^ exponent := by positivity
          rw [valueOf_negative] at positive
          linarith
      | positive =>
          have below := digits_scaled_lt canonical.1 exponent
          rw [valueOf_positive] at large ⊢
          have order := (zpow_lt_zpow_iff_right₀ one_lt_two).mp (large.trans_lt below)
          obtain ⟨shift, rfl⟩ := Int.le.dest (show k ≤ exponent by omega)
          refine ⟨mantissa * 2 ^ shift, ?_⟩
          push_cast
          rw [zpow_add₀ two_ne_zero, zpow_natCast, mul_assoc, mul_comm (2 ^ k : ℚ)]
  | _ => simp [unpacked, valueOf] at positive

theorem double_add {x y : Float} (xFinite : x.isFinite = true) (yFinite : y.isFinite = true)
    (small : |nearestDouble (valueOfDouble x + valueOfDouble y)| < overflowBound) :
    (x + y).isFinite = true ∧
      valueOfDouble (x + y) = nearestDouble (valueOfDouble x + valueOfDouble y) := by
  have sum := add_represents (represents_of_isFinite xFinite) (represents_of_isFinite yFinite)
  have packed := sum.pack small
  exact ⟨packed.finite, packed.value⟩

theorem roundToInt_eq (sign : Sign) (mantissa : ℕ) (exponent : ℤ) :
    roundToInt sign mantissa exponent = sign.apply ⌊(mantissa * 2 ^ exponent : ℚ)⌋₊ := by
  have shifted (m k : ℕ) :
      (ExtendedMantissa.ofMantissaAndAccuracy m .exact >>> k).mantissa = ⌊(m / 2 ^ k : ℚ)⌋₊ := by
    rw [← places_natCast, shiftRight_places]
    rfl
  simp only [roundToInt, decreaseExponent, shiftToExponent, shifted, Nat.shiftLeft_eq]
  congr 2
  rcases le_total 0 exponent with whole | fraction
  · obtain ⟨k, rfl⟩ := Int.eq_ofNat_of_zero_le whole
    simp
  · obtain ⟨k, rfl⟩ := Int.exists_eq_neg_ofNat fraction
    simp [div_eq_mul_inv]

theorem toInt_represents {u : UnpackedFloat} {x : ℚ} (represents : Represents u x) (low high : ℤ) :
    (u.toInt low high).toNat = ⌊x⌋₊ := by
  obtain ⟨isFinite, -, rfl⟩ := represents
  cases u with
  | notANumber => contradiction
  | infinity => contradiction
  | zero sign => simp [UnpackedFloat.toInt, valueOf]
  | finite sign mantissa exponent pos =>
      rw [UnpackedFloat.toInt, roundToInt_eq]
      cases sign with
      | positive =>
          rw [valueOf_positive]
          rfl
      | negative =>
          have below : -(mantissa * 2 ^ exponent : ℚ) ≤ 0 := neg_nonpos.mpr (by positivity)
          rw [valueOf_negative, Nat.floor_of_nonpos below, Sign.apply]
          omega

theorem toNat_toUInt64 {x : Float} (finite : x.isFinite = true) (small : valueOfDouble x < 2 ^ 64) :
    x.toUInt64.toNat = ⌊valueOfDouble x⌋₊ := by
  have whole := toInt_represents (represents_of_isFinite finite) 0 (UInt64.size - 1)
  have word : ⌊valueOfDouble x⌋₊ < UInt64.size := by
    rw [Nat.floor_lt' (by decide)]
    exact_mod_cast small
  change (UInt64.ofNatClamp (x.toModel.unpack.toInt 0 (UInt64.size - 1)).toNat).toNat = _
  rw [whole, UInt64.ofNatClamp_eq_ofNat _ word]
  exact Nat.mod_eq_of_lt word

end Double

end Grapher

import Grapher.Proofs.Number.Double
import Grapher.Proofs.Number.Operations

/-!
Doubles that grow too large. Above the largest double stands positive infinity, so sums and products
still keep their order.
-/

namespace Grapher

open Float.Model Float.Model.UnpackedFloat

/-- A double stands for a number below the bound, and positive infinity for the bound itself. -/
inductive Reaches (u : UnpackedFloat) : ℚ → Prop where
  | below {x : ℚ} (represents : Represents u x) (small : x < overflowBound) : Reaches u x
  | beyond (top : u = .infinity .positive) : Reaches u overflowBound

/-- The nearest double, the bound beyond the largest. -/
def capped (x : ℚ) : ℚ := min (nearestDouble x) overflowBound

variable {u v : UnpackedFloat} {x y : ℚ}

theorem capped_mono (le : x ≤ y) : capped x ≤ capped y :=
  min_le_min_right _ (nearestDouble_mono le)

theorem capped_of_lt (small : nearestDouble x < overflowBound) : capped x = nearestDouble x :=
  min_eq_left small.le

theorem nearestDouble_of_capped_lt (small : capped x < overflowBound) :
    nearestDouble x < overflowBound :=
  (min_lt_iff.mp small).resolve_right (lt_irrefl _)

theorem Represents.compare_infinity (represents : Represents u x) :
    u.compare (.infinity .positive) = some .lt ∧
      UnpackedFloat.compare (.infinity .positive) u = some .gt := by
  obtain ⟨finite, -, -⟩ := represents
  cases u with
  | notANumber => contradiction
  | infinity => contradiction
  | zero => exact ⟨rfl, rfl⟩
  | finite sign => cases sign <;> exact ⟨rfl, rfl⟩

theorem compare_reaches (left : Reaches u x) (right : Reaches v y) :
    u.compare v = some (compare x y) := by
  cases left with
  | below represents small =>
      cases right with
      | below represents' small' => exact compare_represents represents represents'
      | beyond top =>
          rw [top, represents.compare_infinity.1, compare_lt_iff_lt.mpr small]
  | beyond top =>
      cases right with
      | below represents small =>
          rw [top, represents.compare_infinity.2, compare_gt_iff_gt.mpr small]
      | beyond top' =>
          rw [top, top', compare_eq_iff_eq.mpr rfl]
          rfl

theorem Reaches.isFinite_iff (reaches : Reaches u x) : u.isFinite = true ↔ x < overflowBound := by
  cases reaches with
  | below represents small => exact iff_of_true represents.finite small
  | beyond top =>
      rw [top]
      exact iff_of_false Bool.false_ne_true (lt_irrefl _)

theorem Reaches.value (reaches : Reaches u x) (finite : u.isFinite = true) : valueOf u = x := by
  cases reaches with
  | below represents => exact represents.value
  | beyond top =>
      rw [top] at finite
      cases finite

theorem le_iff_of_reaches {a b : Float} (left : Reaches a.toModel.unpack x)
    (right : Reaches b.toModel.unpack y) : a ≤ b ↔ x ≤ y := by
  rw [double_le_unpack, UnpackedFloat.le, compare_reaches left right, ← compare_le_iff_le, ne_eq,
    Ordering.ne_gt_iff_isLE]
  rfl

theorem lt_iff_of_reaches {a b : Float} (left : Reaches a.toModel.unpack x)
    (right : Reaches b.toModel.unpack y) : a < b ↔ x < y := by
  rw [double_lt_unpack, compare_reaches left right, Option.some_inj, compare_lt_iff_lt]

theorem beq_iff_of_reaches {a b : Float} (left : Reaches a.toModel.unpack x)
    (right : Reaches b.toModel.unpack y) : (a == b) = true ↔ x = y := by
  rw [double_beq_unpack, compare_reaches left right, Option.some_inj, compare_eq_iff_eq]

theorem Represents.pack_reaches (represents : Represents u x) (above : -overflowBound < x) :
    Reaches (Float.Model.pack u).unpack (min x overflowBound) := by
  rcases lt_or_ge x overflowBound with small | large
  · rw [min_eq_left small.le]
    exact .below (represents.pack (abs_lt.mpr ⟨above, small⟩)) small
  · rw [min_eq_right large]
    obtain ⟨finite, canonical, rfl⟩ := represents
    have positive : 0 < valueOf u := lt_of_lt_of_le (by simp [overflowBound]) large
    cases u with
    | finite sign mantissa exponent pos =>
        have wide : 971 < exponent := by
          by_contra inRange
          have := (abs_lt.mp (abs_valueOf_lt canonical (not_lt.mp inRange))).2
          exact absurd large this.not_ge
        rw [unpack_pack_overflow wide]
        cases sign with
        | positive => exact .beyond rfl
        | negative =>
            rw [valueOf_negative] at positive
            have : (0 : ℚ) < mantissa * 2 ^ exponent := by positivity
            linarith
    | _ => exact absurd rfl positive.ne

theorem mul_reaches {a b : Float} (left : Represents a.toModel.unpack x)
    (right : Represents b.toModel.unpack y) (nonneg : 0 ≤ x * y) :
    Reaches (a * b).toModel.unpack (capped (x * y)) := by
  have rounded : 0 ≤ nearestDouble (x * y) := by
    rw [← nearestDouble_zero]
    exact nearestDouble_mono nonneg
  refine (mul_represents left right).pack_reaches (lt_of_lt_of_le ?_ rounded)
  simp [overflowBound]

theorem add_reaches {a b : Float} (left : Represents a.toModel.unpack x)
    (right : Reaches b.toModel.unpack y) (nonneg : 0 ≤ y) :
    Reaches (a + b).toModel.unpack (if y < overflowBound then capped (x + y) else overflowBound) := by
  cases right with
  | below represents small =>
      rw [if_pos small]
      have lower : x ≤ nearestDouble (x + y) := by
        calc x = nearestDouble x := left.nearestDouble_eq.symm
          _ ≤ nearestDouble (x + y) := nearestDouble_mono (by linarith)
      have least : -overflowBound < x := by
        rw [← left.value]
        exact (abs_lt.mp (abs_valueOfDouble_lt a)).1
      exact (add_represents left represents).pack_reaches (least.trans_le lower)
  | beyond top =>
      rw [if_neg (lt_irrefl _)]
      have finite := left.finite
      have sum : UnpackedFloat.add .binary64 a.toModel.unpack b.toModel.unpack =
          .infinity .positive := by
        rw [top]
        cases unpacked : a.toModel.unpack with
        | notANumber => rw [unpacked] at finite; cases finite
        | infinity => rw [unpacked] at finite; cases finite
        | zero => rfl
        | finite => rfl
      refine .beyond ?_
      change (Float.Model.pack (UnpackedFloat.add .binary64 a.toModel.unpack
        b.toModel.unpack)).unpack = _
      rw [sum]
      rfl

theorem div_eq_of_not_finite (infinite : u.isFinite = false) (finite : v.isFinite = true) :
    UnpackedFloat.div .binary64 u v = .notANumber ∨
      ∃ sign, UnpackedFloat.div .binary64 u v = .infinity sign := by
  cases u with
  | notANumber => exact .inl rfl
  | infinity sign =>
      cases v with
      | notANumber => cases finite
      | infinity => cases finite
      | zero sign' => exact .inr ⟨_, rfl⟩
      | finite sign' => exact .inr ⟨_, rfl⟩
  | zero => cases infinite
  | finite => cases infinite

theorem isFinite_of_div {a b : Float} (divisor : b.isFinite = true)
    (quotient : (a / b).isFinite = true) : a.isFinite = true := by
  change (Float.Model.pack
    (UnpackedFloat.div .binary64 a.toModel.unpack b.toModel.unpack)).unpack.isFinite = true at quotient
  by_contra infinite
  rcases div_eq_of_not_finite (Bool.eq_false_iff.mpr infinite) divisor with nan | ⟨sign, infinity⟩
  · rw [nan] at quotient
    exact absurd quotient (by decide)
  · rw [infinity] at quotient
    cases sign <;> exact absurd quotient (by decide)

theorem Represents.pack_isNaN (represents : Represents u x) :
    (Float.Model.pack u).unpack.isNaN = false := by
  obtain ⟨finite, canonical, -⟩ := represents
  cases u with
  | notANumber => contradiction
  | infinity => contradiction
  | zero sign => cases sign <;> rfl
  | finite sign mantissa exponent pos =>
      by_cases inRange : exponent ≤ 971
      · rw [unpack_pack finite canonical inRange]
        rfl
      · rw [unpack_pack_overflow (not_le.mp inRange)]
        rfl

theorem isNaN_mul {a b : Float} (left : a.isFinite = true) (right : b.isFinite = true) :
    (a * b).isNaN = false :=
  (mul_represents (represents_of_isFinite left) (represents_of_isFinite right)).pack_isNaN

end Grapher

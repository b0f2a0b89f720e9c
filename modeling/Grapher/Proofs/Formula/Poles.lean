import Grapher.Formula.Machine
import Grapher.Proofs.Number.Multiples

/-!
The poles of the tangent in degrees. A number is tried after ninety has been taken away and the difference
has been rounded. No pole is missed by that, but a number near one or a very large one may be taken for a
pole.
-/

namespace Grapher

variable {a : Float} {v : ℚ}

/-- An odd multiple of ninety. -/
def OddRightAngle (v : ℚ) : Prop := ∃ k : ℤ, v = 90 * (2 * k + 1)

/-- A double that only rounding sets half turns away from ninety. -/
def Misjudged (a : Float) : Prop :=
  ∃ k : ℤ, nearestDouble (valueOfDouble a - 90) = 180 * k ∧ valueOfDouble a - 90 ≠ 180 * k

theorem oddRightAngle_iff (v : ℚ) : OddRightAngle v ↔ ∃ k : ℤ, v - 90 = 180 * k := by
  refine exists_congr fun k => ?_
  constructor <;> intro same <;> linarith

theorem OddRightAngle.neg (odd : OddRightAngle v) : OddRightAngle (-v) := by
  obtain ⟨k, rfl⟩ := odd
  exact ⟨-k - 1, by push_cast; ring⟩

theorem value_ninety : valueOfDouble 90 = 90 := by
  rw [value_of_decode? (d := ⟨false, 90 * 2 ^ 46, -46⟩) (by decide +kernel)]
  norm_num [Exact.value]

theorem isTangentPole_iff (finite : a.isFinite = true) :
    isTangentPole a = true ↔ ∃ k : ℤ, nearestDouble (valueOfDouble a - 90) = 180 * k := by
  have ninety : OnGrid 90 := value_ninety ▸ onGrid_valueOfDouble 90
  have small := abs_nearestDouble_sub_lt a ninety (by norm_num)
  rw [← value_ninety] at small ⊢
  obtain ⟨left, difference⟩ := double_sub finite (by decide +kernel) small
  obtain ⟨d, read, value⟩ := decode?_double left
  have decoded : Scalar.decode? (a - Scalar.rightAngle) = some d := read
  rw [isTangentPole, decoded, ← difference, ← value]
  exact d.isMultipleOf_iff 180

theorem tangent_refused_iff (finite : a.isFinite = true) :
    Elementary.tan.apply .degrees a = .error (.domain .tan a) ↔
      ∃ k : ℤ, nearestDouble (valueOfDouble a - 90) = 180 * k := by
  rw [← isTangentPole_iff finite]
  cases pole : isTangentPole a with
  | true => simp [Elementary.apply, Elementary.defined, pole, Scalar.toFloat]
  | false => simp [Elementary.apply, Elementary.defined, pole]

theorem OddRightAngle.lt (finite : a.isFinite = true) (odd : OddRightAngle (valueOfDouble a)) :
    |valueOfDouble a| < 2 ^ 54 := by
  have positive (x : Float) (odd : OddRightAngle (valueOfDouble x)) : valueOfDouble x < 2 ^ 54 := by
    by_contra large
    obtain ⟨k, same⟩ := odd
    -- Doubles from `2 ^ 54` on are multiples of four.
    obtain ⟨n, multiple⟩ := exists_multiple (k := 2) (by exact_mod_cast not_lt.mp large)
    rw [same] at multiple
    have parity : 90 * (2 * k + 1) = (n : ℤ) * 4 := by
      norm_cast at multiple
    omega
  have opposite := positive (-a) ((double_neg finite).2.symm ▸ odd.neg)
  rw [(double_neg finite).2] at opposite
  exact abs_lt.mpr ⟨by linarith, positive a odd⟩

/-- From an odd multiple of ninety the difference is not rounded. -/
theorem OddRightAngle.nearest (finite : a.isFinite = true) (odd : OddRightAngle (valueOfDouble a)) :
    nearestDouble (valueOfDouble a - 90) = valueOfDouble a - 90 := by
  have small := odd.lt finite
  obtain ⟨k, same⟩ := (oddRightAngle_iff _).mp odd
  have wide : |((45 * k : ℤ) : ℚ)| < 2 ^ 53 := by
    rw [abs_lt] at small ⊢
    push_cast
    constructor <;> linarith
  have whole := nearestDouble_of_whole (n := 45 * k) (e := 2) (by exact_mod_cast wide) (by omega)
  have quarter : ((45 * k : ℤ) : ℚ) * 2 ^ (2 : ℤ) = valueOfDouble a - 90 := by
    rw [same]
    push_cast
    ring
  rwa [quarter] at whole

theorem onGrid_sub_ninety (a : Float) : OnGrid (valueOfDouble a - 90) := by
  rw [sub_eq_add_neg, ← value_ninety]
  exact (onGrid_valueOfDouble a).add (onGrid_valueOfDouble 90).neg

theorem not_misjudged_of_lt (nonneg : 0 ≤ valueOfDouble a) (small : valueOfDouble a < 2 ^ 54) :
    ¬Misjudged a := by
  rintro ⟨k, rounded, different⟩
  rcases le_or_gt 90 (valueOfDouble a) with beyond | before
  · have ninety : (90 : ℚ) = (45 : ℕ) * 2 ^ (1 : ℤ) := by norm_num
    rw [ninety] at beyond
    have whole := nearestDouble_sub_multiple (k := 1) (by omega) beyond (by exact_mod_cast small)
    rw [← ninety, rounded] at whole
    exact different whole.symm
  · -- The difference lies between minus ninety and zero, where the only half turn is none.
    have low := nearestDouble_mono (show -90 ≤ valueOfDouble a - 90 by linarith)
    have high := nearestDouble_mono (show valueOfDouble a - 90 ≤ 0 by linarith)
    have ninety := nearestDouble_valueOfDouble 90
    rw [value_ninety] at ninety
    rw [nearestDouble_neg, ninety, rounded] at low
    rw [nearestDouble_zero, rounded] at high
    have below : (180 * k : ℤ) ≤ 0 := by exact_mod_cast high
    have above : (-90 : ℤ) ≤ 180 * k := by exact_mod_cast low
    have none : k = 0 := by omega
    rw [none, Int.cast_zero, mul_zero] at rounded different
    exact different (eq_zero_of_nearestDouble (onGrid_sub_ninety a) rounded)

theorem Misjudged.near (misjudged : Misjudged a) :
    ∃ pole, OddRightAngle pole ∧ |valueOfDouble a - pole| ≤ |valueOfDouble a - 90| / 2 ^ 53 := by
  obtain ⟨k, rounded, -⟩ := misjudged
  refine ⟨180 * k + 90, ⟨k, by ring⟩, ?_⟩
  have moved := abs_nearestDouble_sub_le (onGrid_sub_ninety a)
  rw [rounded, abs_sub_comm] at moved
  have gap : valueOfDouble a - (180 * k + 90) = valueOfDouble a - 90 - 180 * k := by ring
  rwa [gap]

theorem misjudged_of_large (large : 2 ^ 54 * 90 < |valueOfDouble a|) :
    Misjudged a ↔ ∃ k : ℤ, valueOfDouble a = 180 * k := by
  have absorbed : nearestDouble (valueOfDouble a - 90) = valueOfDouble a := by
    rw [sub_eq_add_neg]
    exact nearestDouble_absorbs (by norm_num; linarith)
  rw [Misjudged, absorbed]
  refine exists_congr fun k => and_iff_left_of_imp fun same => ?_
  rw [← same]
  norm_num

theorem OddRightAngle.turns (finite : a.isFinite = true) (odd : OddRightAngle (valueOfDouble a)) :
    ∃ k : ℤ, nearestDouble (valueOfDouble a - 90) = 180 * k := by
  rw [odd.nearest finite]
  exact (oddRightAngle_iff _).mp odd

theorem verdict_of_not_misjudged (finite : a.isFinite = true) (right : ¬Misjudged a) :
    (∃ k : ℤ, nearestDouble (valueOfDouble a - 90) = 180 * k) ↔ OddRightAngle (valueOfDouble a) := by
  constructor
  · rintro ⟨k, rounded⟩
    by_contra even
    refine right ⟨k, rounded, fun same => even ((oddRightAngle_iff _).mpr ⟨k, same⟩)⟩
  · exact fun odd => odd.turns finite

/-- The tangent of a finite double is refused at the odd multiples of ninety alone unless the double is
misjudged. It is refused at all of them, but there are none from `2 ^ 54` on. Numbers from zero to there are
not misjudged; far beyond, the multiples of a half turn are. A misjudged number is as near to a pole as
rounding its difference to ninety can move it. Where neither of two opposite numbers is misjudged, both are
refused or none is. -/
theorem tangent_poles (finite : a.isFinite = true) :
    ((Elementary.tan.apply .degrees a = .error (.domain .tan a) ↔ OddRightAngle (valueOfDouble a)) ↔
        ¬Misjudged a) ∧
      (OddRightAngle (valueOfDouble a) →
        Elementary.tan.apply .degrees a = .error (.domain .tan a)) ∧
      (0 ≤ valueOfDouble a → valueOfDouble a < 2 ^ 54 → ¬Misjudged a) ∧
      (2 ^ 54 ≤ |valueOfDouble a| → ¬OddRightAngle (valueOfDouble a)) ∧
      (2 ^ 54 * 90 < |valueOfDouble a| → (Misjudged a ↔ ∃ k : ℤ, valueOfDouble a = 180 * k)) ∧
      (Misjudged a →
        ∃ pole, OddRightAngle pole ∧ |valueOfDouble a - pole| ≤ |valueOfDouble a - 90| / 2 ^ 53) ∧
      (¬Misjudged a → ¬Misjudged (-a) →
        (Elementary.tan.apply .degrees a = .error (.domain .tan a) ↔
          Elementary.tan.apply .degrees (-a) = .error (.domain .tan (-a)))) := by
  refine ⟨?_, ?_, not_misjudged_of_lt, ?_, misjudged_of_large, Misjudged.near, ?_⟩
  · rw [tangent_refused_iff finite]
    constructor
    · rintro verdict ⟨k, rounded, different⟩
      have odd := verdict.mp ⟨k, rounded⟩
      exact different ((odd.nearest finite).symm.trans rounded)
    · exact verdict_of_not_misjudged finite
  · intro odd
    exact (tangent_refused_iff finite).mpr (odd.turns finite)
  · intro large odd
    exact absurd (odd.lt finite) large.not_gt
  · intro right right'
    obtain ⟨finite', value'⟩ := double_neg finite
    rw [tangent_refused_iff finite, tangent_refused_iff finite', verdict_of_not_misjudged finite right,
      verdict_of_not_misjudged finite' right', value']
    exact ⟨OddRightAngle.neg, fun odd => neg_neg (valueOfDouble a) ▸ odd.neg⟩

theorem tangent_poles_quarters :
    Elementary.tan.apply .degrees (-270 : Float) = .error (.domain .tan (-270)) ∧ ¬Misjudged 45 := by
  have quarters : valueOfDouble (-270) = -270 := by
    rw [value_of_decode? (d := ⟨true, 270 * 2 ^ 44, -44⟩) (by decide +kernel)]
    norm_num [Exact.value]
  have half : valueOfDouble 45 = 45 := by
    rw [value_of_decode? (d := ⟨false, 45 * 2 ^ 47, -47⟩) (by decide +kernel)]
    norm_num [Exact.value]
  refine ⟨(tangent_poles (a := -270) (by decide +kernel)).2.1 ?_,
    (tangent_poles (a := 45) (by decide +kernel)).2.2.1 ?_ ?_⟩
  · rw [quarters]
    exact ⟨-2, by norm_num⟩
  · rw [half]
    norm_num
  · rw [half]
    norm_num

/-- Minus ninety degrees less the last place is no pole, but the difference to ninety is rounded to a half
turn. -/
theorem tangent_refused_beside_pole :
    (-89.99999999999999 : Float).isFinite = true ∧
      ¬OddRightAngle (valueOfDouble (-89.99999999999999)) ∧
      Elementary.tan.apply .degrees (-89.99999999999999 : Float) =
        .error (.domain .tan (-89.99999999999999)) ∧
      Elementary.tan.apply .degrees (89.99999999999999 : Float) ≠
        .error (.domain .tan 89.99999999999999) := by
  have value : valueOfDouble (-89.99999999999999) = -(6333186975989759 * 2 ^ (-46 : ℤ)) := by
    rw [value_of_decode? (d := ⟨true, 6333186975989759, -46⟩) (by decide +kernel)]
    norm_num [Exact.value]
  refine ⟨by decide +kernel, ?_, if_neg (by decide +kernel), ?_⟩
  · rintro ⟨k, same⟩
    rw [value] at same
    have scaled : -(6333186975989759 : ℚ) = 90 * (2 * k + 1) * 2 ^ 46 := by
      rw [← same]
      norm_num
    have parity : -(6333186975989759 : ℤ) = 90 * (2 * k + 1) * 2 ^ 46 := by exact_mod_cast scaled
    omega
  · rw [Elementary.apply, if_pos (by decide +kernel)]
    exact nofun

end Grapher

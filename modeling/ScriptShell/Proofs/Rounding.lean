import Mathlib.Algebra.Order.Field.Power
import Mathlib.Data.Rat.Cast.Order
import Mathlib.Order.Monotone.Basic
import Mathlib.Tactic.Linarith
import Mathlib.Tactic.Positivity
import Mathlib.Tactic.Ring
import ScriptShell.Number.Shortest

/-!
Rounding to binary floating point. A pattern is reached exactly from the values up to the midpoint
between it and the next one, which belongs to the even of the two. So rounding is known by its midpoints,
and the last of them tells finite values from those that overflow.
-/

namespace ScriptShell.Number

theorem roundQuotient_le_iff {b : Nat} (pos : 0 < b) (a n : Nat) :
    roundQuotient a b ≤ n ↔ 2 * a < (2 * n + 1) * b ∨ (2 * a = (2 * n + 1) * b ∧ n % 2 = 0) := by
  have whole : b * (a / b) + a % b = a := Nat.div_add_mod a b
  have less : a % b < b := Nat.mod_lt a pos
  unfold roundQuotient
  simp only
  generalize a / b = q at *
  generalize a % b = r at *
  subst whole
  rcases Nat.lt_trichotomy n q with below | rfl | above
  · obtain ⟨k, rfl⟩ := Nat.exists_eq_add_of_lt below
    have far : (2 * n + 1) * b < 2 * (b * (n + k + 1) + r) := by nlinarith
    split <;> omega
  · have here : 2 * (b * n + r) = 2 * (n * b) + 2 * r := by ring
    have middle : (2 * n + 1) * b = 2 * (n * b) + b := by ring
    split <;> omega
  · obtain ⟨k, rfl⟩ := Nat.exists_eq_add_of_lt above
    have far : 2 * (b * q + r) < (2 * (q + k + 1) + 1) * b := by nlinarith
    split <;> omega

theorem roundQuotient_le_of_lt {a b n : Nat} (less : a < n * b) : roundQuotient a b ≤ n := by
  have pos : 0 < b := Nat.pos_of_ne_zero fun none => by simp [none] at less
  exact (roundQuotient_le_iff pos a n).mpr (.inl (by nlinarith))

theorem le_roundQuotient_of_le {a b n : Nat} (pos : 0 < b) (least : n * b ≤ a) :
    n ≤ roundQuotient a b := by
  by_contra less
  obtain ⟨k, rfl⟩ : ∃ k, n = k + 1 := ⟨n - 1, by omega⟩
  rcases (roundQuotient_le_iff pos a k).mp (by omega) with under | ⟨tie, -⟩
  · nlinarith
  · nlinarith

namespace Binary64

/-! ## The value of a pattern -/

def unitsOf (magnitude : Nat) : Nat := units ⟨false, magnitude⟩

theorem unitsOf_scaled {scale m : Nat} (most : m ≤ 2 ^ 53) (least : scale = 0 ∨ 2 ^ 52 ≤ m) :
    unitsOf (scale * 2 ^ 52 + m) = m * 2 ^ scale := by
  have unfolded (n : Nat) :
      unitsOf n = (if n < 2 ^ 52 then n else n % 2 ^ 52 + 2 ^ 52) * 2 ^ (n / 2 ^ 52 - 1) := rfl
  rw [unfolded]
  rcases Nat.lt_or_ge m (2 ^ 52) with subnormal | normal
  · obtain rfl : scale = 0 := by omega
    have exponent : (0 * 2 ^ 52 + m) / 2 ^ 52 - 1 = 0 := by omega
    rw [if_pos (by omega), exponent, Nat.zero_mul, Nat.zero_add]
  · rw [if_neg (by omega)]
    rcases Nat.lt_or_ge m (2 ^ 53) with inside | top
    · have exponent : (scale * 2 ^ 52 + m) / 2 ^ 52 - 1 = scale := by omega
      have fraction : (scale * 2 ^ 52 + m) % 2 ^ 52 + 2 ^ 52 = m := by omega
      rw [exponent, fraction]
    · -- The top of a scale is the bottom of the next one.
      have exponent : (scale * 2 ^ 52 + m) / 2 ^ 52 - 1 = scale + 1 := by omega
      have fraction : (scale * 2 ^ 52 + m) % 2 ^ 52 + 2 ^ 52 = 2 ^ 52 := by omega
      rw [exponent, fraction, show m = 2 ^ 52 * 2 by omega, Nat.pow_succ]
      ring

theorem unitsOf_scaled_succ {scale m : Nat} (most : m < 2 ^ 53) (least : scale = 0 ∨ 2 ^ 52 ≤ m) :
    unitsOf (scale * 2 ^ 52 + m + 1) = (m + 1) * 2 ^ scale := by
  rw [add_assoc]
  exact unitsOf_scaled most (by omega)

theorem exists_scaled (n : Nat) :
    ∃ scale m, n = scale * 2 ^ 52 + m ∧ m < 2 ^ 53 ∧ (scale = 0 ∨ 2 ^ 52 ≤ m) := by
  by_cases small : n < 2 ^ 53
  · exact ⟨0, n, by omega, small, .inl rfl⟩
  · exact ⟨n / 2 ^ 52 - 1, n % 2 ^ 52 + 2 ^ 52, by omega, by omega, .inr (by omega)⟩

theorem strictMono_unitsOf : StrictMono unitsOf := by
  apply strictMono_nat_of_lt_succ
  intro n
  obtain ⟨scale, m, rfl, most, least⟩ := exists_scaled n
  rw [unitsOf_scaled most.le least, unitsOf_scaled_succ most least]
  exact Nat.mul_lt_mul_of_pos_right (Nat.lt_succ_self m) (Nat.two_pow_pos scale)

/-! ## Midpoints -/

def middle (n : Nat) : Nat := unitsOf n + unitsOf (n + 1)

theorem middle_scaled {scale m : Nat} (most : m < 2 ^ 53) (least : scale = 0 ∨ 2 ^ 52 ≤ m) :
    middle (scale * 2 ^ 52 + m) = (2 * m + 1) * 2 ^ scale := by
  rw [middle, unitsOf_scaled most.le least, unitsOf_scaled_succ most least]
  ring

theorem middle_lt {scale n : Nat} (low : n < scale * 2 ^ 52 + 2 ^ 52) :
    middle n < 2 * (2 ^ 52 * 2 ^ scale) := by
  have bottom : unitsOf (scale * 2 ^ 52 + 2 ^ 52) = 2 ^ 52 * 2 ^ scale :=
    unitsOf_scaled (by norm_num) (.inr le_rfl)
  have next : unitsOf n < unitsOf (n + 1) := strictMono_unitsOf (Nat.lt_succ_self n)
  have up : unitsOf (n + 1) ≤ 2 ^ 52 * 2 ^ scale := bottom ▸ strictMono_unitsOf.monotone low
  rw [middle]
  linarith

theorem le_middle {scale n : Nat} (high : scale * 2 ^ 52 + 2 ^ 53 ≤ n) :
    2 * (2 ^ 53 * 2 ^ scale) ≤ middle n := by
  have top : unitsOf (scale * 2 ^ 52 + 2 ^ 53) = 2 ^ 53 * 2 ^ scale :=
    unitsOf_scaled le_rfl (.inr (by norm_num))
  have next : unitsOf n < unitsOf (n + 1) := strictMono_unitsOf (Nat.lt_succ_self n)
  have down : 2 ^ 53 * 2 ^ scale ≤ unitsOf n := top ▸ strictMono_unitsOf.monotone high
  rw [middle]
  linarith

theorem scale_spec {b : Nat} (pos : 0 < b) (a : Nat) :
    let scale := (a / b).log2 - 52
    a < 2 ^ 53 * (b * 2 ^ scale) ∧ (scale = 0 ∨ 2 ^ 52 * (b * 2 ^ scale) ≤ a) := by
  intro scale
  constructor
  · have bits : a / b < 2 ^ (scale + 53) :=
      Nat.lt_log2_self.trans_le (Nat.pow_le_pow_right (by decide) (by omega))
    rw [Nat.div_lt_iff_lt_mul pos] at bits
    calc a < 2 ^ (scale + 53) * b := bits
      _ = 2 ^ 53 * (b * 2 ^ scale) := by ring
  · rcases Nat.eq_zero_or_pos scale with lowest | higher
    · exact .inl lowest
    · right
      have some : a / b ≠ 0 := by
        intro none
        simp [scale, none] at higher
      have bits : 2 ^ (scale + 52) ≤ a / b := by
        have exact : scale + 52 = (a / b).log2 := by omega
        rw [exact]
        exact Nat.log2_self_le some
      rw [Nat.le_div_iff_mul_le pos] at bits
      calc 2 ^ 52 * (b * 2 ^ scale) = 2 ^ (scale + 52) * b := by ring
        _ ≤ a := bits

theorem roundUnits_le_iff {b : Nat} (pos : 0 < b) (a n : Nat) :
    roundUnits a b ≤ n ↔ 2 * a < middle n * b ∨ (2 * a = middle n * b ∧ n % 2 = 0) := by
  obtain ⟨below, above⟩ := scale_spec pos a
  have unfolded : roundUnits a b = ((a / b).log2 - 52) * 2 ^ 52 +
    roundQuotient a (b * 2 ^ ((a / b).log2 - 52)) := rfl
  rw [unfolded]
  generalize (a / b).log2 - 52 = scale at *
  have posScaled : 0 < b * 2 ^ scale := Nat.mul_pos pos (Nat.two_pow_pos scale)
  have most : roundQuotient a (b * 2 ^ scale) ≤ 2 ^ 53 := roundQuotient_le_of_lt below
  -- Unless the pattern is in the same scale as the value, its midpoint is not there either.
  by_cases low : scale ≠ 0 ∧ n < scale * 2 ^ 52 + 2 ^ 52
  · have normal := above.resolve_left low.1
    have exceeds : n < scale * 2 ^ 52 + roundQuotient a (b * 2 ^ scale) :=
      low.2.trans_le (Nat.add_le_add_left (le_roundQuotient_of_le posScaled normal) _)
    have far : middle n * b < 2 * a :=
      calc middle n * b
        _ < (2 * (2 ^ 52 * 2 ^ scale)) * b := Nat.mul_lt_mul_of_pos_right (middle_lt low.2) pos
        _ = 2 * (2 ^ 52 * (b * 2 ^ scale)) := by ring
        _ ≤ 2 * a := Nat.mul_le_mul_left 2 normal
    refine iff_of_false exceeds.not_ge ?_
    rintro (less | ⟨tie, -⟩)
    · exact absurd less far.not_gt
    · exact far.ne' tie
  by_cases high : scale * 2 ^ 52 + 2 ^ 53 ≤ n
  · have far : 2 * a < middle n * b :=
      calc 2 * a
        _ < 2 * (2 ^ 53 * (b * 2 ^ scale)) := Nat.mul_lt_mul_of_pos_left below two_pos
        _ = (2 * (2 ^ 53 * 2 ^ scale)) * b := by ring
        _ ≤ middle n * b := Nat.mul_le_mul_right b (le_middle high)
    exact iff_of_true ((Nat.add_le_add_left most _).trans high) (.inl far)
  · obtain ⟨m, rfl⟩ : ∃ m, n = scale * 2 ^ 52 + m := ⟨n - scale * 2 ^ 52, by omega⟩
    have here : middle (scale * 2 ^ 52 + m) * b = (2 * m + 1) * (b * 2 ^ scale) := by
      rw [middle_scaled (by omega) (by omega)]
      ring
    have parity : (scale * 2 ^ 52 + m) % 2 = m % 2 := by omega
    rw [here, parity, Nat.add_le_add_iff_left]
    exact roundQuotient_le_iff posScaled a m

/-! ## Values up to a midpoint -/

def halfway (n : Nat) : ℚ := middle n / 2 ^ 1075

/-- The value is below the midpoint that follows a pattern, or on it if the pattern is even. -/
def UpTo (n : Nat) (x : ℚ) : Prop := x < halfway n ∨ (x = halfway n ∧ n % 2 = 0)

theorem strictMono_halfway : StrictMono halfway := by
  apply strictMono_nat_of_lt_succ
  intro n
  have next : unitsOf n < unitsOf (n + 1) := strictMono_unitsOf n.lt_add_one
  have afterNext : unitsOf (n + 1) < unitsOf (n + 1 + 1) := strictMono_unitsOf (n + 1).lt_add_one
  have below : middle n < middle (n + 1) := by
    unfold middle
    omega
  exact div_lt_div_of_pos_right (Nat.cast_lt.mpr below) (by positivity)

theorem UpTo.le {n : Nat} {x : ℚ} (upTo : UpTo n x) : x ≤ halfway n :=
  upTo.elim le_of_lt fun tie => tie.1.le

theorem UpTo.of_le {n : Nat} {x y : ℚ} (upTo : UpTo n y) (le : x ≤ y) : UpTo n x := by
  rcases le.lt_or_eq with less | rfl
  · exact .inl (less.trans_le upTo.le)
  · exact upTo

theorem UpTo.mono {m n : Nat} {x : ℚ} (upTo : UpTo m x) (le : m ≤ n) : UpTo n x := by
  rcases le.lt_or_eq with less | rfl
  · exact .inl (upTo.le.trans_lt (strictMono_halfway less))
  · exact upTo

theorem roundRatio_eq (num den : Nat) :
    roundRatio num den = min infinity (roundUnits (num * 2 ^ 1074) den) := by
  unfold roundRatio
  generalize 1074 = exponent
  rfl

theorem roundRatio_le_iff {den n : Nat} (pos : 0 < den) (num : Nat) (finite : n < infinity) :
    roundRatio num den ≤ n ↔ UpTo n (num / den) := by
  have twice : (2 : ℚ) ^ 1075 = 2 * (2 ^ 1074 : Nat) := by rw [pow_succ', Nat.cast_pow, Nat.cast_ofNat]
  have some : 0 < 2 ^ 1074 := by positivity
  have posDen : (0 : ℚ) < den := Nat.cast_pos.mpr pos
  rw [roundRatio_eq, min_le_iff, or_iff_right finite.not_ge, roundUnits_le_iff pos, UpTo, halfway, twice]
  clear twice
  generalize 2 ^ 1074 = unit at *
  have posUnit : (0 : ℚ) < 2 * unit := mul_pos two_pos (Nat.cast_pos.mpr some)
  have scaled : ((2 * (num * unit) : Nat) : ℚ) = num * (2 * unit) := by
    push_cast
    ring
  rw [div_lt_div_iff₀ posDen posUnit, div_eq_div_iff posDen.ne' posUnit.ne', ← scaled,
    ← Nat.cast_mul, Nat.cast_lt, Nat.cast_inj]

end Binary64

open Binary64

/-! ## Decimals -/

namespace Decimal

def size (d : Decimal) : ℚ := d.coefficient * 10 ^ d.exponent

def value (d : Decimal) : ℚ := if d.negative then -d.size else d.size

theorem size_nonneg (d : Decimal) : 0 ≤ d.size := by
  unfold size
  positivity

theorem abs_value (d : Decimal) : |d.value| = d.size := by
  unfold value
  split
  · rw [abs_neg, abs_of_nonneg d.size_nonneg]
  · exact abs_of_nonneg d.size_nonneg

def overflow : ℚ := 2 ^ 1024 - 2 ^ 970

theorem upTo_last_iff (x : ℚ) : UpTo (infinity - 1) x ↔ x < overflow := by
  have last : infinity - 1 = 2045 * 2 ^ 52 + (2 ^ 53 - 1) := by decide
  have odd : ¬ (infinity - 1) % 2 = 0 := by decide
  have split : (2 : ℚ) ^ 1024 = 2 ^ 54 * 2 ^ 970 := by rw [← pow_add]
  have scaled : (2 : ℚ) ^ 2045 = 2 ^ 970 * 2 ^ 1075 := by rw [← pow_add]
  have here : halfway (infinity - 1) = overflow := by
    rw [halfway, last, middle_scaled (by omega) (.inr (by omega)), overflow, split, Nat.cast_mul,
      Nat.cast_pow, Nat.cast_ofNat, scaled, ← mul_assoc, mul_div_cancel_right₀ _ (by positivity)]
    generalize (2 : ℚ) ^ 970 = low
    norm_num
    ring
  simp only [UpTo, here, odd, and_false, or_false]

theorem lt_overflow_of_upTo {n : Nat} {x : ℚ} (upTo : UpTo n x) (finite : n < infinity) :
    x < overflow :=
  (upTo_last_iff x).mp (upTo.mono (Nat.le_sub_one_of_lt finite))

theorem overflow_le {e : ℤ} (large : 400 < e) : overflow ≤ 10 ^ e :=
  calc overflow
    _ ≤ 2 ^ 1024 := sub_le_self _ (by positivity)
    _ ≤ 2 ^ (3 * 400) := pow_le_pow_right₀ one_le_two (by norm_num)
    _ = (2 ^ 3) ^ 400 := pow_mul 2 3 400
    _ ≤ 10 ^ 400 := pow_le_pow_left₀ (by norm_num) (by norm_num) 400
    _ = 10 ^ (400 : ℤ) := (zpow_ofNat 10 400).symm
    _ ≤ 10 ^ e := zpow_le_zpow_right₀ (by norm_num) large.le

theorem overflow_le_size {d : Decimal} (some : d.coefficient ≠ 0) (large : 400 < d.exponent) :
    overflow ≤ d.size := by
  have one : (1 : ℚ) ≤ d.coefficient := Nat.one_le_cast.mpr (Nat.one_le_iff_ne_zero.mpr some)
  exact (overflow_le large).trans (le_mul_of_one_le_left (by positivity) one)

theorem upTo_zero {x : ℚ} (small : x ≤ 1 / 2 ^ 1075) : UpTo 0 x := by
  have units : middle 0 = 1 := rfl
  have first : halfway 0 = 1 / 2 ^ 1075 := by rw [halfway, units, Nat.cast_one]
  rw [UpTo, first]
  exact small.lt_or_eq.imp_right (⟨·, rfl⟩)

theorem size_lt (d : Decimal) : d.size < 10 ^ (d.exponent + d.coefficient.log2 + 1) := by
  have bits : (d.coefficient : ℚ) < 10 ^ (d.coefficient.log2 + 1) :=
    calc (d.coefficient : ℚ)
      _ < (2 ^ (d.coefficient.log2 + 1) : Nat) := Nat.cast_lt.mpr Nat.lt_log2_self
      _ = 2 ^ (d.coefficient.log2 + 1) := Nat.cast_pow 2 _
      _ ≤ 10 ^ (d.coefficient.log2 + 1) := pow_le_pow_left₀ (by norm_num) (by norm_num) _
  calc d.size
    _ < 10 ^ (d.coefficient.log2 + 1) * 10 ^ d.exponent :=
      mul_lt_mul_of_pos_right bits (by positivity)
    _ = 10 ^ (d.exponent + d.coefficient.log2 + 1) := by
      rw [← zpow_natCast, ← zpow_add₀ (by norm_num)]
      congr 1
      push_cast
      ring

theorem size_le_of_small {d : Decimal} (small : d.exponent + d.coefficient.log2 + 1 < -400) :
    d.size ≤ 1 / 2 ^ 1075 :=
  calc d.size
    _ ≤ 10 ^ (d.exponent + d.coefficient.log2 + 1) := d.size_lt.le
    _ ≤ 10 ^ (-400 : ℤ) := zpow_le_zpow_right₀ (by norm_num) small.le
    _ = 1 / 10 ^ 400 := by rw [zpow_neg, zpow_ofNat, one_div]
    _ ≤ 1 / (2 ^ 3) ^ 400 := by
      apply one_div_le_one_div_of_le (by positivity)
      exact pow_le_pow_left₀ (by norm_num) (by norm_num) 400
    _ = 1 / 2 ^ (3 * 400) := by rw [pow_mul]
    _ ≤ 1 / 2 ^ 1075 := by
      apply one_div_le_one_div_of_le (by positivity)
      exact pow_le_pow_right₀ one_le_two (by norm_num)

theorem size_of_nonneg {d : Decimal} (whole : 0 ≤ d.exponent) :
    d.size = (d.coefficient * 10 ^ d.exponent.toNat : Nat) / (1 : Nat) := by
  obtain ⟨n, exponent⟩ := Int.eq_ofNat_of_zero_le whole
  rw [size, exponent, zpow_natCast, Int.toNat_natCast]
  simp

theorem size_of_neg {d : Decimal} (part : d.exponent < 0) :
    d.size = d.coefficient / (10 ^ (-d.exponent).toNat : Nat) := by
  obtain ⟨n, exponent⟩ := Int.eq_ofNat_of_zero_le (Int.neg_nonneg_of_nonpos part.le)
  rw [size, ← neg_neg d.exponent, exponent, zpow_neg, zpow_natCast, neg_neg, Int.toNat_natCast,
    div_eq_mul_inv]
  simp

/-- Rounding goes to the nearest number, and from a midpoint to the even one. -/
theorem roundMagnitude_le_iff (d : Decimal) {n : Nat} (finite : n < infinity) :
    d.roundMagnitude ≤ n ↔ UpTo n d.size := by
  rw [roundMagnitude]
  split
  next none =>
    have nothing : d.size = 0 := by simp [size, none]
    rw [nothing]
    exact iff_of_true n.zero_le ((upTo_zero (by positivity)).mono n.zero_le)
  next some =>
    split
    next large =>
      refine iff_of_false finite.not_ge fun upTo => ?_
      exact (overflow_le_size some large).not_gt (lt_overflow_of_upTo upTo finite)
    split
    next small =>
      exact iff_of_true n.zero_le ((upTo_zero (size_le_of_small small)).mono n.zero_le)
    split
    next whole =>
      rw [size_of_nonneg whole]
      exact roundRatio_le_iff one_pos _ finite
    next part =>
      rw [size_of_neg (by omega)]
      exact roundRatio_le_iff (Nat.pow_pos (by norm_num)) _ finite

theorem isFinite_toBinary64_iff (d : Decimal) :
    d.toBinary64.isFinite = true ↔ |d.value| < overflow := by
  have some : infinity - 1 < infinity := by decide
  rw [abs_value, ← upTo_last_iff, ← d.roundMagnitude_le_iff some, isFinite, decide_eq_true_iff,
    toBinary64]
  exact Nat.lt_iff_le_pred (Nat.zero_lt_of_lt some)

end Decimal

end ScriptShell.Number

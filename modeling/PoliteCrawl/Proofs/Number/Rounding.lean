import Mathlib.Algebra.Order.Field.Power
import Mathlib.Data.Nat.Cast.Order.Field
import Mathlib.Data.Rat.Cast.Order
import Mathlib.Tactic.Linarith
import PoliteCrawl.Number.Binary64

namespace PoliteCrawl.Binary64

def value : Binary64 → ℚ
  | finite negative m e => (if negative then -1 else 1) * (m * 2 ^ e)
  | _ => 0

theorem ratio_snd_pos (m : Nat) (e : Int) : 0 < (ratio m e).2 := by
  unfold ratio
  split <;> simp

theorem ratio_div (m : Nat) (e : Int) :
    ((ratio m e).1 : ℚ) / (ratio m e).2 = m * 2 ^ e := by
  unfold ratio
  split
  · rename_i h
    obtain ⟨k, rfl⟩ := Int.eq_ofNat_of_zero_le h
    simp
  · rename_i h
    obtain ⟨k, hk⟩ := Int.eq_ofNat_of_zero_le (show 0 ≤ -e by omega)
    have he : e = -(k : Int) := by omega
    subst he
    simp [div_eq_mul_inv]

theorem aligned_eq {negative : Bool} {m : Nat} {e low : Int} (h : low ≤ e) :
    (aligned negative m e low : ℚ) = value (finite negative m e) * 2 ^ (-low) := by
  obtain ⟨k, hk⟩ := Int.eq_ofNat_of_zero_le (show 0 ≤ e - low by omega)
  have he : e = low + k := by omega
  subst he
  have hpow : (2 : ℚ) ^ (low + k) * (2 ^ low)⁻¹ = 2 ^ k := by
    rw [← zpow_neg, ← zpow_add₀ (by norm_num), show low + k + -low = (k : Int) by omega,
      zpow_natCast]
  cases negative <;> simp [aligned, value, mul_assoc, hpow]

theorem lt_iff_value {s t : Bool} {m n : Nat} {e f : Int} :
    finite s m e < finite t n f ↔ value (finite s m e) < value (finite t n f) := by
  have hpos : (0 : ℚ) < 2 ^ (-(min e f)) := zpow_pos (by norm_num) _
  change decide (aligned s m e (min e f) < aligned t n f (min e f)) = true ↔ _
  rw [decide_eq_true_iff, ← Int.cast_lt (R := ℚ), aligned_eq (min_le_left e f),
    aligned_eq (min_le_right e f), mul_lt_mul_iff_left₀ hpos]

/-- Rounding a quotient adds a half at most. -/
theorem two_mul_roundQuotient_le (num : Nat) {den : Nat} (h : 0 < den) :
    2 * (roundQuotient num den * den) ≤ 2 * num + den := by
  have hdiv := Nat.div_add_mod num den
  have hmod := Nat.mod_lt num h
  have hmul : den * (num / den) = num / den * den := Nat.mul_comm _ _
  have hsucc : (num / den + 1) * den = num / den * den + den := Nat.succ_mul _ _
  unfold roundQuotient
  dsimp only
  split_ifs <;> omega

/-- A quotient that is not above a natural number is rounded to one that is not. -/
theorem roundQuotient_le {num den most : Nat} (hden : 0 < den) (h : num ≤ most * den) :
    roundQuotient num den ≤ most := by
  have hround := two_mul_roundQuotient_le num hden
  by_contra hlt
  have hmul : (most + 1) * den ≤ roundQuotient num den * den :=
    Nat.mul_le_mul_right den (by omega)
  rw [Nat.succ_mul] at hmul
  omega

theorem scaleOf_le {num den bits : Nat} (hnum : num ≠ 0) (h : num ≤ 2 ^ bits * den) :
    scaleOf num den ≤ bits + 1 := by
  have hlow : 2 ^ num.log2 ≤ num := Nat.log2_self_le hnum
  have hhigh : den < 2 ^ (den.log2 + 1) := Nat.lt_log2_self
  have hpow : 2 ^ num.log2 < 2 ^ (bits + (den.log2 + 1)) := by
    rw [Nat.pow_add]
    calc 2 ^ num.log2 ≤ 2 ^ bits * den := hlow.trans h
      _ < 2 ^ bits * 2 ^ (den.log2 + 1) := Nat.mul_lt_mul_of_pos_left hhigh (by positivity)
  have hlog := (Nat.pow_lt_pow_iff_right (by decide)).mp hpow
  unfold scaleOf
  dsimp only
  split_ifs <;> omega

theorem nearestNat_finite_le (negative : Bool) {m k most : Nat} (hk : k ≠ 0)
    (h : m ≤ most * 2 ^ k) : (finite negative m (-(k : Int))).nearestNat ≤ most := by
  have hneg : ¬ -(k : Int) ≥ 0 := by omega
  have hpos : 0 < 2 ^ k := by positivity
  have hsucc : (most + 1) * (2 * 2 ^ k) = 2 * (most * 2 ^ k) + 2 * 2 ^ k := by
    rw [Nat.succ_mul, Nat.mul_left_comm]
  simp only [nearestNat, ratio, if_neg hneg, neg_neg, Int.toNat_natCast]
  apply Nat.le_of_lt_succ
  rw [Nat.div_lt_iff_lt_mul (by omega), hsucc]
  omega

/-- A number that is not above a natural number of at most fifty bits is not above it, either, when
it has been rounded to double precision and then to an integer. -/
theorem nearestNat_ofRatio_le (negative : Bool) {num den most : Nat} (hden : 0 < den)
    (h : num ≤ most * den) (hmost : most ≤ 2 ^ 49) :
    (ofRatio negative num den).nearestNat ≤ most := by
  unfold ofRatio
  by_cases hzero : num = 0 ∨ den = 0
  · rw [if_pos hzero]
    exact nearestNat_finite_le negative (k := 1074) (by decide) (Nat.zero_le _)
  · have hscale : scaleOf num den ≤ 49 + 1 :=
      scaleOf_le (by omega) (h.trans (Nat.mul_le_mul_right den hmost))
    -- The exponent is so low that the significand counts fractions of one.
    obtain ⟨k, hk⟩ := Int.eq_ofNat_of_zero_le
      (show 0 ≤ -(max (scaleOf num den - 52) (-1074)) - 2 by omega)
    have he : max (scaleOf num den - 52) (-1074) = -((k + 2 : Nat) : Int) := by omega
    have hneg : ¬ -((k + 2 : Nat) : Int) ≥ 0 := by omega
    have hround : roundQuotient (num * 2 ^ (k + 2)) den ≤ most * 2 ^ (k + 2) := by
      apply roundQuotient_le hden
      calc num * 2 ^ (k + 2) ≤ most * den * 2 ^ (k + 2) := Nat.mul_le_mul_right _ h
        _ = most * 2 ^ (k + 2) * den := by rw [Nat.mul_right_comm]
    simp only [if_neg hzero, he, scaled, if_neg hneg, neg_neg, Int.toNat_natCast]
    generalize roundQuotient (num * 2 ^ (k + 2)) den = m at hround
    by_cases htop : m = 2 ^ 53
    · -- A significand that rounding makes too long is halved, with the exponent one higher.
      have hone : -((k + 2 : Nat) : Int) + 1 = -((k + 1 : Nat) : Int) := by omega
      have hhalf : 2 ^ 52 ≤ most * 2 ^ (k + 1) := by
        rw [htop, Nat.pow_succ _ (k + 1), ← Nat.mul_assoc] at hround
        omega
      rw [if_pos htop, hone]
      dsimp only
      rw [if_neg (by omega)]
      exact nearestNat_finite_le negative (Nat.succ_ne_zero _) hhalf
    · rw [if_neg htop]
      dsimp only
      rw [if_neg (by omega)]
      exact nearestNat_finite_le negative (Nat.succ_ne_zero _) hround

theorem nearestNat_round_le {x : Binary64} {most : Nat} (h : x.nearestNat ≤ most)
    (hmost : most ≤ 2 ^ 49) : x.round.nearestNat ≤ most := by
  cases x with
  | nan => exact h
  | infinite _ => exact h
  | finite negative m e =>
    apply nearestNat_ofRatio_le negative Nat.one_pos _ hmost
    rw [Nat.mul_one]
    exact h

theorem nearestNat_mul_le (s t : Bool) {m n most : Nat} {e f : Int}
    (h : (m * 2 ^ e) * (n * 2 ^ f) ≤ (most : ℚ)) (hmost : most ≤ 2 ^ 49) :
    (mul (finite s m e) (finite t n f)).nearestNat ≤ most := by
  have hpos := ratio_snd_pos (m * n) (e + f)
  have hratio : ((ratio (m * n) (e + f)).1 : ℚ) / (ratio (m * n) (e + f)).2 ≤ most := by
    rw [ratio_div, zpow_add₀ (by norm_num), Nat.cast_mul, mul_mul_mul_comm]
    exact h
  apply nearestNat_ofRatio_le (s != t) hpos _ hmost
  rw [div_le_iff₀ (Nat.cast_pos.mpr hpos)] at hratio
  exact_mod_cast hratio

end PoliteCrawl.Binary64

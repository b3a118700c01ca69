import Mathlib.Tactic.FieldSimp
import Mathlib.Tactic.NormNum.Pow
import Mathlib.Tactic.Ring
import PoliteCrawl.Proofs.Number.Rounding

namespace PoliteCrawl.Binary64

theorem abs_roundQuotient_sub_le (num : Nat) {den : Nat} (h : 0 < den) :
    |(roundQuotient num den : ℚ) - num / den| ≤ 1 / 2 := by
  have hdiv := Nat.div_add_mod num den
  have hmod := Nat.mod_lt num h
  have hmul : den * (num / den) = num / den * den := Nat.mul_comm _ _
  have hsucc : (num / den + 1) * den = num / den * den + den := Nat.succ_mul _ _
  have hlow : 2 * num ≤ 2 * (roundQuotient num den * den) + den := by
    unfold roundQuotient
    dsimp only
    split_ifs <;> omega
  have hhigh := two_mul_roundQuotient_le num h
  have hpos : (0 : ℚ) < den := Nat.cast_pos.mpr h
  have hquotient : (num : ℚ) / den * den = num := div_mul_cancel₀ _ hpos.ne'
  have hlow : 2 * (num : ℚ) ≤ 2 * (roundQuotient num den * den) + den := by exact_mod_cast hlow
  have hhigh : 2 * ((roundQuotient num den : ℚ) * den) ≤ 2 * num + den := by exact_mod_cast hhigh
  rw [abs_le]
  constructor <;> nlinarith

theorem two_zpow_scaleOf_le {num den : Nat} (hnum : num ≠ 0) (hden : den ≠ 0) :
    (2 : ℚ) ^ scaleOf num den ≤ num / den := by
  have hpos : (0 : ℚ) < den := Nat.cast_pos.mpr (Nat.pos_of_ne_zero hden)
  have hguess : (2 : ℚ) ^ ((num.log2 : Int) - den.log2 - 1) ≤ num / den := by
    have hlow : ((2 ^ num.log2 : Nat) : ℚ) ≤ num := Nat.cast_le.mpr (Nat.log2_self_le hnum)
    have hhigh : (den : ℚ) ≤ ((2 ^ (den.log2 + 1) : Nat) : ℚ) :=
      Nat.cast_le.mpr (Nat.le_of_lt Nat.lt_log2_self)
    rw [Nat.cast_pow, Nat.cast_ofNat] at hlow hhigh
    rw [sub_sub, zpow_sub₀ (by norm_num), zpow_natCast, ← Nat.cast_succ, zpow_natCast]
    exact div_le_div₀ (Nat.cast_nonneg _) hlow hpos hhigh
  unfold scaleOf
  dsimp only
  split_ifs with hsign hreached hreached
  · obtain ⟨k, hk⟩ := Int.eq_ofNat_of_zero_le hsign
    rw [hk, Int.toNat_natCast] at hreached
    rw [hk, zpow_natCast, le_div_iff₀ hpos, mul_comm]
    exact_mod_cast hreached
  · exact hguess
  · obtain ⟨k, hk⟩ := Int.eq_ofNat_of_zero_le (show 0 ≤ -((num.log2 : Int) - den.log2) by omega)
    rw [hk, Int.toNat_natCast] at hreached
    have hexp : (num.log2 : Int) - den.log2 = -(k : Int) := by omega
    rw [hexp, zpow_neg, zpow_natCast, le_div_iff₀ hpos, inv_mul_le_iff₀ (by positivity), mul_comm]
    exact_mod_cast hreached
  · exact hguess

theorem scaled_snd_pos {num den : Nat} (h : 0 < den) (e : Int) : 0 < (scaled num den e).2 := by
  unfold scaled
  split
  · exact Nat.mul_pos h (Nat.two_pow_pos _)
  · exact h

theorem scaled_div (num den : Nat) (e : Int) :
    ((scaled num den e).1 : ℚ) / (scaled num den e).2 = num / den * 2 ^ (-e) := by
  unfold scaled
  split
  · rename_i he
    obtain ⟨k, rfl⟩ := Int.eq_ofNat_of_zero_le he
    simp [div_eq_mul_inv, mul_assoc, mul_comm]
  · rename_i he
    obtain ⟨k, hk⟩ := Int.eq_ofNat_of_zero_le (show 0 ≤ -e by omega)
    rw [hk]
    simp [div_mul_eq_mul_div]

def grid (num den : Nat) : Int := max (scaleOf num den - 52) (-1074)

/-- A fraction that is not out of range is rounded to a whole number of steps, the nearest one. -/
theorem exists_steps (negative : Bool) {num den : Nat} (hnum : num ≠ 0) (hden : 0 < den)
    (hrange : num < 2 ^ 200 * den) : ∃ m e, ∃ k : Nat,
      ofRatio negative num den = finite negative m e ∧
      (m : ℚ) * 2 ^ e = k * 2 ^ grid num den ∧
      |(k : ℚ) - num / den * 2 ^ (-grid num den)| ≤ 1 / 2 := by
  have hscale : (2 : ℚ) ^ scaleOf num den < 2 ^ (200 : Int) := by
    refine (two_zpow_scaleOf_le hnum hden.ne').trans_lt ?_
    rw [div_lt_iff₀ (Nat.cast_pos.mpr hden)]
    exact_mod_cast hrange
  have hlt := (zpow_lt_zpow_iff_right₀ (by norm_num)).mp hscale
  have hgrid : grid num den ≤ 970 := by
    unfold grid
    omega
  have hunit : 0 < (scaled num den (grid num den)).2 := scaled_snd_pos hden _
  have hround := abs_roundQuotient_sub_le (scaled num den (grid num den)).1 hunit
  rw [scaled_div] at hround
  unfold ofRatio
  rw [if_neg (by omega)]
  dsimp only
  rw [← grid]
  generalize roundQuotient (scaled num den (grid num den)).1 (scaled num den (grid num den)).2 = k
    at hround
  -- rounding up may carry to the next power of two, where the steps are twice as wide
  by_cases htop : k = 2 ^ 53
  · rw [if_pos htop]
    dsimp only
    rw [if_neg (by omega)]
    refine ⟨_, _, k, rfl, ?_, hround⟩
    rw [htop, zpow_add₀ (by norm_num)]
    norm_num
    ring
  · rw [if_neg htop]
    dsimp only
    rw [if_neg (by omega)]
    exact ⟨_, _, k, rfl, rfl, hround⟩

theorem exists_ofRatio (negative : Bool) {num den : Nat} (hden : 0 < den)
    (hrange : num < 2 ^ 200 * den) : ∃ m e, ofRatio negative num den = finite negative m e := by
  by_cases hnum : num = 0
  · exact ⟨0, -1074, by simp [ofRatio, hnum]⟩
  · obtain ⟨m, e, -, heq, -⟩ := exists_steps negative hnum hden hrange
    exact ⟨m, e, heq⟩

/-- A number that stands for a fraction as near as rounding leaves it. -/
def Rounds (x : Binary64) (q : ℚ) : Prop :=
  ∃ m e, x = finite false m e ∧ |value x - q| ≤ (q + 1) / 2 ^ 53

@[simp] theorem value_pos (m : Nat) (e : Int) : value (finite false m e) = m * 2 ^ e := by
  simp [value]

theorem rounds_zero : Rounds (finite false 0 (-1074)) 0 := ⟨0, -1074, rfl, by simp⟩

theorem two_zpow_grid_le {num den : Nat} (hnum : num ≠ 0) (hden : 0 < den) :
    (2 : ℚ) ^ grid num den ≤ (num / den + 1) / 2 ^ 52 := by
  have hscale := two_zpow_scaleOf_le hnum hden.ne'
  have hone : (0 : ℚ) ≤ num / den := by positivity
  unfold grid
  rcases le_total (scaleOf num den - 52) (-1074) with h | h
  · rw [max_eq_right h]
    calc (2 : ℚ) ^ (-1074 : Int) ≤ 2 ^ (-52 : Int) :=
          zpow_le_zpow_right₀ (by norm_num) (by norm_num)
      _ = 1 / 2 ^ 52 := by norm_num
      _ ≤ (num / den + 1) / 2 ^ 52 := by gcongr; linarith
  · rw [max_eq_left h, zpow_sub₀ (by norm_num)]
    calc (2 : ℚ) ^ scaleOf num den / 2 ^ (52 : Int) ≤ num / den / 2 ^ (52 : Int) := by gcongr
      _ ≤ (num / den + 1) / 2 ^ 52 := by
        norm_cast
        gcongr
        linarith

theorem rounds_ofRatio {num den : Nat} (hden : 0 < den) (hrange : num < 2 ^ 200 * den) :
    Rounds (ofRatio false num den) (num / den) := by
  by_cases hnum : num = 0
  · simpa [hnum, ofRatio] using rounds_zero
  · obtain ⟨m, e, k, heq, hsteps, hnear⟩ := exists_steps false hnum hden hrange
    refine ⟨m, e, heq, ?_⟩
    have hpos : (0 : ℚ) < 2 ^ grid num den := zpow_pos (by norm_num) _
    have hquotient : (num : ℚ) / den =
        num / den * 2 ^ (-grid num den) * 2 ^ grid num den := by
      rw [mul_assoc, ← zpow_add₀ (by norm_num), neg_add_cancel, zpow_zero, mul_one]
    calc |value (ofRatio false num den) - num / den|
        = |(k : ℚ) - num / den * 2 ^ (-grid num den)| * 2 ^ grid num den := by
          rw [heq, value_pos, hsteps]
          nth_rewrite 1 [hquotient]
          rw [← sub_mul, abs_mul, abs_of_pos hpos]
      _ ≤ 1 / 2 * ((num / den + 1) / 2 ^ 52) := by
          gcongr
          exact two_zpow_grid_le hnum hden
      _ = (num / den + 1) / 2 ^ 53 := by ring

/-- An integer of at most 53 bits is one of the numbers. -/
theorem value_ofRatio_natural {n num den : Nat} (hden : 0 < den) (hn : num = n * den)
    (hbits : n < 2 ^ 53) :
    ∃ m e, ofRatio false num den = finite false m e ∧ (m : ℚ) * 2 ^ e = n := by
  by_cases hzero : num = 0
  · have hn : n = 0 := by
      rw [hzero] at hn
      exact (Nat.mul_eq_zero.mp hn.symm).resolve_right hden.ne'
    exact ⟨0, -1074, by simp [ofRatio, hzero], by simp [hn]⟩
  · have hquotient : (num : ℚ) / den = n := by
      rw [hn, Nat.cast_mul, mul_div_assoc, div_self (Nat.cast_ne_zero.mpr hden.ne'), mul_one]
    have hrange : num < 2 ^ 200 * den := by
      rw [hn]
      exact Nat.mul_lt_mul_of_pos_right (hbits.trans (by norm_num)) hden
    obtain ⟨m, e, k, heq, hsteps, hnear⟩ := exists_steps false hzero hden hrange
    refine ⟨m, e, heq, ?_⟩
    have hscale : (2 : ℚ) ^ scaleOf num den < 2 ^ (53 : Int) := by
      refine (two_zpow_scaleOf_le hzero hden.ne').trans_lt ?_
      rw [hquotient]
      exact_mod_cast hbits
    have hlt := (zpow_lt_zpow_iff_right₀ (by norm_num)).mp hscale
    -- The steps are fractions of one, so the integer is a whole number of them.
    obtain ⟨j, hj⟩ := Int.eq_ofNat_of_zero_le
      (show 0 ≤ -grid num den by unfold grid; omega)
    have hk : k = n * 2 ^ j := by
      rw [hquotient, hj] at hnear
      have hcast : (n : ℚ) * 2 ^ (j : Int) = ((n * 2 ^ j : Nat) : ℚ) := by push_cast; simp
      rw [hcast, ← Int.cast_natCast, ← Int.cast_natCast (n * 2 ^ j), ← Int.cast_sub, ← Int.cast_abs]
        at hnear
      have hlt : |(k : Int) - (n * 2 ^ j : Nat)| < 1 := by
        have : ((|(k : Int) - (n * 2 ^ j : Nat)| : Int) : ℚ) < 1 := hnear.trans_lt (by norm_num)
        exact_mod_cast this
      have := Int.abs_lt_one_iff.mp hlt
      omega
    rw [hsteps, hk, ← neg_neg (grid num den), hj]
    push_cast
    rw [zpow_neg, zpow_natCast, mul_assoc, mul_inv_cancel₀ (by positivity), mul_one]

theorem value_ofNat {n : Nat} (hbits : n < 2 ^ 53) :
    ∃ m e, ofNat n = finite false m e ∧ (m : ℚ) * 2 ^ e = n :=
  value_ofRatio_natural Nat.one_pos (Nat.mul_one n).symm hbits

/-- Integers and numbers are in the order of their values. -/
theorem ofNat_lt_iff {n m : Nat} {negative : Bool} {e : Int} (hbits : n < 2 ^ 53) :
    ofNat n < finite negative m e ↔ (n : ℚ) < value (finite negative m e) := by
  obtain ⟨k, f, hnumber, hvalue⟩ := value_ofNat hbits
  rw [hnumber, lt_iff_value, value_pos, hvalue]

theorem lt_ofNat_iff {n m : Nat} {negative : Bool} {e : Int} (hbits : n < 2 ^ 53) :
    finite negative m e < ofNat n ↔ value (finite negative m e) < n := by
  obtain ⟨k, f, hnumber, hvalue⟩ := value_ofNat hbits
  rw [hnumber, lt_iff_value, value_pos k, hvalue]

variable {m n : Nat} {e f : Int}

theorem ratio_mul_div (m n : Nat) (e f : Int) :
    ((ratio (m * n) (e + f)).1 : ℚ) / (ratio (m * n) (e + f)).2 = m * 2 ^ e * (n * 2 ^ f) := by
  rw [ratio_div, zpow_add₀ (by norm_num), Nat.cast_mul, mul_mul_mul_comm]

theorem lt_of_div_lt {num den : Nat} (hden : 0 < den) (h : (num : ℚ) / den < 2 ^ 200) :
    num < 2 ^ 200 * den := by
  rw [div_lt_iff₀ (Nat.cast_pos.mpr hden)] at h
  exact_mod_cast h

/-- A product that is not out of range is a number. -/
theorem exists_mul_eq (s t : Bool) (h : (m : ℚ) * 2 ^ e * (n * 2 ^ f) < 2 ^ 200) :
    ∃ k g, mul (finite s m e) (finite t n f) = finite (s != t) k g := by
  have hpos := ratio_snd_pos (m * n) (e + f)
  rw [← ratio_mul_div] at h
  exact exists_ofRatio (s != t) hpos (lt_of_div_lt hpos h)

theorem rounds_mul (h : (m : ℚ) * 2 ^ e * (n * 2 ^ f) < 2 ^ 200) :
    Rounds (mul (finite false m e) (finite false n f)) (m * 2 ^ e * (n * 2 ^ f)) := by
  have hpos := ratio_snd_pos (m * n) (e + f)
  rw [← ratio_mul_div] at h ⊢
  exact rounds_ofRatio hpos (lt_of_div_lt hpos h)

/-- A quotient is one of a numerator and a denominator. -/
theorem exists_div_eq (hn : n ≠ 0) : ∃ num den, 0 < den ∧
    div (finite false m e) (finite false n f) = ofRatio false num den ∧
    (num : ℚ) / den = m * 2 ^ e / (n * 2 ^ f) := by
  have hpos := ratio_snd_pos m (e - f)
  refine ⟨(ratio m (e - f)).1, (ratio m (e - f)).2 * n,
    Nat.mul_pos hpos (Nat.pos_of_ne_zero hn), ?_, ?_⟩
  · simp only [div, if_neg hn]
    rfl
  · rw [Nat.cast_mul, ← div_div, ratio_div, zpow_sub₀ (by norm_num)]
    field_simp

theorem nearestNat_eq {k : Nat} (h : |value (finite false m e) - k| < 1 / 2) :
    (finite false m e).nearestNat = k := by
  have hpos := ratio_snd_pos m e
  rw [value_pos, ← ratio_div] at h
  simp only [nearestNat]
  generalize (ratio m e).1 = p at h
  generalize (ratio m e).2 = q at h hpos
  have hcast : (0 : ℚ) < q := Nat.cast_pos.mpr hpos
  have hquotient : (p : ℚ) / q * q = p := div_mul_cancel₀ _ hcast.ne'
  obtain ⟨hlow, hhigh⟩ := abs_lt.mp h
  have hle : ((k * (2 * q) : Nat) : ℚ) ≤ (2 * p + q : Nat) := by
    push_cast
    nlinarith
  have hlt : ((2 * p + q : Nat) : ℚ) < ((k + 1) * (2 * q) : Nat) := by
    push_cast
    nlinarith
  exact Nat.div_eq_of_lt_le (by exact_mod_cast hle) (by exact_mod_cast hlt)

theorem nearestNat_pos {negative : Bool} (h : 1 ≤ value (finite negative m e)) :
    0 < (finite negative m e).nearestNat := by
  have hmagnitude : 1 ≤ (m : ℚ) * 2 ^ e := by
    have hpow : (0 : ℚ) ≤ m * 2 ^ e := by positivity
    cases negative with
    | false => rwa [value_pos] at h
    | true =>
      simp only [value, if_true, neg_mul, one_mul] at h
      linarith
  have hpos := ratio_snd_pos m e
  rw [← ratio_div, one_le_div (Nat.cast_pos.mpr hpos), Nat.cast_le] at hmagnitude
  simp only [nearestNat]
  exact Nat.div_pos (by omega) (by omega)

theorem abs_ofRatio (negative : Bool) (num den : Nat) :
    (ofRatio negative num den).abs = ofRatio false num den := by
  unfold ofRatio
  dsimp only
  split_ifs <;> rfl

/-- The distance of two numbers, as their rounded difference gives it. -/
theorem rounds_abs_sub
    (h : |value (finite false m e) - value (finite false n f)| < 2 ^ 200) :
    Rounds (sub (finite false m e) (finite false n f)).abs
      |value (finite false m e) - value (finite false n f)| := by
  have hsum : ((aligned false m e (min e f) + aligned true n f (min e f) : Int) : ℚ) =
      (value (finite false m e) - value (finite false n f)) * 2 ^ (-min e f) := by
    rw [Int.cast_add, aligned_eq (min_le_left e f), aligned_eq (min_le_right e f)]
    simp [value]
    ring
  simp only [sub, neg, Bool.not_false, add]
  generalize aligned false m e (min e f) + aligned true n f (min e f) = sum at hsum
  have hdiff : |value (finite false m e) - value (finite false n f)| =
      ((ratio sum.natAbs (min e f)).1 : ℚ) / (ratio sum.natAbs (min e f)).2 := by
    rw [ratio_div, Nat.cast_natAbs, Int.cast_abs, hsum, abs_mul,
      abs_of_pos (zpow_pos (two_pos : (0 : ℚ) < 2) (-min e f)), mul_assoc,
      ← zpow_add₀ (by norm_num), neg_add_cancel, zpow_zero, mul_one]
  have hpos := ratio_snd_pos sum.natAbs (min e f)
  rw [hdiff] at h ⊢
  by_cases hzero : sum = 0
  · rw [if_pos hzero, hzero, Int.natAbs_zero, ratio_div, Nat.cast_zero, zero_mul]
    exact rounds_zero
  · rw [if_neg hzero, abs_ofRatio]
    exact rounds_ofRatio hpos (lt_of_div_lt hpos h)

end PoliteCrawl.Binary64

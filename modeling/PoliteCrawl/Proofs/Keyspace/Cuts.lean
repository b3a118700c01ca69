import Mathlib.Algebra.Order.BigOperators.Group.List
import PoliteCrawl.Proofs.Keyspace.Ownership
import PoliteCrawl.Proofs.Number.Nearest
import PoliteCrawl.Proofs.Number.Rounding

namespace PoliteCrawl

namespace Weight

open Binary64

theorem wholeFloat_eq : wholeFloat = finite false (10000 * 2 ^ 39) (-39) := by decide +kernel

theorem ofNat_one_eq : Binary64.ofNat 1 = finite false (2 ^ 52) (-52) := by decide +kernel

/-- A number above zero and not above one is a fraction of the whole. -/
theorem magnitude_le_one {negative : Bool} {m : Nat} {e : Int}
    (hpos : Binary64.ofNat 0 < finite negative m e) (hone : ¬ Binary64.ofNat 1 < finite negative m e) :
    (m : ℚ) * 2 ^ e ≤ 1 := by
  have hpow : (0 : ℚ) ≤ m * 2 ^ e := by positivity
  have hzero : value (Binary64.ofNat 0) = 0 := by simp [value, Binary64.ofNat, ofRatio]
  have hvalue : value (Binary64.ofNat 1) = 1 := by norm_num [ofNat_one_eq, value]
  rw [ofNat_one_eq, lt_iff_value, ← ofNat_one_eq, hvalue] at hone
  have hpos : value (Binary64.ofNat 0) < value (finite negative m e) := lt_iff_value.mp hpos
  rw [hzero] at hpos
  cases negative with
  | false => simpa [value] using hone
  | true =>
    simp only [value, if_true, neg_mul, one_mul] at hpos
    linarith

/-- A weight has at most the basis points of the whole. -/
theorem basisPoints?_le {w : Binary64} {n : Nat} (h : basisPoints? w = some n) : n ≤ whole := by
  unfold basisPoints? at h
  split at h
  · rename_i hw
    obtain ⟨hfinite, hpos, hone⟩ := hw
    dsimp only at h
    split at h
    · cases h
    · cases h
      cases w with
      | nan => cases hfinite
      | infinite _ => cases hfinite
      | finite negative m e =>
        have hm := magnitude_le_one hpos hone
        rw [wholeFloat_eq]
        apply nearestNat_round_le _ (by decide)
        apply nearestNat_mul_le _ _ _ (by decide)
        norm_num [whole]
        linarith
  · cases h

theorem exists_wholeFloat : ∃ m e, wholeFloat = finite false m e ∧ (m : ℚ) * 2 ^ e = 10000 :=
  ⟨_, _, wholeFloat_eq, by norm_num⟩

/-- What is not above one is still a number when it has been scaled up and rounded. -/
theorem exists_round_scaled {negative : Bool} {m : Nat} {e : Int} (h : (m : ℚ) * 2 ^ e ≤ 1) :
    ∃ s k f, ((finite negative m e).mul wholeFloat).round = finite s k f := by
  obtain ⟨k, f, hwhole, hk⟩ := exists_wholeFloat
  obtain ⟨j, g, hscaled⟩ := exists_mul_eq negative false (m := m) (n := k) (e := e) (f := f)
    (by rw [hk]; linarith)
  have hmost : (finite (negative != false) j g).nearestNat ≤ whole := by
    rw [← hscaled]
    apply nearestNat_mul_le _ _ _ (by decide)
    rw [hk]
    norm_num [whole]
    linarith
  have hrange : (finite (negative != false) j g).nearestNat < 2 ^ 200 * 1 := by
    norm_num [whole] at hmost ⊢
    omega
  rw [hwhole, hscaled]
  exact ⟨_, exists_ofRatio (negative != false) Nat.one_pos hrange⟩

/-- An accepted weight has a basis point at least. -/
theorem basisPoints?_pos {w : Binary64} {n : Nat} (h : basisPoints? w = some n) : 0 < n := by
  unfold basisPoints? at h
  split at h
  · rename_i hw
    obtain ⟨hfinite, hpos, hone⟩ := hw
    dsimp only at h
    split at h
    · cases h
    · rename_i hrounded
      cases h
      cases w with
      | nan => cases hfinite
      | infinite _ => cases hfinite
      | finite negative m e =>
        obtain ⟨s, k, f, hround⟩ := exists_round_scaled (magnitude_le_one hpos hone)
        rw [hround] at hrounded ⊢
        have hle := (not_or.mp hrounded).2
        rw [lt_ofNat_iff (by norm_num), not_lt, Nat.cast_one] at hle
        exact nearestNat_pos hle
  · cases h

variable {weights : List Binary64} {points : List Nat}

theorem length_of_accepted (h : weights.map basisPoints? = points.map some) :
    weights.length = points.length := by
  simpa using congrArg List.length h

theorem exists_of_accepted (h : weights.map basisPoints? = points.map some) {n : Nat}
    (hn : n ∈ points) : ∃ w, basisPoints? w = some n := by
  have hmem : some n ∈ weights.map basisPoints? := by
    rw [h]
    exact List.mem_map_of_mem hn
  obtain ⟨w, -, hw⟩ := List.mem_map.mp hmem
  exact ⟨w, hw⟩

theorem pos_of_accepted (h : weights.map basisPoints? = points.map some) :
    ∀ n ∈ points, 0 < n := by
  intro n hn
  obtain ⟨w, hw⟩ := exists_of_accepted h hn
  exact basisPoints?_pos hw

theorem le_whole_of_accepted (h : weights.map basisPoints? = points.map some) :
    ∀ n ∈ points, n ≤ whole := by
  intro n hn
  obtain ⟨w, hw⟩ := exists_of_accepted h hn
  exact basisPoints?_le hw

end Weight

namespace HashRange

variable {r : HashRange}

def bounds (r : HashRange) : Nat × Nat := (r.min.toNat, r.max.toNat)

/-- The hash, as a number, at the share of the range's width that so many basis points make up. -/
def exactCut (r : HashRange) (points : Nat) : Nat :=
  r.min.toNat + (r.max.toNat - r.min.toNat) * points / Weight.whole

def cutAfter (r : HashRange) (points : List Nat) (k : Nat) : Nat := r.exactCut (points.take k).sum

/-- The bounds of parts that end at the cuts and begin right behind the cut before. -/
def exactBounds (r : HashRange) (points : List Nat) : List (Nat × Nat) :=
  (List.range points.length).map fun k =>
    (if k = 0 then r.min.toNat else r.cutAfter points k + 1, r.cutAfter points (k + 1))

theorem scale_eq (value points : Nat) : scale value points = value * points / Weight.whole := by
  have hdiv := Nat.div_add_mod value Weight.whole
  have hmul : value * points =
      value % Weight.whole * points + Weight.whole * (value / Weight.whole * points) := by
    rw [← Nat.mul_assoc, ← Nat.add_mul, Nat.add_comm, hdiv]
  rw [scale, hmul, Nat.add_mul_div_left _ _ (by decide), Nat.add_comm]

theorem cut_eq (r : HashRange) (points : Nat) : r.cut points = r.exactCut points := by
  rw [cut, exactCut, scale_eq, width]

theorem exactCut_zero (r : HashRange) : r.exactCut 0 = r.min.toNat := by simp [exactCut]

theorem exactCut_whole (r : HashRange) : r.exactCut Weight.whole = r.max.toNat := by
  have hle := KeyHash.le_def.mp r.min_le_max
  rw [exactCut, Nat.mul_div_cancel _ (by decide)]
  omega

theorem exactCut_mono {points points' : Nat} (h : points ≤ points') :
    r.exactCut points ≤ r.exactCut points' :=
  Nat.add_le_add_left (Nat.div_le_div_right (Nat.mul_le_mul_left _ h)) _

theorem exactCut_le {points : Nat} (h : points ≤ Weight.whole) :
    r.exactCut points ≤ r.max.toNat := by
  rw [← exactCut_whole]
  exact exactCut_mono h

/-- The bounds of the parts from `start` on, when the parts before them have `total` basis points. -/
def boundsFrom (r : HashRange) (total start : Nat) : List Nat → List (Nat × Nat)
  | [] => []
  | n :: points =>
    (start, r.exactCut (total + n)) ::
      boundsFrom r (total + n) (r.exactCut (total + n) + 1) points

theorem boundsFrom_eq (r : HashRange) (total start : Nat) (points : List Nat) :
    r.boundsFrom total start points = (List.range points.length).map fun k =>
      (if k = 0 then start else r.exactCut (total + (points.take k).sum) + 1,
        r.exactCut (total + (points.take (k + 1)).sum)) := by
  induction points generalizing total start with
  | nil => rfl
  | cons n points ih =>
    rw [boundsFrom, ih, List.length_cons, List.range_succ_eq_map, List.map_cons, List.map_map]
    congr 1
    apply List.map_congr_left
    intro k _
    by_cases hk : k = 0 <;> simp [hk, Nat.add_assoc]

theorem boundsFrom_min (r : HashRange) (points : List Nat) :
    r.boundsFrom 0 r.min.toNat points = r.exactBounds points := by
  simp [boundsFrom_eq, exactBounds, cutAfter]

theorem ofNats?_eq_none {min max : Nat} (h : max < min) : ofNats? min max = none := by
  rw [ofNats?, dif_neg]
  omega

def endsFrom (r : HashRange) (total : Nat) (points : List Nat) : List Nat :=
  (runningSums total points).dropLast.map r.cut

theorem endsFrom_singleton (total n : Nat) : r.endsFrom total [n] = [] := rfl

theorem endsFrom_cons {total n : Nat} {points : List Nat} (h : points ≠ []) :
    r.endsFrom total (n :: points) = r.exactCut (total + n) :: r.endsFrom (total + n) points := by
  cases points with
  | nil => exact absurd rfl h
  | cons n' points => simp [endsFrom, runningSums, cut_eq]

theorem ofNats?_of_le {min max : Nat} (h : min ≤ max) (hmax : max < 2 ^ 128) :
    ∃ part, ofNats? min max = some part ∧ part.bounds = (min, max) := by
  rw [ofNats?, dif_pos ⟨h, hmax⟩]
  exact ⟨_, rfl, rfl⟩

/-- There are parts with these bounds if none of them is empty. -/
theorem partsFrom_eq_some {total start : Nat} {points : List Nat} (hne : points ≠ [])
    (hsum : total + points.sum = Weight.whole)
    (hle : ∀ b ∈ r.boundsFrom total start points, b.1 ≤ b.2) :
    ∃ parts, partsFrom start (r.endsFrom total points) r.max.toNat = some parts ∧
      parts.map bounds = r.boundsFrom total start points := by
  -- on the parts to come; the last one ends where the range does, which is its cut as well
  induction points generalizing total start with
  | nil => exact absurd rfl hne
  | cons n points ih =>
    simp only [boundsFrom, List.forall_mem_cons] at hle
    rw [List.sum_cons, ← Nat.add_assoc] at hsum
    obtain ⟨part, hpart, hbounds⟩ := ofNats?_of_le hle.1
      (Nat.lt_of_le_of_lt (exactCut_le (by omega)) r.max.toNat_lt)
    by_cases hlast : points = []
    · subst hlast
      have hwhole : total + n = Weight.whole := hsum
      rw [hwhole, exactCut_whole] at hpart hbounds
      refine ⟨[part], ?_, ?_⟩
      · rw [endsFrom_singleton, partsFrom, hpart, Option.map_some]
      · simp [boundsFrom, hwhole, exactCut_whole, hbounds]
    · obtain ⟨parts, hparts, hrest⟩ := ih hlast hsum hle.2
      refine ⟨part :: parts, ?_, ?_⟩
      · simp only [endsFrom_cons hlast, partsFrom, hpart, hparts]
      · rw [List.map_cons, hbounds, hrest, boundsFrom]

/-- There are no parts if one of them would be empty. -/
theorem partsFrom_eq_none {total start : Nat} {points : List Nat}
    (hsum : total + points.sum = Weight.whole)
    (h : ∃ b ∈ r.boundsFrom total start points, b.2 < b.1) :
    partsFrom start (r.endsFrom total points) r.max.toNat = none := by
  induction points generalizing total start with
  | nil => simp [boundsFrom] at h
  | cons n points ih =>
    simp only [boundsFrom, List.exists_mem_cons_iff] at h
    rw [List.sum_cons, ← Nat.add_assoc] at hsum
    by_cases hlast : points = []
    · subst hlast
      have hwhole : total + n = Weight.whole := hsum
      simp only [boundsFrom, List.not_mem_nil, false_and, exists_false, or_false, hwhole,
        exactCut_whole] at h
      rw [endsFrom_singleton, partsFrom, ofNats?_eq_none h, Option.map_none]
    · rw [endsFrom_cons hlast, partsFrom]
      rcases h with h | h
      · rw [ofNats?_eq_none h]
      · rw [ih hsum h]
        cases ofNats? start (r.exactCut (total + n)) <;> rfl

theorem cutAfter_mono (r : HashRange) (points : List Nat) (k : Nat) :
    r.cutAfter points k ≤ r.cutAfter points (k + 1) :=
  exactCut_mono (List.monotone_sum_take points (Nat.le_succ k))

theorem cutAfter_zero (r : HashRange) (points : List Nat) : r.cutAfter points 0 = r.min.toNat := by
  rw [cutAfter, List.take_zero, List.sum_nil, exactCut_zero]

theorem cutAfter_length {points : List Nat} (hsum : points.sum = Weight.whole) :
    r.cutAfter points points.length = r.max.toNat := by
  rw [cutAfter, List.take_length, hsum, exactCut_whole]

theorem cutAfter_le {points : List Nat} (hsum : points.sum = Weight.whole) (k : Nat) :
    r.cutAfter points k ≤ r.max.toNat := by
  apply exactCut_le
  rw [← hsum]
  exact (List.take_sublist k points).sum_le_sum fun _ _ => Nat.zero_le _

/-- A cut falls on the one before it. -/
def CutsMeet (r : HashRange) (points : List Nat) : Prop :=
  ∃ k, 2 ≤ k ∧ k ≤ points.length ∧ r.cutAfter points k = r.cutAfter points (k - 1)

/-- A part is empty just if its cut falls on the one before. The first part never is. -/
theorem exists_empty_iff (r : HashRange) (points : List Nat) :
    (∃ b ∈ r.exactBounds points, b.2 < b.1) ↔ r.CutsMeet points := by
  constructor
  · rintro ⟨b, hb, hlt⟩
    obtain ⟨k, hk, rfl⟩ := List.mem_map.mp hb
    have hlength := List.mem_range.mp hk
    have hmono := r.cutAfter_mono points k
    -- the first part begins at its cut, and every other one behind the cut before
    by_cases hzero : k = 0
    · subst hzero
      simp only [if_true, ← r.cutAfter_zero points] at hlt
      omega
    · simp only [if_neg hzero] at hlt
      refine ⟨k + 1, by omega, hlength, ?_⟩
      rw [Nat.add_sub_cancel]
      omega
  · rintro ⟨k, htwo, hk, heq⟩
    refine ⟨_, List.mem_map.mpr ⟨k - 1, List.mem_range.mpr (by omega), rfl⟩, ?_⟩
    rw [if_neg (by omega), Nat.sub_add_cancel (by omega), heq]
    exact Nat.lt_succ_self _

/-- Cutting by basis points that make up the whole gives the parts between the cuts, unless two cuts
fall together. -/
theorem splitPoints_exact {points : List Nat} (hsum : points.sum = Weight.whole) :
    (r.CutsMeet points → r.splitPoints points = none) ∧
      (¬ r.CutsMeet points →
        ∃ parts, r.splitPoints points = some parts ∧ parts.map bounds = r.exactBounds points) := by
  have hne : points ≠ [] := by
    rintro rfl
    cases hsum
  have htotal : 0 + points.sum = Weight.whole := (Nat.zero_add _).trans hsum
  rw [← exists_empty_iff, ← boundsFrom_min]
  refine ⟨partsFrom_eq_none htotal, fun h => partsFrom_eq_some hne htotal fun b hb => ?_⟩
  by_contra hlt
  exact h ⟨b, hb, Nat.lt_of_not_le hlt⟩

end HashRange

end PoliteCrawl

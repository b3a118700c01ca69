import PoliteCrawl.Proofs.Keyspace.Words
import PoliteCrawl.Proofs.Number.Nearest

namespace PoliteCrawl

namespace Weight

open Binary64

variable {n : Nat}

/-- The weight of basis points is their share of the whole, as near as it can be written. -/
theorem exists_ofBasisPoints (h : n ≤ whole) : ∃ m e, ofBasisPoints n = finite false m e ∧
    |value (finite false m e) - n / 10000| ≤ 2 / 2 ^ 53 ∧ value (finite false m e) ≤ 1 := by
  have hn : (n : ℚ) ≤ 10000 := by exact_mod_cast h
  obtain ⟨m, e, hpoints, hvalue⟩ :=
    value_ofNat (n := n) (Nat.lt_of_le_of_lt h (by norm_num [whole]))
  obtain ⟨k, f, hwhole, hk⟩ := exists_wholeFloat
  have hk0 : k ≠ 0 := by
    rintro rfl
    norm_num at hk
  obtain ⟨num, den, hden, hdiv, hquotient⟩ := exists_div_eq (m := m) (e := e) (f := f) hk0
  rw [hvalue, hk] at hquotient
  rw [ofBasisPoints, hpoints, hwhole, hdiv]
  have hshare : (n : ℚ) / 10000 ≤ 1 := by linarith
  obtain ⟨j, g, heq, hnear⟩ :=
    rounds_ofRatio hden (lt_of_div_lt hden (by rw [hquotient]; linarith))
  rw [hquotient, heq] at hnear
  refine ⟨j, g, heq, hnear.trans (by linarith), ?_⟩
  -- The whole is a number itself; any smaller share is too far from it to be rounded to more.
  rcases Nat.lt_or_eq_of_le h with hlt | hall
  · have hless : (n : ℚ) + 1 ≤ 10000 := by exact_mod_cast hlt
    have hclose := (abs_le.mp hnear).2
    linarith
  · have hone : num = 1 * den := by
      have hcast : (num : ℚ) = den := by
        rw [hall, whole, Nat.cast_ofNat, div_self (by norm_num)] at hquotient
        exact (div_eq_one_iff_eq (Nat.cast_ne_zero.mpr hden.ne')).mp hquotient
      rw [Nat.one_mul]
      exact_mod_cast hcast
    obtain ⟨j', g', heq', hexact⟩ := value_ofRatio_natural hden hone (by norm_num)
    rw [heq] at heq'
    cases heq'
    rw [value_pos, hexact, Nat.cast_one]

/-- Scaled up again, a weight is next to its basis points. -/
theorem exists_scaled (h : n ≤ whole) : ∃ m e,
    (ofBasisPoints n).mul wholeFloat = finite false m e ∧
      |value (finite false m e) - n| ≤ 1 / 2 ^ 37 := by
  have hn : (n : ℚ) ≤ 10000 := by exact_mod_cast h
  obtain ⟨m, e, hweight, hnear, hone⟩ := exists_ofBasisPoints h
  obtain ⟨k, f, hwhole, hk⟩ := exists_wholeFloat
  rw [value_pos] at hnear hone
  obtain ⟨j, g, heq, hscaled⟩ := rounds_mul (m := m) (n := k) (e := e) (f := f) (by
    rw [hk]
    linarith)
  rw [hk, heq] at hscaled
  refine ⟨j, g, by rw [hweight, hwhole, heq], ?_⟩
  obtain ⟨hlow, hhigh⟩ := abs_le.mp hnear
  obtain ⟨hlow', hhigh'⟩ := abs_le.mp hscaled
  rw [abs_le]
  constructor <;> linarith

theorem exists_tolerance :
    ∃ m e, tolerance = finite false m e ∧ 1 / 2 ^ 21 ≤ value (finite false m e) := by
  have hden : 0 < 1000000 := by decide
  obtain ⟨m, e, heq, hnear⟩ := rounds_ofRatio hden (show 1 < 2 ^ 200 * 1000000 by norm_num)
  rw [heq] at hnear
  refine ⟨m, e, heq, ?_⟩
  have hlow := (abs_le.mp hnear).1
  norm_num at hlow ⊢
  linarith

/-- Basis points come back from the weight that stands for them. -/
theorem basisPoints?_ofBasisPoints (hpos : 0 < n) (h : n ≤ whole) :
    basisPoints? (ofBasisPoints n) = some n := by
  have hbits : n < 2 ^ 53 := Nat.lt_of_le_of_lt h (by norm_num [whole])
  have hn : (1 : ℚ) ≤ n := by exact_mod_cast hpos
  obtain ⟨m, e, hweight, hnear, hone⟩ := exists_ofBasisPoints h
  obtain ⟨k, f, hscaled, hclose⟩ := exists_scaled h
  obtain ⟨j, g, hpoints, hvalue⟩ := value_ofNat hbits
  obtain ⟨t, u, htolerance, hroom⟩ := exists_tolerance
  -- neither the quotient nor the product is exact, but both errors stay far below the tolerance
  have hnearest : (finite false k f).nearestNat = n := nearestNat_eq (hclose.trans_lt (by norm_num))
  have hround : (finite false k f).round = finite false j g := by
    rw [← hpoints, Binary64.round, hnearest]
    rfl
  have hpositive : Binary64.ofNat 0 < finite false m e := by
    rw [ofNat_lt_iff (by norm_num), Nat.cast_zero]
    have hlow := (abs_le.mp hnear).1
    linarith
  have hnotAbove : ¬ Binary64.ofNat 1 < finite false m e := by
    rw [ofNat_lt_iff (by norm_num), Nat.cast_one, not_lt]
    exact hone
  have hwithin : ¬ tolerance < ((finite false k f).sub (finite false j g)).abs := by
    have hdistance : |value (finite false k f) - value (finite false j g)| ≤ 1 / 2 ^ 37 := by
      rwa [value_pos j, hvalue]
    obtain ⟨d, v, hsub, hbound⟩ := rounds_abs_sub (hdistance.trans_lt (by norm_num))
    rw [htolerance, hsub, lt_iff_value, not_lt]
    rw [hsub] at hbound
    have hhigh := (abs_le.mp hbound).2
    linarith
  have hatLeastOne : ¬ finite false j g < Binary64.ofNat 1 := by
    rw [lt_ofNat_iff (by norm_num), value_pos, hvalue, Nat.cast_one, not_lt]
    exact hn
  have hfinite : (finite false m e).isFinite = true := rfl
  unfold basisPoints?
  rw [hweight] at hscaled ⊢
  rw [if_pos ⟨hfinite, hpositive, hnotAbove⟩, hscaled]
  dsimp only
  rw [hround, if_neg (not_or.mpr ⟨hwithin, hatLeastOne⟩)]
  exact congrArg some (nearestNat_eq (by rw [value_pos, hvalue]; norm_num))

/-- No basis points at all stand for no weight. -/
theorem basisPoints?_ofBasisPoints_zero : basisPoints? (ofBasisPoints 0) = none := by
  decide +kernel

theorem equalPoints_eq (hpos : 0 < n) :
    equalPoints n = List.replicate (n - 1) (whole / n) ++ [whole - (n - 1) * (whole / n)] := by
  obtain ⟨rest, rfl⟩ : ∃ rest, n = rest + 1 := ⟨n - 1, by omega⟩
  have hdiv := Nat.div_add_mod whole (rest + 1)
  rw [Nat.succ_mul, Nat.add_assoc] at hdiv
  rw [equalPoints, Nat.succ_eq_add_one, Nat.add_sub_cancel]
  congr 2
  exact Nat.eq_sub_of_add_eq' hdiv

theorem sum_equalPoints (hpos : 0 < n) : (equalPoints n).sum = whole := by
  have hle : (n - 1) * (whole / n) ≤ whole :=
    (Nat.mul_le_mul_right _ (Nat.sub_le n 1)).trans (Nat.mul_div_le whole n)
  rw [equalPoints_eq hpos, List.sum_append, List.sum_replicate_nat, List.sum_singleton]
  exact Nat.add_sub_cancel' hle

theorem length_equal (hpos : 0 < n) : (equal n).length = n := by
  rw [equal, List.length_map, equalPoints_eq hpos, List.length_append, List.length_replicate,
    List.length_singleton, Nat.sub_add_cancel hpos]

/-- Equal parts have basis points that are those of a weight. -/
theorem mem_equalPoints (hpos : 0 < n) (h : n ≤ whole) :
    ∀ k ∈ equalPoints n, 0 < k ∧ k ≤ whole := by
  have hshare : 0 < whole / n := Nat.div_pos h hpos
  intro k hk
  refine ⟨?_, sum_equalPoints hpos ▸ List.le_sum_of_mem hk⟩
  obtain ⟨rest, rfl⟩ := Nat.exists_eq_succ_of_ne_zero hpos.ne'
  rcases List.mem_append.mp hk with hk | hk
  · rw [(List.mem_replicate.mp hk).2]
    exact hshare
  · rw [List.mem_singleton.mp hk]
    omega

/-- The weights of equal parts give back the basis points that they were made of. -/
theorem map_basisPoints?_equal (hpos : 0 < n) (h : n ≤ whole) :
    (equal n).map basisPoints? = (equalPoints n).map some := by
  rw [equal, List.map_map]
  apply List.map_congr_left
  intro k hk
  obtain ⟨hk, hle⟩ := mem_equalPoints hpos h k hk
  exact basisPoints?_ofBasisPoints hk hle

/-- With more parts than the whole has basis points, nothing is left for the first. -/
theorem equal_of_whole_lt (h : whole < n) : ∃ rest, equal n = ofBasisPoints 0 :: rest := by
  have hwhole : whole = 10000 := rfl
  obtain ⟨rest, rfl⟩ : ∃ rest, n = rest + 2 := ⟨n - 2, by omega⟩
  rw [equal, equalPoints, Nat.div_eq_of_lt h, List.replicate_succ, List.cons_append, List.map_cons]
  exact ⟨_, rfl⟩

end Weight

namespace HashRange

variable {r : HashRange}

/-- As many hashes as the whole has basis points keep any two cuts apart, the start of the range
left aside. -/
theorem exactCut_lt (hwide : Weight.whole ≤ r.max.toNat - r.min.toNat + 1) {points points' : Nat}
    (hpos : 0 < points) (hlt : points < points') (hle : points' ≤ Weight.whole) :
    r.exactCut points < r.exactCut points' := by
  have hwhole : Weight.whole = 10000 := rfl
  refine Nat.lt_of_lt_of_le ?_ (exactCut_mono hlt)
  unfold exactCut
  generalize r.max.toNat - r.min.toNat = width at hwide
  apply Nat.add_lt_add_left
  rcases Nat.lt_or_ge width Weight.whole with hsmall | hlarge
  · -- With one hash fewer than the distance needs, each cut but the first and last is one short.
    obtain rfl : width = 9999 := by omega
    rw [hwhole]
    omega
  · rw [Nat.mul_succ, hwhole]
    omega

theorem not_cutsMeet (hwide : Weight.whole ≤ r.max.toNat - r.min.toNat + 1) {points : List Nat}
    (hpos : ∀ n ∈ points, 0 < n) (hsum : points.sum = Weight.whole) : ¬ r.CutsMeet points := by
  rintro ⟨k, htwo, hk, heq⟩
  obtain ⟨j, rfl⟩ : ∃ j, k = j + 1 + 1 := ⟨k - 2, by omega⟩
  have hbefore := List.sum_take_succ points j (by omega)
  have hlast := List.sum_take_succ points (j + 1) (by omega)
  have hfirst := hpos _ (List.getElem_mem (show j < points.length by omega))
  have hsecond := hpos _ (List.getElem_mem (show j + 1 < points.length by omega))
  have hle : (points.take (j + 1 + 1)).sum ≤ Weight.whole := by
    rw [← hsum]
    exact (List.take_sublist _ points).sum_le_sum fun _ _ => Nat.zero_le _
  have hstart : 0 < (points.take (j + 1)).sum := by omega
  have hlt : (points.take (j + 1)).sum < (points.take (j + 1 + 1)).sum := by omega
  exact (exactCut_lt hwide hstart hlt hle).ne' heq

theorem Tiles.length_le {start stop : Nat} {parts : List HashRange} (h : Tiles start parts stop) :
    start + parts.length ≤ stop := by
  induction parts generalizing start with
  | nil => exact Nat.le_of_eq h
  | cons part parts ih =>
    have hpart := KeyHash.le_def.mp part.min_le_max
    have hrest := ih h.2
    have hstart := h.1
    rw [List.length_cons]
    omega

/-- A split by weights that make up the whole gives a part for each, or finds the range too
narrow. -/
theorem split_of_accepted (r : HashRange) {weights : List Binary64} {points : List Nat}
    (h : weights.map Weight.basisPoints? = points.map some) (hsum : points.sum = Weight.whole) :
    (r.CutsMeet points → r.split weights = .error (.rangeTooNarrow weights.length)) ∧
      (¬ r.CutsMeet points → ∃ parts, r.split weights = .ok parts ∧
        parts.length = weights.length) := by
  have hlength := Weight.length_of_accepted h
  have hne : weights ≠ [] := by
    rintro rfl
    rw [List.eq_nil_of_length_eq_zero hlength.symm] at hsum
    cases hsum
  have hsplit := r.split_of_points hne (Weight.mapM_basisPoints_of_accepted h)
  rw [if_pos hsum] at hsplit
  obtain ⟨hmeet, hexact⟩ := splitPoints_exact (r := r) hsum
  refine ⟨fun hnarrow => ?_, fun hapart => ?_⟩
  · rw [hsplit, hmeet hnarrow, hlength]
    rfl
  · obtain ⟨parts, hparts, hbounds⟩ := hexact hapart
    refine ⟨parts, ?_, ?_⟩
    · rw [hsplit, hparts]
      rfl
    · have hcount := congrArg List.length hbounds
      rwa [List.length_map, exactBounds, List.length_map, List.length_range, ← hlength] at hcount

/-- Equal parts can be had in any number that the basis points allow and the range has room for, and
the range has room for all of them if it holds as many hashes as the whole has basis points. -/
theorem split_equal_parts (r : HashRange) :
    r.split (Weight.equal 0) = .error .noWeights ∧
      (∀ n, Weight.whole < n →
        r.split (Weight.equal n) = .error (.invalidWeight (Weight.ofBasisPoints 0))) ∧
      (∀ n, 1 ≤ n → n ≤ Weight.whole →
        (Weight.equal n).map Weight.basisPoints? = (Weight.equalPoints n).map some ∧
        Weight.equalPoints n = List.replicate (n - 1) (Weight.whole / n) ++
          [Weight.whole - (n - 1) * (Weight.whole / n)] ∧
        (Weight.equalPoints n).sum = Weight.whole ∧
        ((∃ parts, r.split (Weight.equal n) = .ok parts ∧ parts.length = n) ∨
          r.split (Weight.equal n) = .error (.rangeTooNarrow n)) ∧
        (r.max.toNat - r.min.toNat + 1 < n →
          r.split (Weight.equal n) = .error (.rangeTooNarrow n))) ∧
      (Weight.whole ≤ r.max.toNat - r.min.toNat + 1 →
        ∀ (weights : List Binary64) (points : List Nat),
        weights.map Weight.basisPoints? = points.map some → points.sum = Weight.whole →
        ∃ parts, r.split weights = .ok parts ∧ parts.length = weights.length) := by
  refine ⟨rfl, fun n h => ?_, fun n hpos h => ?_, fun hwide weights points h hsum => ?_⟩
  -- beyond ten thousand parts a weight has no basis points, and the first one is refused
  · obtain ⟨rest, hequal⟩ := Weight.equal_of_whole_lt h
    rw [hequal]
    refine r.split_of_rejected (List.cons_ne_nil _ _) ?_
    have hbefore : ∀ v ∈ ([] : List Binary64), Weight.basisPoints? v ≠ none := by simp
    exact Weight.mapM_basisPoints_of_rejected hbefore Weight.basisPoints?_ofBasisPoints_zero
  · have hpoints := Weight.map_basisPoints?_equal hpos h
    have hsum := Weight.sum_equalPoints hpos
    have haccepted := r.split_of_accepted hpoints hsum
    rw [Weight.length_equal hpos] at haccepted
    have hcases : (∃ parts, r.split (Weight.equal n) = .ok parts ∧ parts.length = n) ∨
        r.split (Weight.equal n) = .error (.rangeTooNarrow n) := by
      by_cases hmeet : r.CutsMeet (Weight.equalPoints n)
      · exact .inr (haccepted.1 hmeet)
      · exact .inl (haccepted.2 hmeet)
    refine ⟨hpoints, Weight.equalPoints_eq hpos, hsum, hcases, fun hfew => ?_⟩
    rcases hcases with ⟨parts, hparts, hcount⟩ | hnarrow
    · have hroom := (tiles_of_split hparts).length_le
      omega
    · exact hnarrow
  · exact (r.split_of_accepted h hsum).2 (not_cutsMeet hwide (Weight.pos_of_accepted h) hsum)

/-- Ten thousand hashes are enough for every part, and with one hash fewer there is a split that
finds no room. -/
theorem split_equal_parts_into_hashes :
    let enough : HashRange := ⟨⟨0, by decide⟩, ⟨9999, by decide⟩, by decide⟩
    let short : HashRange := ⟨⟨0, by decide⟩, ⟨9998, by decide⟩, by decide⟩
    (∃ parts, enough.split (Weight.equal 10000) = .ok parts ∧ parts.length = 10000) ∧
      short.split (Weight.equal 10000) = .error (.rangeTooNarrow 10000) ∧
      enough.split (Weight.equal 10001) = .error (.invalidWeight (Weight.ofBasisPoints 0)) := by
  intro enough short
  obtain ⟨-, hmany, hequal, hall⟩ := split_equal_parts enough
  obtain ⟨hpoints, -, hsum, -⟩ := hequal 10000 (by decide) (by decide)
  obtain ⟨parts, hparts, hcount⟩ := hall (by decide) _ _ hpoints hsum
  refine ⟨⟨parts, hparts, ?_⟩, ?_, hmany 10001 (by decide)⟩
  · rw [hcount, Weight.length_equal (by decide)]
  · obtain ⟨-, -, hshort, -⟩ := split_equal_parts short
    exact (hshort 10000 (by decide) (by decide)).2.2.2.2 (by decide)

end HashRange

end PoliteCrawl

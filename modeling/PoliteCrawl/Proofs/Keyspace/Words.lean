import PoliteCrawl.Proofs.Keyspace.Cuts

namespace PoliteCrawl

namespace HashRange

variable {r : HashRange}

def word? (n : Nat) : Option Nat := if n < 2 ^ 128 then some n else none

theorem word?_of_lt {n : Nat} (h : n < 2 ^ 128) : word? n = some n := if_pos h

theorem word?_of_le_max {n : Nat} (h : n ≤ r.max.toNat) : word? n = some n :=
  word?_of_lt (Nat.lt_of_le_of_lt h r.max.toNat_lt)

def sumInWords? (total : Nat) (points : List Nat) : Option Nat :=
  points.foldlM (fun total n => word? (total + n)) total

def differenceInWords? (m n : Nat) : Option Nat := if n ≤ m then some (m - n) else none

def scaleInWords? (value points : Nat) : Option Nat := do
  let wholes ← word? (value / Weight.whole * points)
  let rest ← word? (value % Weight.whole * points)
  word? (wholes + rest / Weight.whole)

/-- The parts from `start` on, or `none` if a step does not fit into words. -/
def partsInWords? (r : HashRange) (count width : Nat) :
    (start total : Nat) → List Nat → Option (Except KeyspaceError (List HashRange))
  | _, _, [] => some (.ok [])
  | start, total, n :: points => do
    let total ← word? (total + n)
    let stop ← if points = [] then some r.max.toNat
      else (scaleInWords? width total).bind fun share => word? (r.min.toNat + share)
    match ofNats? start stop with
    | none => some (.error (.rangeTooNarrow count))
    | some part =>
      if points = [] then some (.ok [part])
      else (word? (stop + 1)).bind fun next =>
        (partsInWords? r count width next total points).map (·.map (part :: ·))

/-- A split whose every step is one between words, or `none` if a result does not fit into them. -/
def splitInWords? (r : HashRange) (weights : List Binary64) :
    Option (Except KeyspaceError (List HashRange)) :=
  if weights = [] then some (.error .noWeights)
  else match weights.mapM Weight.basisPoints with
    | .error e => some (.error e)
    | .ok points => do
      let total ← sumInWords? 0 points
      if total ≠ Weight.whole then some (.error (.weightsDoNotSumToOne (Binary64.sum weights)))
      else do
        let width ← differenceInWords? r.max.toNat r.min.toNat
        r.partsInWords? points.length width r.min.toNat 0 points

theorem scaleInWords?_eq {value points : Nat} (hvalue : value < 2 ^ 128)
    (hpoints : points ≤ Weight.whole) :
    scaleInWords? value points = some (scale value points) := by
  have hwhole : Weight.whole = 10000 := rfl
  have hwholes : value / Weight.whole * points ≤ value :=
    (Nat.mul_le_mul_left _ hpoints).trans (Nat.div_mul_le_self _ _)
  have hrest : value % Weight.whole * points ≤ 10000 * 10000 :=
    Nat.mul_le_mul (Nat.le_of_lt (Nat.mod_lt _ (by decide))) hpoints
  have hscale : scale value points ≤ value := by
    rw [scale_eq]
    exact Nat.div_le_of_le_mul (by rw [Nat.mul_comm]; exact Nat.mul_le_mul_right _ hpoints)
  unfold scaleInWords?
  rw [word?_of_lt (by omega), word?_of_lt (n := value % Weight.whole * points) (by omega)]
  exact word?_of_lt (by rw [← scale]; omega)

theorem width_lt (r : HashRange) : r.width < 2 ^ 128 :=
  Nat.lt_of_le_of_lt (Nat.sub_le _ _) r.max.toNat_lt

theorem cutInWords?_eq {points : Nat} (h : points ≤ Weight.whole) :
    ((scaleInWords? r.width points).bind fun share => word? (r.min.toNat + share)) =
      some (r.exactCut points) := by
  have hcut : r.min.toNat + scale r.width points = r.exactCut points := cut_eq r points
  rw [scaleInWords?_eq r.width_lt h, Option.bind_some, hcut]
  exact word?_of_le_max (exactCut_le h)

/-- No cut before the whole is at the last hash of the keyspace, but in a range of that hash alone. -/
theorem exactCut_succ_lt {points : Nat} (hmin : r.min.toNat + 1 < 2 ^ 128)
    (h : points < Weight.whole) : r.exactCut points + 1 < 2 ^ 128 := by
  have hmax := r.max.toNat_lt
  rw [exactCut]
  rcases Nat.eq_zero_or_pos (r.max.toNat - r.min.toNat) with hzero | hpos
  · rw [hzero, Nat.zero_mul, Nat.zero_div]
    exact hmin
  · have hshare : (r.max.toNat - r.min.toNat) * points / Weight.whole <
        r.max.toNat - r.min.toNat := by
      apply Nat.div_lt_of_lt_mul
      rw [Nat.mul_comm]
      exact Nat.mul_lt_mul_of_pos_right h hpos
    omega

/-- In words, the parts are the same, if a next part does not have to begin behind the last hash. -/
theorem partsInWords?_eq {count start total : Nat} {points : List Nat} (hne : points ≠ [])
    (hpos : ∀ n ∈ points, 0 < n) (hsum : total + points.sum = Weight.whole)
    (hmin : 2 ≤ points.length → r.min.toNat + 1 < 2 ^ 128) :
    r.partsInWords? count r.width start total points =
      some ((partsFrom start (r.endsFrom total points) r.max.toNat).elim
        (.error (.rangeTooNarrow count)) .ok) := by
  -- on the parts to come; the last one ends at the range's end and has no cut to go beyond
  induction points generalizing start total with
  | nil => exact absurd rfl hne
  | cons n points ih =>
    rw [List.sum_cons, ← Nat.add_assoc] at hsum
    have hwhole : Weight.whole = 10000 := rfl
    rw [partsInWords?, word?_of_lt (by omega)]
    by_cases hlast : points = []
    · subst hlast
      rw [endsFrom_singleton, partsFrom]
      simp only [if_true, bind, Option.bind_some]
      cases ofNats? start r.max.toNat <;> rfl
    · have hrest : 0 < points.sum := by
        obtain ⟨m, hm⟩ := List.exists_mem_of_ne_nil points hlast
        exact Nat.lt_of_lt_of_le (hpos m (List.mem_cons_of_mem _ hm)) (List.le_sum_of_mem hm)
      have hmin' := hmin (by
        have hlength := List.length_pos_iff.mpr hlast
        rw [List.length_cons]
        omega)
      have hnext := exactCut_succ_lt (r := r) hmin' (show total + n < Weight.whole by omega)
      have hcut := cutInWords?_eq (r := r) (show total + n ≤ Weight.whole by omega)
      have hparts := @ih (r.exactCut (total + n) + 1) (total + n) hlast
        (fun m hm => hpos m (List.mem_cons_of_mem _ hm)) hsum fun _ => hmin'
      simp only [if_neg hlast, bind, Option.bind_some, hcut, word?_of_lt hnext, hparts]
      rw [endsFrom_cons hlast, partsFrom]
      cases ofNats? start (r.exactCut (total + n)) with
      | none => rfl
      | some part =>
        cases partsFrom (r.exactCut (total + n) + 1) (r.endsFrom (total + n) points)
          r.max.toNat <;> rfl

theorem exactCut_of_last (hmin : r.min.toNat + 1 = 2 ^ 128) (points : Nat) :
    r.exactCut points = r.min.toNat := by
  have hmax := r.max.toNat_lt
  have hzero : r.max.toNat - r.min.toNat = 0 := by omega
  rw [exactCut, hzero, Nat.zero_mul, Nat.zero_div, Nat.add_zero]

/-- Behind the last hash there is no word for the start of a second part. -/
theorem partsInWords?_of_last {count : Nat} {points : List Nat} (hseveral : 2 ≤ points.length)
    (hsum : points.sum = Weight.whole) (hmin : r.min.toNat + 1 = 2 ^ 128) :
    r.partsInWords? count r.width r.min.toNat 0 points = none := by
  match points, hseveral with
  | n :: m :: points, _ =>
    have hwhole : Weight.whole = 10000 := rfl
    have hn : n ≤ Weight.whole := by
      rw [List.sum_cons] at hsum
      omega
    have hcut := cutInWords?_eq (r := r) hn
    have hstop := exactCut_of_last hmin n
    have hpart : ∃ part, ofNats? r.min.toNat r.min.toNat = some part :=
      ⟨_, dif_pos ⟨Nat.le_refl _, r.min.toNat_lt⟩⟩
    have hnext : word? (r.min.toNat + 1) = none := if_neg (by omega)
    obtain ⟨part, hpart⟩ := hpart
    rw [partsInWords?, Nat.zero_add, word?_of_lt (by omega)]
    simp only [bind, Option.bind_some, if_neg (List.cons_ne_nil m points), hcut, hstop, hpart,
      hnext, Option.bind_none]

theorem sumInWords?_eq {total : Nat} {points : List Nat} (h : total + points.sum < 2 ^ 128) :
    sumInWords? total points = some (total + points.sum) := by
  induction points generalizing total with
  | nil => rfl
  | cons n points ih =>
    rw [List.sum_cons, ← Nat.add_assoc] at h ⊢
    have hword := word?_of_lt (n := total + n) (by omega)
    rw [← ih h, sumInWords?, List.foldlM_cons, hword]
    rfl

end HashRange

namespace Weight

theorem mapM_basisPoints_of_rejected {before after : List Binary64} {w : Binary64}
    (hbefore : ∀ v ∈ before, basisPoints? v ≠ none) (hw : basisPoints? w = none) :
    (before ++ w :: after).mapM basisPoints = .error (.invalidWeight w) := by
  induction before with
  | nil =>
    simp only [List.nil_append, List.mapM_cons, basisPoints, hw]
    rfl
  | cons v before ih =>
    obtain ⟨n, hn⟩ := Option.ne_none_iff_exists'.mp (hbefore v List.mem_cons_self)
    have hrest := ih fun v hv => hbefore v (List.mem_cons_of_mem _ hv)
    simp only [List.cons_append, List.mapM_cons, basisPoints, hn]
    rw [hrest]
    rfl

theorem mapM_basisPoints_of_accepted {weights : List Binary64} {points : List Nat}
    (h : weights.map basisPoints? = points.map some) : weights.mapM basisPoints = .ok points := by
  induction weights generalizing points with
  | nil =>
    cases points with
    | nil => rfl
    | cons => simp at h
  | cons w weights ih =>
    cases points with
    | nil => simp at h
    | cons n points =>
      simp only [List.map_cons, List.cons.injEq] at h
      simp only [List.mapM_cons, basisPoints, h.1]
      rw [ih h.2]
      rfl

theorem map_basisPoints?_of_mapM {weights : List Binary64} {points : List Nat}
    (h : weights.mapM basisPoints = .ok points) : weights.map basisPoints? = points.map some := by
  induction weights generalizing points with
  | nil =>
    cases h
    rfl
  | cons w weights ih =>
    rw [List.mapM_cons] at h
    obtain ⟨n, hn, h⟩ := bind_eq_ok.mp h
    obtain ⟨rest, hrest, h⟩ := bind_eq_ok.mp h
    cases h
    have hw : basisPoints? w = some n := by
      unfold basisPoints at hn
      split at hn
      · rename_i n' hn'
        cases hn
        exact hn'
      · cases hn
    rw [List.map_cons, List.map_cons, hw, ih hrest]

theorem sum_le {weights : List Binary64} {points : List Nat}
    (h : weights.map basisPoints? = points.map some) :
    points.sum ≤ weights.length * whole := by
  rw [length_of_accepted h]
  exact List.sum_le_card_nsmul points whole (le_whole_of_accepted h)

end Weight

namespace HashRange

theorem split_of_points (r : HashRange) {weights : List Binary64} {points : List Nat}
    (hne : weights ≠ []) (h : weights.mapM Weight.basisPoints = .ok points) :
    r.split weights = if points.sum = Weight.whole
      then (r.splitPoints points).elim (.error (.rangeTooNarrow points.length)) .ok
      else .error (.weightsDoNotSumToOne (Binary64.sum weights)) := by
  have hfold : points.foldl (· + ·) 0 = points.sum := List.sum_eq_foldl.symm
  unfold split
  rw [if_neg hne, h]
  by_cases hsum : points.sum = Weight.whole
  · simp only [bind, Except.bind, hfold, hsum, ne_eq, not_true_eq_false, if_false, if_true]
    cases r.splitPoints points <;> rfl
  · simp only [bind, Except.bind, hfold, hsum, ne_eq, not_false_eq_true, if_false, if_true]
    rfl

theorem split_of_rejected (r : HashRange) {weights : List Binary64} {e : KeyspaceError}
    (hne : weights ≠ []) (h : weights.mapM Weight.basisPoints = .error e) :
    r.split weights = .error e := by
  unfold split
  rw [if_neg hne, h]
  rfl

/-- No list is so long that its weights overflow the words. -/
theorem splitInWords?_of_points (r : HashRange) {weights : List Binary64} {points : List Nat}
    (hne : weights ≠ []) (hpoints : weights.mapM Weight.basisPoints = .ok points)
    (h : weights.length < 2 ^ 64) :
    r.splitInWords? weights = if points.sum = Weight.whole
      then r.partsInWords? points.length r.width r.min.toNat 0 points
      else some (.error (.weightsDoNotSumToOne (Binary64.sum weights))) := by
  have hsum : points.sum ≤ weights.length * 10000 :=
    Weight.sum_le (Weight.map_basisPoints?_of_mapM hpoints)
  have hfits : sumInWords? 0 points = some points.sum := by
    rw [sumInWords?_eq (by omega), Nat.zero_add]
  have hwidth : differenceInWords? r.max.toNat r.min.toNat = some r.width :=
    if_pos (KeyHash.le_def.mp r.min_le_max)
  unfold splitInWords?
  rw [if_neg hne, hpoints]
  dsimp only
  rw [hfits]
  simp only [bind, Option.bind_some, hwidth, ne_eq, ite_not]

/-- The one way for a step of a split to leave the words: a second part would have to begin behind
the last hash of the keyspace. -/
structure Overflows (r : HashRange) (weights : List Binary64) : Prop where
  last : r.min = .greatest
  several : 2 ≤ weights.length
  accepted : ∃ points : List Nat, weights.map Weight.basisPoints? = points.map some ∧
    points.sum = Weight.whole

theorem eq_greatest_of_toNat {a : KeyHash} (h : ¬ a.toNat + 1 < 2 ^ 128) : a = .greatest := by
  have hlt := a.toNat_lt
  apply KeyHash.ext
  change a.toNat = 2 ^ 128 - 1
  omega

/-- In words, a split comes to the same, unless it overflows. -/
theorem splitInWords?_eq (r : HashRange) {weights : List Binary64} (h : weights.length < 2 ^ 64)
    (hfits : ¬ r.Overflows weights) : r.splitInWords? weights = some (r.split weights) := by
  by_cases hne : weights = []
  · rw [hne]
    rfl
  · cases hpoints : weights.mapM Weight.basisPoints with
    | error e =>
      rw [r.split_of_rejected hne hpoints, splitInWords?, if_neg hne, hpoints]
    | ok points =>
      have haccepted := Weight.map_basisPoints?_of_mapM hpoints
      rw [r.splitInWords?_of_points hne hpoints h, r.split_of_points hne hpoints]
      by_cases htotal : points.sum = Weight.whole
      · rw [if_pos htotal, if_pos htotal]
        have hnonempty : points ≠ [] := by
          rintro rfl
          cases htotal
        refine partsInWords?_eq hnonempty (Weight.pos_of_accepted haccepted)
          ((Nat.zero_add _).trans htotal) fun hseveral => ?_
        rw [← Weight.length_of_accepted haccepted] at hseveral
        by_contra hmin
        exact hfits ⟨eq_greatest_of_toNat hmin, hseveral, points, haccepted, htotal⟩
      · rw [if_neg htotal, if_neg htotal]

/-- A split that overflows has found the range too narrow. -/
theorem split_of_overflows (r : HashRange) {weights : List Binary64}
    (h : weights.length < 2 ^ 64) (hover : r.Overflows weights) :
    r.splitInWords? weights = none ∧
      r.split weights = .error (.rangeTooNarrow weights.length) := by
  obtain ⟨hlast, hseveral, points, haccepted, htotal⟩ := hover
  have hne : weights ≠ [] := by
    rintro rfl
    exact absurd hseveral (by decide)
  have hpoints := Weight.mapM_basisPoints_of_accepted haccepted
  have hlength := Weight.length_of_accepted haccepted
  have hmin : r.min.toNat + 1 = 2 ^ 128 := by
    rw [hlast]
    rfl
  rw [r.splitInWords?_of_points hne hpoints h, r.split_of_points hne hpoints, if_pos htotal,
    if_pos htotal, hlength]
  rw [hlength] at hseveral
  refine ⟨partsInWords?_of_last hseveral htotal hmin, ?_⟩
  have hmeet : r.CutsMeet points := by
    refine ⟨2, Nat.le_refl 2, hseveral, ?_⟩
    rw [cutAfter, cutAfter, exactCut_of_last hmin, exactCut_of_last hmin]
  rw [(splitPoints_exact (r := r) htotal).1 hmeet]
  rfl

/-- The last hash of the keyspace alone, cut into halves: the first one ends at that hash, and what
follows it is no word any more. -/
theorem overflow_behind_last :
    let last : HashRange := ⟨.greatest, .greatest, by decide⟩
    let half : Binary64 := .ofRatio false 1 2
    [half, half].map Weight.basisPoints? = [some 5000, some 5000] ∧
      word? (last.cutAfter [5000, 5000] 1 + 1) = none ∧ last.splitInWords? [half, half] = none := by
  refine ⟨by decide +kernel, by decide +kernel, ?_⟩
  exact Option.isNone_iff_eq_none.mp (by decide +kernel)

/-- A split by weights that make up the whole cuts at the shares of the range's width, rounded
down, and fails just if two cuts fall together. Computed in words of 128 bits it comes to the same,
but for a second part behind the last hash of the keyspace: its start overflows, and the range is
too narrow. -/
theorem split_cuts_exactly (r : HashRange) (weights : List Binary64) :
    (weights = [] → r.split weights = .error .noWeights) ∧
      (∀ before w after, weights = before ++ w :: after →
        (∀ v ∈ before, Weight.basisPoints? v ≠ none) → Weight.basisPoints? w = none →
        r.split weights = .error (.invalidWeight w)) ∧
      (∀ points, weights ≠ [] → weights.map Weight.basisPoints? = points.map some →
        (points.sum ≠ Weight.whole →
          r.split weights = .error (.weightsDoNotSumToOne (Binary64.sum weights))) ∧
        (points.sum = Weight.whole →
          (r.split weights = .error (.rangeTooNarrow points.length) ↔ r.CutsMeet points) ∧
          (¬ r.CutsMeet points → ∃ parts, r.split weights = .ok parts ∧
            parts.map bounds = r.exactBounds points) ∧
          r.cutAfter points points.length = r.max.toNat ∧
          ∀ k, r.cutAfter points k ≠ r.cutAfter points (k + 1) →
            r.cutAfter points k + 1 < 2 ^ 128)) ∧
      (weights.length < 2 ^ 64 →
        (¬ r.Overflows weights → r.splitInWords? weights = some (r.split weights)) ∧
        (r.Overflows weights → r.splitInWords? weights = none ∧
          r.split weights = .error (.rangeTooNarrow weights.length))) := by
  refine ⟨?_, ?_, ?_, fun h => ⟨r.splitInWords?_eq h, r.split_of_overflows h⟩⟩
  · rintro rfl
    rfl
  · rintro before w after rfl hbefore hw
    exact r.split_of_rejected (by simp) (Weight.mapM_basisPoints_of_rejected hbefore hw)
  · intro points hne hpoints
    have hsplit := r.split_of_points hne (Weight.mapM_basisPoints_of_accepted hpoints)
    refine ⟨fun hsum => by rw [hsplit, if_neg hsum], fun hsum => ?_⟩
    rw [if_pos hsum] at hsplit
    obtain ⟨hmeet, hexact⟩ := splitPoints_exact (r := r) hsum
    refine ⟨⟨fun hnarrow => ?_, fun h => ?_⟩, fun h => ?_, cutAfter_length hsum, fun k hk => ?_⟩
    · by_contra h
      obtain ⟨parts, hparts, -⟩ := hexact h
      rw [hsplit, hparts] at hnarrow
      cases hnarrow
    · rw [hsplit, hmeet h]
      rfl
    · obtain ⟨parts, hparts, hbounds⟩ := hexact h
      refine ⟨parts, ?_, hbounds⟩
      rw [hsplit, hparts]
      rfl
    · have hmono := r.cutAfter_mono points k
      have hmax := cutAfter_le (r := r) hsum (k + 1)
      have hlast := r.max.toNat_lt
      omega

/-- The last two hashes of the keyspace in halves, and the last one alone, which has no halves. -/
theorem split_cuts_exactly_at_end :
    let pair : HashRange := ⟨⟨2 ^ 128 - 2, by decide⟩, .greatest, by decide⟩
    let last : HashRange := ⟨.greatest, .greatest, by decide⟩
    (∃ parts, pair.split (Weight.equal 2) = .ok parts ∧
        parts.map bounds = [(2 ^ 128 - 2, 2 ^ 128 - 2), (2 ^ 128 - 1, 2 ^ 128 - 1)] ∧
        pair.splitInWords? (Weight.equal 2) = some (.ok parts)) ∧
      last.split (Weight.equal 2) = .error (.rangeTooNarrow 2) ∧
      last.splitInWords? (Weight.equal 2) = none := by
  intro pair last
  have hne : Weight.equal 2 ≠ [] := by simp [Weight.equal, Weight.equalPoints]
  have hpoints : (Weight.equal 2).map Weight.basisPoints? = [5000, 5000].map some := by
    decide +kernel
  have hsum : [5000, 5000].sum = Weight.whole := rfl
  have hpair : ¬ pair.CutsMeet [5000, 5000] := by
    rintro ⟨k, htwo, hk, heq⟩
    obtain rfl : k = 2 := Nat.le_antisymm hk htwo
    exact absurd heq (by decide +kernel)
  have hlast : last.CutsMeet [5000, 5000] := ⟨2, Nat.le_refl 2, Nat.le_refl 2, by decide +kernel⟩
  have hfits : ¬ pair.Overflows (Weight.equal 2) := fun hover =>
    absurd (congrArg KeyHash.toNat hover.last) (by decide)
  have hover : last.Overflows (Weight.equal 2) := ⟨rfl, Nat.le_refl 2, _, hpoints, hsum⟩
  obtain ⟨parts, hparts, hbounds⟩ :=
    (((split_cuts_exactly pair _).2.2.1 _ hne hpoints).2 hsum).2.1 hpair
  have hnarrow := (((split_cuts_exactly last _).2.2.1 _ hne hpoints).2 hsum).1.mpr hlast
  have hwords := ((split_cuts_exactly pair _).2.2.2 (by decide)).1 hfits
  have hnone := (((split_cuts_exactly last _).2.2.2 (by decide)).2 hover).1
  rw [hparts] at hwords
  exact ⟨⟨parts, hparts, hbounds.trans (by decide +kernel), hwords⟩, hnarrow, hnone⟩

end HashRange

end PoliteCrawl

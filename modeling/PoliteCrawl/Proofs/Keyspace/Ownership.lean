import Mathlib.Data.List.Chain
import PoliteCrawl.Keyspace.Split
import PoliteCrawl.Proofs.Except
import PoliteCrawl.Proofs.Keyspace.ByteOrder
import PoliteCrawl.Proofs.WorkItem.Target

namespace PoliteCrawl

namespace HashRange

/-- Parts that follow each other without a gap, from `start` up to but not including `stop`. -/
def Tiles : (start : Nat) → List HashRange → (stop : Nat) → Prop
  | start, [], stop => start = stop
  | start, part :: parts, stop => part.min.toNat = start ∧ Tiles (part.max.toNat + 1) parts stop

theorem Tiles.le {start stop : Nat} {parts : List HashRange} (h : Tiles start parts stop) :
    start ≤ stop := by
  induction parts generalizing start with
  | nil => exact Nat.le_of_eq h
  | cons part parts ih =>
    have hpart := KeyHash.le_def.mp part.min_le_max
    have hrest := ih h.2
    have hstart := h.1
    omega

theorem tiles_append {start stop : Nat} {before after : List HashRange} :
    Tiles start (before ++ after) stop ↔
      ∃ mid, Tiles start before mid ∧ Tiles mid after stop := by
  induction before generalizing start with
  | nil => simp [Tiles]
  | cons part before ih => simp [Tiles, ih, and_assoc]

theorem tiles_singleton (r : HashRange) : Tiles r.min.toNat [r] (r.max.toNat + 1) := ⟨rfl, rfl⟩

theorem Tiles.ne_nil {start stop : Nat} {parts : List HashRange} (h : Tiles start parts stop)
    (hlt : start < stop) : parts ≠ [] := by
  rintro rfl
  exact Nat.ne_of_lt hlt h

theorem Tiles.head?_min {start stop : Nat} {parts : List HashRange} (h : Tiles start parts stop) :
    ∀ part ∈ parts.head?, part.min.toNat = start := by
  cases parts with
  | nil => simp
  | cons part parts => simpa using h.1

theorem Tiles.getLast?_max {start stop : Nat} {parts : List HashRange}
    (h : Tiles start parts stop) : ∀ part ∈ parts.getLast?, part.max.toNat + 1 = stop := by
  induction parts generalizing start with
  | nil => simp
  | cons part parts ih =>
    cases parts with
    | nil => simpa [Tiles] using h.2
    | cons next parts => simpa using ih h.2

theorem Tiles.isChain {start stop : Nat} {parts : List HashRange} (h : Tiles start parts stop) :
    parts.IsChain fun p q => q.min.toNat = p.max.toNat + 1 := by
  induction parts generalizing start with
  | nil => exact .nil
  | cons part parts ih =>
    refine List.isChain_cons.mpr ⟨?_, ih h.2⟩
    exact h.2.head?_min

/-- A hash lies in one of the parts if it is within their bounds, and in none otherwise. -/
theorem Tiles.countP_contains {start stop : Nat} {parts : List HashRange}
    (h : Tiles start parts stop) (a : KeyHash) :
    parts.countP (·.contains a) = if start ≤ a.toNat ∧ a.toNat < stop then 1 else 0 := by
  induction parts generalizing start with
  | nil =>
    have heq : start = stop := h
    simp only [List.countP_nil]
    rw [if_neg (by omega)]
  | cons part parts ih =>
    have hmin := h.1
    have hle := h.2.le
    have hpart := KeyHash.le_def.mp part.min_le_max
    rw [List.countP_cons, ih h.2]
    simp only [contains_iff, KeyHash.le_def]
    split_ifs <;> omega

theorem ofNats?_eq_some {min max : Nat} {part : HashRange} (h : ofNats? min max = some part) :
    part.min.toNat = min ∧ part.max.toNat = max := by
  unfold ofNats? at h
  split at h
  · cases h
    exact ⟨rfl, rfl⟩
  · cases h

theorem tiles_of_partsFrom {start last : Nat} {ends : List Nat} {parts : List HashRange}
    (h : partsFrom start ends last = some parts) : Tiles start parts (last + 1) := by
  induction ends generalizing start parts with
  | nil =>
    obtain ⟨part, hpart, rfl⟩ := Option.map_eq_some_iff.mp h
    obtain ⟨hmin, hmax⟩ := ofNats?_eq_some hpart
    exact ⟨hmin, congrArg (· + 1) hmax⟩
  | cons e ends ih =>
    unfold partsFrom at h
    split at h
    · rename_i part parts' hpart hparts
      cases h
      obtain ⟨hmin, hmax⟩ := ofNats?_eq_some hpart
      exact ⟨hmin, hmax ▸ ih hparts⟩
    · cases h

/-- A split that is accepted comes from cuts by basis points. -/
theorem splitPoints_of_split {r : HashRange} {weights : List Binary64} {parts : List HashRange}
    (h : r.split weights = .ok parts) :
    ∃ points, weights.mapM Weight.basisPoints = .ok points ∧ points.foldl (· + ·) 0 = Weight.whole ∧
      r.splitPoints points = some parts := by
  unfold split at h
  dsimp only at h
  split at h
  · obtain ⟨_, h, -⟩ := bind_eq_ok.mp h
    exact absurd h throw_ne_ok
  · obtain ⟨points, hpoints, h⟩ := bind_eq_ok.mp h
    refine ⟨points, hpoints, ?_⟩
    split at h
    · obtain ⟨_, h, -⟩ := bind_eq_ok.mp h
      exact absurd h throw_ne_ok
    · rename_i hsum
      refine ⟨not_not.mp hsum, ?_⟩
      split at h
      · rename_i parts' hparts
        cases h
        exact hparts
      · exact absurd h throw_ne_ok

theorem tiles_of_split {r : HashRange} {weights : List Binary64} {parts : List HashRange}
    (h : r.split weights = .ok parts) : Tiles r.min.toNat parts (r.max.toNat + 1) := by
  obtain ⟨points, -, -, hparts⟩ := splitPoints_of_split h
  exact tiles_of_partsFrom hparts

/-- A part goes to new owners: where it stood, there are now the parts of a split of its own. -/
inductive Reassigns : List HashRange → List HashRange → Prop where
  | intro {before after parts : List HashRange} {part : HashRange} {weights : List Binary64}
    (h : part.split weights = .ok parts) :
    Reassigns (before ++ part :: after) (before ++ parts ++ after)

inductive Assignment (r : HashRange) : List HashRange → Prop where
  | whole : Assignment r [r]
  | reassign {parts parts' : List HashRange} : Assignment r parts → Reassigns parts parts' →
    Assignment r parts'

theorem Reassigns.tiles {start stop : Nat} {parts parts' : List HashRange}
    (h : Reassigns parts parts') (ht : Tiles start parts stop) : Tiles start parts' stop := by
  obtain @⟨before, after, new, part, weights, hsplit⟩ := h
  -- The new parts take the place of the old one between what stood around it.
  obtain ⟨mid, hbefore, hpart, hafter⟩ := tiles_append.mp ht
  have hnew := tiles_of_split hsplit
  rw [hpart] at hnew
  rw [List.append_assoc]
  exact tiles_append.mpr ⟨mid, hbefore, tiles_append.mpr ⟨_, hnew, hafter⟩⟩

theorem Assignment.tiles {r : HashRange} {parts : List HashRange} (h : Assignment r parts) :
    Tiles r.min.toNat parts (r.max.toNat + 1) := by
  induction h with
  | whole => exact tiles_singleton r
  | reassign _ hstep ih => exact hstep.tiles ih

/-- Every hash of the range has exactly one owner, and no other hash has one. -/
theorem Assignment.countP_contains {r : HashRange} {parts : List HashRange}
    (h : Assignment r parts) (a : KeyHash) :
    parts.countP (·.contains a) = if r.contains a then 1 else 0 := by
  rw [h.tiles.countP_contains a]
  simp only [contains_iff, KeyHash.le_def, Nat.lt_succ_iff]

end HashRange

theorem KeyHash.full_contains (a : KeyHash) : HashRange.full.contains a = true :=
  HashRange.contains_iff.mpr ⟨Nat.zero_le _, a.le_greatest⟩

namespace HashRange

/-- Reassigning parts never changes who owns what outside of them: the parts go on covering the
range exactly, so that of the nodes that take one part of the keyspace each, exactly one takes an
item that can be fetched. The owner does not depend on the case of a host's letters. -/
theorem owner_unique {r : HashRange} {parts : List HashRange} (h : Assignment r parts) :
    parts ≠ [] ∧ (∀ part ∈ parts, part.min ≤ part.max) ∧
      parts.head?.map (·.min) = some r.min ∧ parts.getLast?.map (·.max) = some r.max ∧
      parts.IsChain (fun p q => q.min.toNat = p.max.toNat + 1) ∧
      (∀ a, parts.countP (·.contains a) = if r.contains a then 1 else 0) ∧
      (∀ part ∈ parts, ∀ a, part.contains a = true ↔
        part.min.bytes ≤ a.bytes ∧ a.bytes ≤ part.max.bytes) ∧
      (r = full → ∀ item : WorkItem, item.issue? = none →
        parts.countP (fun part => item.belongsTo (some part)) = 1) ∧
      ∀ item item' : WorkItem, ∀ host host', item.hostKey? = some host →
        item'.hostKey? = some host' → Text.lowerAscii host = Text.lowerAscii host' →
        ∀ part ∈ parts, item.belongsTo (some part) = item'.belongsTo (some part) := by
  have ht := h.tiles
  have hle := KeyHash.le_def.mp r.min_le_max
  have hne : parts ≠ [] := ht.ne_nil (Nat.lt_succ_of_le hle)
  refine ⟨hne, fun part _ => part.min_le_max, ?_, ?_, ht.isChain, h.countP_contains,
    fun part _ a => contains_iff_bytes, ?_, ?_⟩
  · obtain ⟨part, hpart⟩ := Option.isSome_iff_exists.mp (List.isSome_head?.mpr hne)
    rw [hpart, Option.map_some, KeyHash.ext (ht.head?_min part hpart)]
  · have hpart := List.getLast?_eq_some_getLast hne
    generalize parts.getLast hne = part at hpart
    have hmax : part.max.toNat = r.max.toNat := Nat.succ.inj (ht.getLast?_max part hpart)
    rw [hpart, Option.map_some, KeyHash.ext hmax]
  -- an item without an issue has a host, whose point is somewhere in the whole keyspace
  · rintro rfl item hissue
    obtain ⟨target, host, -, hhost⟩ := WorkItem.exists_target_of_issue?_eq_none hissue
    have hcount := h.countP_contains (.ofHost host)
    rw [if_pos (KeyHash.full_contains _)] at hcount
    rw [← hcount]
    exact List.countP_congr fun part _ => by rw [WorkItem.belongsTo_some hhost]
  · intro item item' host host' hhost hhost' heq part _
    rw [WorkItem.belongsTo_some hhost, WorkItem.belongsTo_some hhost', KeyHash.ofHost,
      KeyHash.ofHost, heq]

/-- The keyspace in halves, and the second half split again, one to three. -/
theorem owner_unique_of_two_splits : ∃ parts, Assignment full parts ∧
    parts.map (·.min.toNat) = [0, 2 ^ 127, 2 ^ 127 + 2 ^ 125] ∧
    ∀ a, parts.countP (·.contains a) = 1 := by
  let lower : HashRange := ⟨.least, ⟨2 ^ 127 - 1, by decide⟩, by decide⟩
  let upper : HashRange := ⟨⟨2 ^ 127, by decide⟩, .greatest, by decide⟩
  let middle : HashRange := ⟨upper.min, ⟨2 ^ 127 + 2 ^ 125 - 1, by decide⟩, by decide⟩
  let top : HashRange := ⟨⟨2 ^ 127 + 2 ^ 125, by decide⟩, .greatest, by decide⟩
  have hfull : full.split (Weight.equal 2) = .ok [lower, upper] := by decide +kernel
  have hupper : upper.split [Weight.ofBasisPoints 2500, Weight.ofBasisPoints 7500] =
      .ok [middle, top] := by
    decide +kernel
  have h : Assignment full [lower, middle, top] :=
    .reassign (.reassign .whole (@Reassigns.intro [] [] _ _ _ hfull))
      (@Reassigns.intro [lower] [] _ _ _ hupper)
  refine ⟨_, h, rfl, fun a => ?_⟩
  rw [(owner_unique h).2.2.2.2.2.1 a, if_pos (KeyHash.full_contains a)]

end HashRange

end PoliteCrawl

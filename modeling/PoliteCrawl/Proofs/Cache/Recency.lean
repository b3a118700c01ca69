import Mathlib.Data.List.Perm.Basic
import PoliteCrawl.Cache.Recency

namespace PoliteCrawl

namespace RecencyIndex

/-- Entries with distinct numbers, in the order of these, are the entries of a map that holds
them. -/
theorem toList_eq_of_sorted {V : Type} {m : Std.TreeMap Nat V} {entries : List (Nat × V)}
    (hsorted : entries.Pairwise (·.1 < ·.1)) (hmem : ∀ n v, (n, v) ∈ entries ↔ m[n]? = some v) :
    m.toList = entries := by
  have hsorted' : m.toList.Pairwise (·.1 < ·.1) :=
    m.ordered_keys_toList.imp fun hlt => Nat.compare_eq_lt.mp hlt
  have hnodup : ∀ l : List (Nat × V), l.Pairwise (·.1 < ·.1) → l.Nodup := by
    intro l hl
    refine hl.imp fun {a b} hlt heq => ?_
    rw [heq] at hlt
    exact Nat.lt_irrefl _ hlt
  refine List.Perm.eq_of_pairwise (fun a b _ _ hab hba => absurd hab (by omega)) hsorted' hsorted ?_
  refine (List.perm_ext_iff_of_nodup (hnodup _ hsorted') (hnodup _ hsorted)).mpr ?_
  rintro ⟨n, v⟩
  rw [hmem, Std.TreeMap.mem_toList_iff_getElem?_eq_some]

theorem values_eq {V : Type} (m : Std.TreeMap Nat V) : m.values = m.toList.map (·.2) := by
  show m.inner.inner.values = (Std.DTreeMap.Internal.Impl.Const.toList m.inner.inner).map (·.2)
  rw [Std.DTreeMap.Internal.Impl.values_eq_map_snd,
    Std.DTreeMap.Internal.Impl.Const.toList_eq_toListModel_map, List.map_map]
  rfl

theorem minEntry?_eq {V : Type} (m : Std.TreeMap Nat V) : m.minEntry? = m.toList.head? := by
  have hmin : ∀ t : Std.DTreeMap.Internal.Impl Nat fun _ => V,
      Std.DTreeMap.Internal.Impl.Const.minEntry? t =
        t.toListModel.head?.map fun e => (e.1, e.2) := by
    intro t
    induction t with
    | leaf => simp [Std.DTreeMap.Internal.Impl.Const.minEntry?]
    | inner size n v l r ihl =>
      -- The least entry is the leftmost one.
      cases l with
      | leaf => simp [Std.DTreeMap.Internal.Impl.Const.minEntry?]
      | inner =>
        rw [Std.DTreeMap.Internal.Impl.Const.minEntry?, ihl]
        simp
  show Std.DTreeMap.Internal.Impl.Const.minEntry? m.inner.inner =
    (Std.DTreeMap.Internal.Impl.Const.toList m.inner.inner).head?
  rw [hmin, Std.DTreeMap.Internal.Impl.Const.toList_eq_toListModel_map, List.head?_map]

theorem beq_eq_false {K : Type} [BEq K] [EquivBEq K] {a b c : K} (hac : (a == c) = true)
    (hbc : ¬ (b == c) = true) : (a == b) = false := by
  by_contra hab
  exact hbc (BEq.trans (BEq.symm (by simpa using hab)) hac)

variable {K : Type} [BEq K] [Hashable K] {r : RecencyIndex K} {k : K}

/-- The two maps are inverse to each other, up to the equality of keys, and all ticks are past. -/
structure Coherent (r : RecencyIndex K) : Prop where
  inverse : ∀ (k : K) (tick : Nat), r.tickOf[k]? = some tick ↔
    ∃ k', r.keyAt[tick]? = some k' ∧ (k' == k) = true
  past : ∀ (tick : Nat) (k : K), r.keyAt[tick]? = some k → tick < r.nextTick

theorem coherent_empty : ({} : RecencyIndex K).Coherent where
  inverse k tick := by simp
  past tick k h := by simp at h

theorem toList_eq (r : RecencyIndex K) : r.toList = r.keyAt.toList.map (·.2) := values_eq _

def keyAtWithout (r : RecencyIndex K) (k : K) : Std.TreeMap Nat K :=
  match r.tickOf[k]? with
  | some tick => r.keyAt.erase tick
  | none => r.keyAt

theorem keyAt_remove (r : RecencyIndex K) (k : K) : (r.remove k).2.keyAt = r.keyAtWithout k := by
  unfold remove keyAtWithout
  cases r.tickOf[k]? <;> rfl

@[simp] theorem nextTick_remove (r : RecencyIndex K) (k : K) :
    (r.remove k).2.nextTick = r.nextTick := by
  unfold remove
  cases r.tickOf[k]? <;> rfl

@[simp] theorem nextTick_pop (r : RecencyIndex K) : r.pop.2.nextTick = r.nextTick := by
  unfold pop
  split <;> rfl

theorem touch_eq (r : RecencyIndex K) (k : K) : r.touch k =
    { tickOf := r.tickOf.insert k r.nextTick
      keyAt := (r.keyAtWithout k).insert r.nextTick k
      nextTick := r.nextTick + 1 } := rfl

theorem pop_of_nil (h : r.toList = []) : r.pop = (none, r) := by
  rw [toList_eq, List.map_eq_nil_iff] at h
  unfold pop
  rw [minEntry?_eq, h]
  rfl

namespace Coherent

theorem getElem?_keyAtWithout (h : r.Coherent) (k : K) {tick : Nat} {k' : K} :
    (r.keyAtWithout k)[tick]? = some k' ↔ r.keyAt[tick]? = some k' ∧ (k' == k) = false := by
  unfold keyAtWithout
  cases hold : r.tickOf[k]? with
  | none =>
    refine ⟨fun hget => ⟨hget, ?_⟩, fun hget => hget.1⟩
    by_contra hne
    have htick := (h.inverse k tick).mpr ⟨k', hget, by simpa using hne⟩
    simp [hold] at htick
  | some old =>
    obtain ⟨k'', hget'', heq⟩ := (h.inverse k old).mp hold
    rw [Std.TreeMap.getElem?_erase]
    by_cases htick : old = tick
    · subst htick
      simp only [Nat.compare_eq_eq, if_true, reduceCtorEq, false_iff, not_and]
      intro hget
      obtain rfl : k'' = k' := Option.some.inj (hget''.symm.trans hget)
      simp [heq]
    · rw [if_neg (by simpa using htick)]
      refine ⟨fun hget => ⟨hget, ?_⟩, fun hget => hget.1⟩
      -- A key has one tick only.
      by_contra hne
      have hother := (h.inverse k tick).mpr ⟨k', hget, by simpa using hne⟩
      rw [hold] at hother
      exact htick (Option.some.inj hother)

theorem toList_keyAtWithout (h : r.Coherent) (k : K) :
    (r.keyAtWithout k).toList = r.keyAt.toList.filter fun e => !(e.2 == k) := by
  apply toList_eq_of_sorted
  · exact (r.keyAt.ordered_keys_toList.imp fun hlt => Nat.compare_eq_lt.mp hlt).filter _
  · intro tick k'
    rw [List.mem_filter, Std.TreeMap.mem_toList_iff_getElem?_eq_some, h.getElem?_keyAtWithout]
    simp

/-- No tick in use is as late as the next one. -/
theorem lt_of_mem (h : r.Coherent) {e : Nat × K} (he : e ∈ r.keyAt.toList) : e.1 < r.nextTick :=
  h.past _ _ (Std.TreeMap.mem_toList_iff_getElem?_eq_some.mp he)

theorem toList_touch (h : r.Coherent) (k : K) :
    (r.touch k).toList = r.toList.filter (fun k' => !(k' == k)) ++ [k] := by
  have hentries : (r.touch k).keyAt.toList =
      r.keyAt.toList.filter (fun e => !(e.2 == k)) ++ [(r.nextTick, k)] := by
    rw [touch_eq, ← h.toList_keyAtWithout]
    apply toList_eq_of_sorted
    · refine List.pairwise_append.mpr ⟨?_, List.pairwise_singleton _ _, ?_⟩
      · exact (r.keyAtWithout k).ordered_keys_toList.imp fun hlt => Nat.compare_eq_lt.mp hlt
      · intro e he e' he'
        rw [List.mem_singleton.mp he']
        rw [h.toList_keyAtWithout] at he
        exact h.lt_of_mem (List.mem_filter.mp he).1
    · intro tick k'
      rw [Std.TreeMap.getElem?_insert, List.mem_append, List.mem_singleton,
        Std.TreeMap.mem_toList_iff_getElem?_eq_some]
      by_cases htick : r.nextTick = tick
      · -- The next tick has not been in use.
        have hnone : (r.keyAtWithout k)[tick]? ≠ some k' := fun hget =>
          absurd (h.past _ _ ((h.getElem?_keyAtWithout k).mp hget).1) (by omega)
        simp [htick, hnone, eq_comm]
      · simp [htick, Ne.symm htick]
  rw [toList_eq, toList_eq, hentries, List.map_append, List.filter_map]
  rfl

theorem toList_remove (h : r.Coherent) (k : K) :
    (r.remove k).2.toList = r.toList.filter fun k' => !(k' == k) := by
  rw [toList_eq, toList_eq, keyAt_remove, h.toList_keyAtWithout, List.filter_map]
  rfl

/-- What is forgotten had been in use if it is told so. -/
theorem remove_fst (h : r.Coherent) (k : K) : (r.remove k).1 = r.toList.any (· == k) := by
  rw [toList_eq, List.any_map, Bool.eq_iff_iff, List.any_eq_true]
  have hfst : (r.remove k).1 = true ↔ ∃ tick, r.tickOf[k]? = some tick := by
    unfold remove
    split <;> simp_all
  rw [hfst]
  constructor
  · rintro ⟨tick, htick⟩
    obtain ⟨k', hget, heq⟩ := (h.inverse k tick).mp htick
    exact ⟨(tick, k'), Std.TreeMap.mem_toList_iff_getElem?_eq_some.mpr hget, heq⟩
  · rintro ⟨⟨tick, k'⟩, hmem, heq⟩
    exact ⟨tick, (h.inverse k tick).mpr
      ⟨k', Std.TreeMap.mem_toList_iff_getElem?_eq_some.mp hmem, heq⟩⟩

variable [EquivBEq K]

/-- No key is listed twice. -/
theorem distinct (h : r.Coherent) : r.toList.Pairwise fun a b => (a == b) = false := by
  rw [toList_eq, List.pairwise_map]
  refine (r.keyAt.ordered_keys_toList.imp_of_mem fun {a b} ha hb hlt => ?_)
  by_contra hne
  have heq : (a.2 == b.2) = true := by simpa using hne
  have htick := (h.inverse b.2 a.1).mpr
    ⟨a.2, Std.TreeMap.mem_toList_iff_getElem?_eq_some.mp ha, heq⟩
  have htick' := (h.inverse b.2 b.1).mpr
    ⟨b.2, Std.TreeMap.mem_toList_iff_getElem?_eq_some.mp hb, BEq.rfl⟩
  have hab : a.1 = b.1 := Option.some.inj (htick.symm.trans htick')
  rw [hab] at hlt
  simp at hlt

/-- To take out the key whose last use is longest ago is to remove the first one. -/
theorem pop_of_cons (h : r.Coherent) {rest : List K} (hlist : r.toList = k :: rest) :
    r.pop.1 = some k ∧ r.pop.2 = (r.remove k).2 ∧ r.pop.2.toList = rest := by
  obtain ⟨⟨tick, k'⟩, entries, hentries, hk', -⟩ := List.map_eq_cons_iff.mp (toList_eq r ▸ hlist)
  obtain rfl : k' = k := hk'
  have hget : r.keyAt[tick]? = some k' := by
    rw [← Std.TreeMap.mem_toList_iff_getElem?_eq_some, hentries]
    exact List.mem_cons_self
  have htick : r.tickOf[k']? = some tick := (h.inverse k' tick).mpr ⟨k', hget, BEq.rfl⟩
  have hpop : r.pop = (some k', (r.remove k').2) := by
    unfold pop RecencyIndex.remove
    rw [minEntry?_eq, hentries, htick]
    rfl
  rw [hpop]
  refine ⟨rfl, rfl, ?_⟩
  show (r.remove k').2.toList = rest
  have hdistinct := h.distinct
  rw [hlist, List.pairwise_cons] at hdistinct
  rw [h.toList_remove, hlist, List.filter_cons_of_neg (by simp)]
  refine List.filter_eq_self.mpr fun k'' hmem => ?_
  rw [BEq.comm, hdistinct.1 k'' hmem]
  rfl

variable [LawfulHashable K]

theorem touch (h : r.Coherent) (k : K) : (r.touch k).Coherent := by
  rw [touch_eq]
  refine ⟨fun k' tick => ?_, fun tick k' hget => ?_⟩
  · rw [Std.HashMap.getElem?_insert, Std.TreeMap.getElem?_insert]
    by_cases hk : (k == k') = true
    · rw [if_pos hk]
      by_cases htick : r.nextTick = tick
      · simp [htick, hk]
      · -- No older tick is left to the key.
        simp only [Option.some.injEq, htick, Nat.compare_eq_eq, if_false, false_iff, not_exists,
          not_and, h.getElem?_keyAtWithout]
        rintro k'' ⟨-, hne⟩ heq
        rw [BEq.trans heq (BEq.symm hk)] at hne
        cases hne
    · rw [if_neg hk, h.inverse]
      by_cases htick : r.nextTick = tick
      · subst htick
        have hfresh : ∀ k'', r.keyAt[r.nextTick]? ≠ some k'' := fun k'' hget =>
          Nat.lt_irrefl _ (h.past _ _ hget)
        simp [hfresh, hk]
      · simp only [htick, Nat.compare_eq_eq, if_false, h.getElem?_keyAtWithout]
        exact exists_congr fun k'' => ⟨fun ⟨hget, heq⟩ => ⟨⟨hget, beq_eq_false heq hk⟩, heq⟩,
          fun ⟨⟨hget, _⟩, heq⟩ => ⟨hget, heq⟩⟩
  · rw [Std.TreeMap.getElem?_insert] at hget
    by_cases htick : r.nextTick = tick
    · exact htick ▸ Nat.lt_succ_self _
    · rw [if_neg (by simpa using htick), h.getElem?_keyAtWithout] at hget
      exact Nat.lt_succ_of_lt (h.past _ _ hget.1)

theorem remove (h : r.Coherent) (k : K) : (r.remove k).2.Coherent := by
  have htickOf : ∀ k', (r.remove k).2.tickOf[k']? =
      if (k == k') = true then none else r.tickOf[k']? := by
    intro k'
    unfold RecencyIndex.remove
    split
    · rw [Std.HashMap.getElem?_erase]
    · rename_i hnone
      split
      · rename_i hk
        rw [← Std.HashMap.getElem?_congr hk, hnone]
      · rfl
  refine ⟨fun k' tick => ?_, fun tick k' hget => ?_⟩
  · simp only [htickOf, keyAt_remove, h.getElem?_keyAtWithout]
    by_cases hk : (k == k') = true
    · simp only [hk, if_true, reduceCtorEq, false_iff, not_exists, not_and]
      rintro k'' ⟨-, hne⟩ heq
      rw [BEq.trans heq (BEq.symm hk)] at hne
      cases hne
    · rw [if_neg hk, h.inverse]
      exact exists_congr fun k'' => ⟨fun ⟨hget, heq⟩ => ⟨⟨hget, beq_eq_false heq hk⟩, heq⟩,
        fun ⟨⟨hget, _⟩, heq⟩ => ⟨hget, heq⟩⟩
  · rw [keyAt_remove, h.getElem?_keyAtWithout] at hget
    rw [nextTick_remove]
    exact h.past _ _ hget.1

end Coherent

end RecencyIndex

end PoliteCrawl

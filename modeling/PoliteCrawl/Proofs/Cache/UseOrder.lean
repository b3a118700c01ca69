import PoliteCrawl.Proofs.Cache.Policies
import PoliteCrawl.Proofs.Cache.Recency

namespace PoliteCrawl

variable {K V : Type} [BEq K]

namespace CacheAnswer

def made : CacheCall K V × CacheAnswer K V → List V
  | (.getOrCreate _ _, .lookup ⟨v, true, _⟩) => [v]
  | _ => []

def handedOut : CacheCall K V × CacheAnswer K V → List V
  | (.getOrCreate _ _, .lookup ⟨_, _, some (_, v)⟩) => [v]
  | (.evict _, .value (some v)) => [v]
  | _ => []

end CacheAnswer

namespace UseOrder

def value? (entries : List (K × V)) (k : K) : Option V := (entries.find? (·.1 == k)).map (·.2)

def without (entries : List (K × V)) (k : K) : List (K × V) := entries.filter fun e => !(e.1 == k)

/-- What becomes of entries with a new one at the end: if they are too many, the first one goes. -/
def fit (capacity : Nat) (entries : List (K × V)) : Option (K × V) × List (K × V) :=
  if entries.length ≤ capacity then (none, entries) else (entries.head?, entries.tail)

def call (capacity : Nat) (entries : List (K × V)) :
    CacheCall K V → CacheAnswer K V × List (K × V)
  | .getOrCreate k make =>
    match value? entries k with
    | some v => (.lookup ⟨v, false, none⟩, without entries k ++ [(k, v)])
    | none =>
      let (evicted, entries) := fit capacity (entries ++ [(k, make)])
      (.lookup ⟨make, true, evicted⟩, entries)
  | .peek k => (.value (value? entries k), entries)
  | .evict k => (.value (value? entries k), without entries k)
  | .contains k => (.present (value? entries k).isSome, entries)

def Distinct (entries : List (K × V)) : Prop := entries.Pairwise fun a b => (a.1 == b.1) = false

variable {entries : List (K × V)} {k key : K} {v make : V} {capacity : Nat}

theorem value?_append (entries : List (K × V)) (k : K) (v : V) (key : K) :
    value? (entries ++ [(k, v)]) key =
      (value? entries key).or (if k == key then some v else none) := by
  rw [value?, List.find?_append, Option.map_or, List.find?_singleton]
  congr 1
  split <;> rfl

theorem value?_cons (k : K) (v : V) (entries : List (K × V)) (key : K) :
    value? ((k, v) :: entries) key = if k == key then some v else value? entries key := by
  rw [value?, List.find?_cons]
  split <;> simp_all [value?]

theorem without_of_none (h : value? entries k = none) : without entries k = entries := by
  rw [value?, Option.map_eq_none_iff, List.find?_eq_none] at h
  exact List.filter_eq_self.mpr fun e he => by simpa using h e he

theorem map_fst_without (entries : List (K × V)) (k : K) :
    (UseOrder.without entries k).map (·.1) = (entries.map (·.1)).filter fun k' => !(k' == k) := by
  rw [List.filter_map]
  rfl

variable [EquivBEq K]

theorem value?_without (entries : List (K × V)) (k key : K) :
    value? (without entries k) key = if k == key then none else value? entries key := by
  rw [value?, without, List.find?_filter]
  split
  · rename_i hk
    rw [Option.map_eq_none_iff, List.find?_eq_none]
    intro e _ he
    simp only [Bool.not_eq_true', decide_eq_true_eq] at he
    rw [BEq.trans he.2 (BEq.symm hk)] at he
    cases he.1
  · rename_i hk
    rw [value?]
    congr 2
    funext e
    by_cases he : (e.1 == key) = true
    · simp [he, RecencyIndex.beq_eq_false he hk]
    · simp [he]

/-- The entry of a key and the others. -/
theorem perm_without (hdistinct : Distinct entries) (h : value? entries k = some v) :
    ∃ k', (k' == k) = true ∧ entries.Perm ((k', v) :: without entries k) := by
  induction entries with
  | nil => cases h
  | cons e entries ih =>
    obtain ⟨k', v'⟩ := e
    rw [Distinct, List.pairwise_cons] at hdistinct
    rw [value?_cons] at h
    split at h
    · rename_i hk
      cases h
      refine ⟨k', hk, ?_⟩
      -- No other entry is of the key.
      have hothers : without entries k = entries := by
        refine List.filter_eq_self.mpr fun e he => ?_
        have hne := hdistinct.1 e he
        rw [BEq.comm] at hne
        have hek : (e.1 == k) = false := by
          by_contra heq
          rw [BEq.trans (by simpa using heq) (BEq.symm hk)] at hne
          cases hne
        simp [hek]
      have hwithout : without ((k', v) :: entries) k = without entries k :=
        List.filter_cons_of_neg (by simp [hk])
      rw [hwithout, hothers]
    · rename_i hk
      obtain ⟨k'', hk'', hperm⟩ := ih hdistinct.2 h
      have hwithout : without ((k', v') :: entries) k = (k', v') :: without entries k :=
        List.filter_cons_of_pos (by simpa using hk)
      rw [hwithout]
      exact ⟨k'', hk'', (hperm.cons _).trans (.swap _ _ _)⟩

omit [EquivBEq K] in
/-- With room for one entry, the first one is an old one. -/
theorem beq_eq_false_of_fit (hvalue : value? entries k = none) (hcapacity : 0 < capacity)
    (hgone : (fit capacity (entries ++ [(k, make)])).1 = some (key, v)) : (key == k) = false := by
  unfold fit at hgone
  split at hgone
  · cases hgone
  · rename_i hfull
    cases entries with
    | nil =>
      simp only [List.nil_append, List.length_singleton] at hfull
      omega
    | cons e rest =>
      cases hgone
      rw [value?, Option.map_eq_none_iff, List.find?_eq_none] at hvalue
      simpa using hvalue _ List.mem_cons_self

/-- What has been made and is not in the list any more has been handed out. -/
theorem perm_call (hdistinct : Distinct entries) (capacity : Nat) (call : CacheCall K V) :
    (CacheAnswer.made (call, (UseOrder.call capacity entries call).1) ++ entries.map (·.2)).Perm
      ((UseOrder.call capacity entries call).2.map (·.2) ++
        CacheAnswer.handedOut (call, (UseOrder.call capacity entries call).1)) := by
  cases call with
  | peek | contains => simp [UseOrder.call, CacheAnswer.made, CacheAnswer.handedOut]
  | evict k =>
    cases hvalue : value? entries k with
    | none =>
      simp [UseOrder.call, CacheAnswer.made, CacheAnswer.handedOut, hvalue,
        without_of_none hvalue]
    | some v =>
      obtain ⟨k', -, hperm⟩ := perm_without hdistinct hvalue
      simpa [UseOrder.call, CacheAnswer.made, CacheAnswer.handedOut, hvalue] using
        (hperm.map (·.2)).trans (List.perm_append_singleton _ _).symm
  | getOrCreate k make =>
    cases hvalue : value? entries k with
    | some v =>
      obtain ⟨k', -, hperm⟩ := perm_without hdistinct hvalue
      simpa [UseOrder.call, CacheAnswer.made, CacheAnswer.handedOut, hvalue] using
        (hperm.map (·.2)).trans (List.perm_append_singleton _ _).symm
    | none =>
      -- Either the new value is in the list or the first one made room for it.
      have hnew : (make :: entries.map (·.2)).Perm ((entries ++ [(k, make)]).map (·.2)) := by
        rw [List.map_append]
        exact (List.perm_append_singleton make _).symm
      simp only [UseOrder.call, CacheAnswer.made, CacheAnswer.handedOut, hvalue, fit]
      split
      · simpa using hnew
      · refine hnew.trans ?_
        cases entries with
        | nil => simp
        | cons e rest =>
          simpa using (List.perm_append_singleton e.2 (rest.map (·.2) ++ [make])).symm

end UseOrder

namespace LruCache

open UseOrder

variable [Hashable K]

structure Listed (m : Std.HashMap K V) (policy : RecencyIndex K) (entries : List (K × V)) :
    Prop where
  coherent : policy.Coherent
  order : policy.toList = entries.map (·.1)
  value : ∀ k, m[k]? = value? entries k
  size : m.size = entries.length

variable {m : Std.HashMap K V} {policy : RecencyIndex K} {c : LruCache K V} {fuel : Nat}

theorem listed_empty (K V : Type) [BEq K] [Hashable K] :
    Listed (∅ : Std.HashMap K V) ({} : RecencyIndex K) [] where
  coherent := RecencyIndex.coherent_empty
  order := rfl
  value k := by simp [value?]
  size := by simp

variable [EquivBEq K]

theorem Listed.distinct (h : Listed m policy entries) : Distinct entries := by
  have hdistinct := h.coherent.distinct
  rw [h.order] at hdistinct
  exact List.pairwise_map.mp hdistinct

variable [LawfulHashable K]

theorem Listed.remove (h : Listed m policy entries) (k : K) :
    Listed (m.erase k) (policy.remove k).2 (without entries k) where
  coherent := h.coherent.remove k
  order := by rw [h.coherent.toList_remove, h.order, map_fst_without]
  value key := by rw [Std.HashMap.getElem?_erase, h.value, value?_without]
  size := by
    simp only [Std.HashMap.size_erase, Std.HashMap.mem_iff_isSome_getElem?, h.value, h.size]
    cases hvalue : value? entries k with
    | none => simp [without_of_none hvalue]
    | some v =>
      obtain ⟨k', -, hperm⟩ := perm_without h.distinct hvalue
      simp [hperm.length_eq]

/-- A use puts a key at the end, with the value that the map has for it from then on. -/
theorem Listed.use (h : Listed m policy entries) {m' : Std.HashMap K V}
    (hvalue : ∀ key, m'[key]? = if k == key then some v else m[key]?)
    (hsize : m'.size = if k ∈ m then m.size else m.size + 1) :
    Listed m' (policy.touch k) (without entries k ++ [(k, v)]) where
  coherent := h.coherent.touch k
  order := by rw [h.coherent.toList_touch, h.order, List.map_append, map_fst_without]; rfl
  value key := by
    rw [hvalue, value?_append, value?_without, h.value]
    split <;> simp
  size := by
    simp only [hsize, Std.HashMap.mem_iff_isSome_getElem?, h.value, h.size]
    cases hold : value? entries k with
    | none => simp [without_of_none hold]
    | some old =>
      obtain ⟨k', -, hperm⟩ := perm_without h.distinct hold
      simp [hperm.length_eq]

/-- The loop that makes room takes out the first entry if there is one too many. -/
theorem Listed.shrink (h : Listed m policy entries) (hlength : entries.length ≤ capacity + 1)
    (hfuel : entries.length ≤ fuel) :
    ∃ m' policy', BoundedCache.shrink capacity fuel m policy none =
        (m', policy', (fit capacity entries).1) ∧ Listed m' policy' (fit capacity entries).2 := by
  by_cases hfits : entries.length ≤ capacity
  · rw [fit, if_pos hfits]
    exact ⟨m, policy, BoundedCache.shrink_of_size_le (h.size ▸ hfits) _ _ _, h⟩
  · rw [fit, if_neg hfits]
    obtain ⟨fuel, rfl⟩ : ∃ fuel', fuel = fuel' + 1 := ⟨fuel - 1, by omega⟩
    cases entries with
    | nil => simp at hfits
    | cons e rest =>
      obtain ⟨k, v⟩ := e
      obtain ⟨hvictim, hpolicy, -⟩ := h.coherent.pop_of_cons h.order
      have hget : m[k]? = some v := by rw [h.value, value?_cons, if_pos BEq.rfl]
      -- No later entry is of the first key.
      have hrest : without ((k, v) :: rest) k = rest := by
        have hdistinct := (List.pairwise_cons.mp h.distinct).1
        rw [without, List.filter_cons_of_neg (by simp)]
        exact List.filter_eq_self.mpr fun e he => by rw [BEq.comm, hdistinct e he]; rfl
      have hleft := h.remove k
      rw [hrest, ← hpolicy] at hleft
      refine ⟨m.erase k, policy.pop.2, ?_, hleft⟩
      have hfull : ¬ m.size ≤ capacity := h.size ▸ hfits
      have hturn : EvictionPolicy.victim policy = (some k, policy.pop.2) :=
        Prod.ext hvictim rfl
      have hroom : (m.erase k).size ≤ capacity := by
        rw [hleft.size]
        simpa using hlength
      rw [BoundedCache.shrink, if_neg hfull, hturn]
      simp only [hget, BoundedCache.shrink_of_size_le hroom]
      rfl

/-- A cache that holds what a list says, within its capacity. -/
structure Refines (c : LruCache K V) (entries : List (K × V)) : Prop where
  listed : Listed c.entries c.policy entries
  bounded : entries.length ≤ c.capacity

theorem Refines.getOrCreate (h : Refines c entries) (k : K) (make : V) :
    (c.call (.getOrCreate k make)).1 = (call c.capacity entries (.getOrCreate k make)).1 ∧
      Refines (c.call (.getOrCreate k make)).2
        (call c.capacity entries (.getOrCreate k make)).2 := by
  cases hvalue : value? entries k with
  | some v =>
    have hget : c.entries[k]? = some v := (h.listed.value k).trans hvalue
    have hmem : k ∈ c.entries := Std.HashMap.mem_iff_isSome_getElem?.mpr (by rw [hget]; rfl)
    obtain ⟨k', -, hperm⟩ := perm_without h.listed.distinct hvalue
    simp only [BoundedCache.call, BoundedCache.getOrCreate_of_peek hget, call, hvalue]
    refine ⟨trivial, h.listed.use (fun key => ?_) (by rw [if_pos hmem]), ?_⟩
    · split
      · rename_i hk
        rw [← Std.HashMap.getElem?_congr hk, hget]
      · rfl
    · have hbounded := h.bounded
      rw [hperm.length_eq] at hbounded
      simpa using hbounded
  | none =>
    have hget : c.entries[k]? = none := (h.listed.value k).trans hvalue
    have hused : Listed (c.entries.insert k make) (c.policy.touch k) (entries ++ [(k, make)]) := by
      have hlisted := h.listed.use (k := k) (v := make)
        (fun key => Std.HashMap.getElem?_insert) Std.HashMap.size_insert
      rwa [without_of_none hvalue] at hlisted
    -- the cache was within its capacity, so that one entry at most has to go
    have hlength : (entries ++ [(k, make)]).length ≤ c.capacity + 1 := by
      simpa using h.bounded
    have hfuel : (entries ++ [(k, make)]).length ≤ (c.policy.touch k).toList.length := by
      simp [hused.order]
    obtain ⟨m', policy', hshrink, hlisted⟩ := hused.shrink hlength hfuel
    have hlookup : c.getOrCreate k make =
        (⟨make, true, (fit c.capacity (entries ++ [(k, make)])).1⟩,
          { c with entries := m', policy := policy' }) := by
      unfold BoundedCache.getOrCreate
      rw [hget]
      simp only [EvictionPolicy.touch, EvictionPolicy.tracked, hshrink]
    simp only [BoundedCache.call, hlookup, call, hvalue]
    refine ⟨trivial, hlisted, ?_⟩
    unfold fit
    split
    · assumption
    · simpa using h.bounded

theorem Refines.call (h : Refines c entries) (call : CacheCall K V) :
    (c.call call).1 = (UseOrder.call c.capacity entries call).1 ∧
      Refines (c.call call).2 (UseOrder.call c.capacity entries call).2 := by
  cases call with
  | getOrCreate k make => exact h.getOrCreate k make
  | peek k =>
    exact ⟨congrArg CacheAnswer.value (h.listed.value k), h⟩
  | contains k =>
    refine ⟨congrArg CacheAnswer.present ?_, h⟩
    rw [BoundedCache.contains, Std.HashMap.contains_eq_isSome_getElem?, h.listed.value]
  | evict k =>
    refine ⟨congrArg CacheAnswer.value (h.listed.value k), h.listed.remove k, ?_⟩
    exact Nat.le_trans (List.length_filter_le _ _) h.bounded

theorem perm_exchange {made made' before between after handed handed' : List V}
    (h : (made ++ before).Perm (between ++ handed))
    (h' : (made' ++ between).Perm (after ++ handed')) :
    (made ++ made' ++ before).Perm (after ++ (handed ++ handed')) := by
  calc
    (made ++ made' ++ before).Perm (made' ++ (made ++ before)) := by
      rw [List.append_assoc]
      exact List.perm_append_comm_assoc _ _ _
    _ |>.Perm (made' ++ (between ++ handed)) := h.append_left _
    _ |>.Perm (after ++ handed' ++ handed) := by
      rw [← List.append_assoc]
      exact h'.append_right _
    _ |>.Perm (after ++ (handed ++ handed')) := by
      rw [List.append_assoc]
      exact List.perm_append_comm.append_left _

theorem Refines.run (h : Refines c entries) (calls : List (CacheCall K V)) :
    (CacheCall.run BoundedCache.call c calls).1 =
        (CacheCall.run (UseOrder.call c.capacity) entries calls).1 ∧
      Refines (CacheCall.run BoundedCache.call c calls).2
        (CacheCall.run (UseOrder.call c.capacity) entries calls).2 := by
  induction calls generalizing c entries with
  | nil => exact ⟨rfl, h⟩
  | cons call calls ih =>
    obtain ⟨hanswer, hnext⟩ := h.call call
    obtain ⟨hanswers, hlast⟩ := ih hnext
    rw [BoundedCache.capacity_call] at hanswers hlast
    exact ⟨congrArg₂ List.cons hanswer hanswers, hlast⟩

/-- What some calls made and what was there before is there after them or was handed out. -/
theorem Refines.perm_run (h : Refines c entries) (calls : List (CacheCall K V)) :
    let run := CacheCall.run BoundedCache.call c calls
    ((calls.zip run.1).flatMap CacheAnswer.made ++ entries.map (·.2)).Perm
      ((CacheCall.run (UseOrder.call c.capacity) entries calls).2.map (·.2) ++
        (calls.zip run.1).flatMap CacheAnswer.handedOut) := by
  induction calls generalizing c entries with
  | nil => simp [CacheCall.run]
  | cons call calls ih =>
    obtain ⟨hanswer, hnext⟩ := h.call call
    have hstep := perm_call h.listed.distinct c.capacity call
    have hrest := ih hnext
    rw [← hanswer] at hstep
    rw [BoundedCache.capacity_call] at hrest
    simp only [CacheCall.run, List.zip_cons_cons, List.flatMap_cons]
    exact perm_exchange hstep hrest

omit [EquivBEq K] [LawfulHashable K] in
@[simp] theorem nextTick_shrink (capacity fuel : Nat) (m : Std.HashMap K V)
    (policy : RecencyIndex K) (evicted : Option (K × V)) :
    (BoundedCache.shrink capacity fuel m policy evicted).2.1.nextTick = policy.nextTick := by
  induction fuel generalizing m policy evicted with
  | zero => rfl
  | succ fuel ih =>
    have hpop := policy.nextTick_pop
    unfold BoundedCache.shrink
    split
    · rfl
    · split
      · rename_i policy' hvictim
        rw [← hpop, show policy.pop = (none, policy') from hvictim]
      · rename_i k policy' hvictim
        rw [← hpop, show policy.pop = (some k, policy') from hvictim]
        split
        · exact ih _ _ _
        · exact ih _ _ _

omit [EquivBEq K] [LawfulHashable K] in
/-- A call takes one tick at most. -/
theorem nextTick_call (c : LruCache K V) (call : CacheCall K V) :
    (c.call call).2.policy.nextTick ≤ c.policy.nextTick + 1 := by
  cases call with
  | getOrCreate k make =>
    have htouch : (EvictionPolicy.touch c.policy k).nextTick = c.policy.nextTick + 1 := rfl
    simp only [BoundedCache.call, BoundedCache.getOrCreate]
    split
    · exact Nat.le_of_eq htouch
    · exact Nat.le_of_eq ((nextTick_shrink _ _ _ _ _).trans htouch)
  | evict k =>
    exact Nat.le_trans (Nat.le_of_eq (RecencyIndex.nextTick_remove _ _)) (Nat.le_succ _)
  | peek | contains => exact Nat.le_succ _

omit [EquivBEq K] [LawfulHashable K] in
theorem nextTick_run (c : LruCache K V) (calls : List (CacheCall K V)) :
    (CacheCall.run BoundedCache.call c calls).2.policy.nextTick ≤
      c.policy.nextTick + calls.length := by
  induction calls generalizing c with
  | nil => exact Nat.le_refl _
  | cons call calls ih =>
    have hfirst := nextTick_call c call
    have hrest := ih (c.call call).2
    simp only [CacheCall.run, List.length_cons]
    omega

/-- What a cache shows of itself if it holds what a list says. -/
structure Shows (c : LruCache K V) (capacity : Nat) (entries : List (K × V)) : Prop where
  distinct : Distinct entries
  bounded : entries.length ≤ max capacity 1
  peek : ∀ k, c.peek k = value? entries k
  size : c.size = entries.length
  keysByRecency : c.keysByRecency = entries.map (·.1)
  /-- What a look-up lets go for its key is of another key. -/
  spares : ∀ k make key v, (c.getOrCreate k make).1.evicted = some (key, v) → (key == k) = false

theorem Refines.spares (h : Refines c entries) {k key : K} {make v : V}
    (hevicted : (c.getOrCreate k make).1.evicted = some (key, v)) : (key == k) = false := by
  have hanswer := (h.getOrCreate k make).1
  simp only [BoundedCache.call, UseOrder.call] at hanswer
  split at hanswer
  · rw [CacheAnswer.lookup.inj hanswer] at hevicted
    cases hevicted
  · rename_i hvalue
    rw [CacheAnswer.lookup.inj hanswer] at hevicted
    exact beq_eq_false_of_fit hvalue c.capacity_pos hevicted

theorem Refines.shows (h : Refines c entries) (hcapacity : c.capacity = max capacity 1) :
    Shows c capacity entries where
  distinct := h.listed.distinct
  bounded := hcapacity ▸ h.bounded
  peek := h.listed.value
  size := h.listed.size
  keysByRecency := h.listed.order
  spares _ _ _ _ := h.spares

theorem shows_of_calls (capacity : Nat) (calls : List (CacheCall K V)) :
    let run := CacheCall.run BoundedCache.call (LruCache.empty capacity) calls
    let listed := CacheCall.run (call (max capacity 1)) [] calls
    run.1 = listed.1 ∧ Shows run.2 capacity listed.2 ∧
      ((calls.zip run.1).flatMap CacheAnswer.made).Perm
        (listed.2.map (·.2) ++ (calls.zip run.1).flatMap CacheAnswer.handedOut) ∧
      run.2.policy.nextTick ≤ calls.length := by
  have hempty : Refines (LruCache.empty capacity : LruCache K V) [] :=
    ⟨listed_empty K V, Nat.zero_le _⟩
  obtain ⟨hanswers, hlast⟩ := hempty.run calls
  have hperm := hempty.perm_run calls
  simp only [List.map_nil, List.append_nil] at hperm
  have hticks := nextTick_run (LruCache.empty capacity : LruCache K V) calls
  rw [show (LruCache.empty capacity : LruCache K V).policy.nextTick = 0 from rfl,
    Nat.zero_add] at hticks
  exact ⟨hanswers, hlast.shows (BoundedCache.capacity_run _ _), hperm, hticks⟩

/-- The second key goes for the fourth one, since the first is used again. -/
theorem shows_of_reused :
    EquivBEq Nat ∧ LawfulHashable Nat ∧
      let run := CacheCall.run BoundedCache.call (LruCache.empty 3 : LruCache Nat String)
        [.getOrCreate 1 "a", .getOrCreate 2 "b", .getOrCreate 3 "c", .getOrCreate 1 "e",
          .getOrCreate 4 "d"]
      run.1 = [.lookup ⟨"a", true, none⟩, .lookup ⟨"b", true, none⟩, .lookup ⟨"c", true, none⟩,
        .lookup ⟨"a", false, none⟩, .lookup ⟨"d", true, some (2, "b")⟩] ∧
      keysByRecency run.2 = [3, 1, 4] :=
  ⟨inferInstance, inferInstance, (shows_of_calls 3 _).1.trans rfl,
    (shows_of_calls 3 _).2.1.keysByRecency.trans rfl⟩

end LruCache

end PoliteCrawl

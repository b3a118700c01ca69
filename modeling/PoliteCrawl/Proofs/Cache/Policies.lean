import PoliteCrawl.Proofs.Cache.Bounded

namespace PoliteCrawl

variable {K V P : Type} [BEq K] [EvictionPolicy P K]

namespace EvictionPolicy

def Tracks (policy : P) (k : K) : Prop := ∃ k' ∈ tracked policy, (k' == k) = true

/-- A policy that keeps to its part in all states that `Fit` holds of. -/
structure Faithful (Fit : P → Prop) : Prop where
  fit_touch : ∀ policy k, Fit policy → Fit (touch policy k)
  fit_remove : ∀ policy k, Fit policy → Fit (remove policy k)
  fit_victim : ∀ policy, Fit policy → Fit (victim policy).2
  touched : ∀ policy k, Fit policy → Tracks (touch policy k) k
  keeps_touch : ∀ policy k k', Fit policy → Tracks policy k' → Tracks (touch policy k) k'
  /-- It may also go on to follow the key itself. -/
  keeps_remove : ∀ policy k k', Fit policy → Tracks policy k' → (k == k') = false →
    Tracks (remove policy k) k'
  untracks : ∀ policy k, Fit policy → (victim policy).1 = some k →
    Tracks policy k ∧ ∀ k', Tracks (victim policy).2 k' ↔ Tracks policy k' ∧ (k == k') = false
  gives_up : ∀ policy, Fit policy → (victim policy).1 = none → ∀ k, ¬ Tracks policy k

def Within (policy : P) (keys : List K) : Prop :=
  ∀ k, Tracks policy k → ∃ k' ∈ keys, (k' == k) = true

variable {Fit : P → Prop} {policy policy' : P} {k : K}

theorem Faithful.of_victim (h : Faithful Fit) (hfit : Fit policy)
    (hvictim : victim policy = (some k, policy')) :
    Fit policy' ∧ Tracks policy k ∧
      ∀ k', Tracks policy' k' ↔ Tracks policy k' ∧ (k == k') = false := by
  have hnext := h.fit_victim policy hfit
  have huntracks := h.untracks policy k hfit (by rw [hvictim])
  rw [hvictim] at hnext huntracks
  exact ⟨hnext, huntracks⟩

/-- A victim costs one of the keys that a policy can follow. -/
theorem Faithful.within_victim [EquivBEq K] (h : Faithful Fit) (hfit : Fit policy)
    (hvictim : victim policy = (some k, policy')) {keys : List K} (hkeys : Within policy keys) :
    Within policy' (keys.eraseP (· == k)) ∧
      (keys.eraseP (· == k)).length + 1 = keys.length := by
  obtain ⟨-, hk, huntracks⟩ := h.of_victim hfit hvictim
  obtain ⟨k₀, hmem, hk₀⟩ := hkeys k hk
  refine ⟨fun k' hk' => ?_, ?_⟩
  · obtain ⟨hold, hne⟩ := (huntracks k').mp hk'
    obtain ⟨k'', hmem'', heq⟩ := hkeys k' hold
    refine ⟨k'', (List.mem_eraseP_of_neg ?_).mpr hmem'', heq⟩
    intro hsame
    rw [BEq.trans (BEq.symm hsame) heq] at hne
    cases hne
  · have hpos := List.length_pos_of_mem hmem
    rw [List.length_eraseP_of_mem hmem hk₀]
    omega

end EvictionPolicy

open EvictionPolicy

inductive CacheCall (K V : Type) where
  | getOrCreate (k : K) (make : V)
  | peek (k : K)
  | evict (k : K)
  | contains (k : K)

inductive CacheAnswer (K V : Type) where
  | lookup (lookup : BoundedCache.Lookup K V)
  | value (value? : Option V)
  | present (present : Bool)

def CacheCall.run {σ : Type} (step : σ → CacheCall K V → CacheAnswer K V × σ) (s : σ) :
    List (CacheCall K V) → List (CacheAnswer K V) × σ
  | [] => ([], s)
  | call :: calls =>
    let (answer, s) := step s call
    let (answers, s) := run step s calls
    (answer :: answers, s)

namespace BoundedCache

variable [Hashable K]

def call (c : BoundedCache K V P) : CacheCall K V → CacheAnswer K V × BoundedCache K V P
  | .getOrCreate k make => let (lookup, c) := c.getOrCreate k make; (.lookup lookup, c)
  | .peek k => (.value (c.peek k), c)
  | .evict k => let (value?, c) := c.evict k; (.value value?, c)
  | .contains k => (.present (c.contains k), c)

/-- What the loop that makes room comes to if it ends, without a bound on its turns. -/
inductive MakesRoom (capacity : Nat) : Std.HashMap K V → P → Option (K × V) →
    Std.HashMap K V × P × Option (K × V) → Prop where
  | fits {entries : Std.HashMap K V} (policy : P) (evicted : Option (K × V))
    (h : entries.size ≤ capacity) :
    MakesRoom capacity entries policy evicted (entries, policy, evicted)
  | givesUp {entries : Std.HashMap K V} {policy policy' : P} (evicted : Option (K × V))
    (h : capacity < entries.size) (hvictim : victim policy = (none, policy')) :
    MakesRoom capacity entries policy evicted (entries, policy', evicted)
  | takes {entries : Std.HashMap K V} {policy policy' : P} {k : K} {v : V}
    {evicted : Option (K × V)} {last : Std.HashMap K V × P × Option (K × V)}
    (h : capacity < entries.size) (hvictim : victim policy = (some k, policy'))
    (hget : entries[k]? = some v)
    (hrest : MakesRoom capacity (entries.erase k) policy' (some (k, v)) last) :
    MakesRoom capacity entries policy evicted last
  | passes {entries : Std.HashMap K V} {policy policy' : P} {k : K}
    {evicted : Option (K × V)} {last : Std.HashMap K V × P × Option (K × V)}
    (h : capacity < entries.size) (hvictim : victim policy = (some k, policy'))
    (hget : entries[k]? = none) (hrest : MakesRoom capacity entries policy' evicted last) :
    MakesRoom capacity entries policy evicted last

variable {Fit : P → Prop} {c : BoundedCache K V P} {capacity fuel : Nat}
  {entries : Std.HashMap K V} {policy policy' : P} {evicted : Option (K × V)} {k : K}

def Followed (entries : Std.HashMap K V) (policy : P) : Prop :=
  ∀ k v, entries[k]? = some v → Tracks policy k

/-- All that is left in the map stays followed after a victim, if that is not left there. -/
theorem Followed.victim (h : Followed entries policy) (hpolicy : Faithful Fit) (hfit : Fit policy)
    (hvictim : EvictionPolicy.victim policy = (some k, policy')) {left : Std.HashMap K V}
    (hleft : ∀ k', left[k']? = if k == k' then none else entries[k']?) :
    Followed left policy' := by
  obtain ⟨-, -, huntracks⟩ := hpolicy.of_victim hfit hvictim
  intro k' v hget
  rw [hleft] at hget
  split at hget
  · cases hget
  · rename_i hne
    exact (huntracks k').mpr ⟨h k' v hget, by simpa using hne⟩

variable [EquivBEq K] [LawfulHashable K]

/-- As long as there are entries, the policy follows a key. -/
theorem Followed.size_eq_zero (h : Followed entries policy) (hnone : ∀ k, ¬ Tracks policy k) :
    entries.size = 0 := by
  have hempty : entries.isEmpty = true :=
    Std.HashMap.isEmpty_iff_forall_not_mem.mpr fun k hmem =>
      hnone k (h k _ (Std.HashMap.getElem?_eq_some_getElem hmem))
  rwa [Std.HashMap.isEmpty_eq_size_eq_zero, beq_iff_eq] at hempty

/-- The keys that a policy follows bound the turns of the loop: each turn costs one of them. What
is still in the map is always followed, so the policy does not give up before there is room. -/
theorem makesRoom_shrink (hpolicy : Faithful Fit) (hfit : Fit policy)
    (hfollowed : Followed entries policy) {keys : List K} (hkeys : Within policy keys)
    (hfuel : keys.length ≤ fuel) {last : Std.HashMap K V × P × Option (K × V)}
    (hlast : shrink capacity fuel entries policy evicted = last) :
    MakesRoom capacity entries policy evicted last ∧ last.1.size ≤ capacity ∧ Fit last.2.1 ∧
      Followed last.1 last.2.1 := by
  induction fuel generalizing entries policy evicted keys with
  | zero =>
    have hsize : entries.size = 0 := by
      apply hfollowed.size_eq_zero
      intro k hk
      obtain ⟨k', hmem, -⟩ := hkeys k hk
      rw [List.length_eq_zero_iff.mp (Nat.le_zero.mp hfuel)] at hmem
      cases hmem
    have hfits : entries.size ≤ capacity := by omega
    subst hlast
    exact ⟨.fits policy evicted hfits, hfits, hfit, hfollowed⟩
  | succ fuel ih =>
    unfold shrink at hlast
    by_cases hfits : entries.size ≤ capacity
    · rw [if_pos hfits] at hlast
      subst hlast
      exact ⟨.fits policy evicted hfits, hfits, hfit, hfollowed⟩
    · rw [if_neg hfits] at hlast
      have hfull : capacity < entries.size := Nat.lt_of_not_le hfits
      split at hlast
      · rename_i policy' hvictim
        have hsize := hfollowed.size_eq_zero (hpolicy.gives_up policy hfit (by rw [hvictim]))
        omega
      · rename_i k policy' hvictim
        obtain ⟨hfit', -⟩ := hpolicy.of_victim hfit hvictim
        obtain ⟨hkeys', hlength⟩ := hpolicy.within_victim hfit hvictim hkeys
        have hfuel' : (keys.eraseP (· == k)).length ≤ fuel := by omega
        split at hlast
        · rename_i v hget
          have hfollowed' : Followed (entries.erase k) policy' :=
            hfollowed.victim hpolicy hfit hvictim fun _ => Std.HashMap.getElem?_erase
          obtain ⟨hroom, hrest⟩ := ih hfit' hfollowed' hkeys' hfuel' hlast
          exact ⟨.takes hfull hvictim hget hroom, hrest⟩
        · rename_i hget
          -- The policy named a key that is gone already.
          have hfollowed' : Followed entries policy' := by
            apply hfollowed.victim hpolicy hfit hvictim
            intro k'
            split
            · rename_i heq
              rw [← Std.HashMap.getElem?_congr heq, hget]
            · rfl
          obtain ⟨hroom, hrest⟩ := ih hfit' hfollowed' hkeys' hfuel' hlast
          exact ⟨.passes hfull hvictim hget hroom, hrest⟩

/-- Where one entry is too many, one has to go for room to be made, and it is reported. -/
theorem MakesRoom.entries_eq {last : Std.HashMap K V × P × Option (K × V)}
    (h : MakesRoom capacity entries policy evicted last) (hsize : entries.size ≤ capacity + 1)
    (hroom : last.1.size ≤ capacity) :
    last.1 = entries ∧ last.2.2 = evicted ∨
      ∃ k v, entries[k]? = some v ∧ last.1 = entries.erase k ∧ last.2.2 = some (k, v) := by
  induction h with
  | fits | givesUp => exact .inl ⟨rfl, rfl⟩
  | @takes entries _ _ k v _ _ hfull _ hget hrest =>
    have hmem : k ∈ entries := Std.HashMap.mem_iff_isSome_getElem?.mpr (by rw [hget]; rfl)
    have herase : (entries.erase k).size ≤ capacity := by
      rw [Std.HashMap.size_erase, if_pos hmem]
      omega
    -- There is room after this turn, so that it was the last one.
    cases hrest with
    | fits => exact .inr ⟨k, v, hget, rfl, rfl⟩
    | givesUp _ hfull' | takes hfull' | passes hfull' => omega
  | passes _ _ _ _ ih => exact ih hsize hroom

/-- What a look-up does: it takes out one entry at most, which it reports, and changes no other. -/
structure Served (c : BoundedCache K V P) (k : K) (make : V) : Prop where
  /-- The loop that makes room ends, and the cache is as it leaves it. -/
  ends : c.peek k = none → ∃ last,
    MakesRoom c.capacity (c.entries.insert k make) (touch c.policy k) none last ∧
      c.getOrCreate k make =
        (⟨make, true, last.2.2⟩, { c with entries := last.1, policy := last.2.1 })
  found : ∀ v, c.peek k = some v → (c.getOrCreate k make).1 = ⟨v, false, none⟩
  reported : ∀ key v, (c.getOrCreate k make).1.evicted = some (key, v) →
    c.peek k = none ∧ (if k == key then some make else c.peek key) = some v
  after : ∀ key, (c.getOrCreate k make).2.peek key =
    if (c.getOrCreate k make).1.evicted.any (·.1 == key) then none
    else if k == key then some (c.getOrCreate k make).1.value else c.peek key

structure Tidy (Fit : P → Prop) (c : BoundedCache K V P) : Prop where
  fit : Fit c.policy
  followed : Followed c.entries c.policy
  bounded : c.size ≤ c.capacity

theorem Tidy.getOrCreate (h : Tidy Fit c) (hpolicy : Faithful Fit) (k : K) (make : V) :
    Served c k make ∧ Tidy Fit (c.getOrCreate k make).2 := by
  have hfit : Fit (touch c.policy k) := hpolicy.fit_touch _ _ h.fit
  have hfollowed : Followed c.entries (touch c.policy k) := fun k' v hget =>
    hpolicy.keeps_touch _ _ _ h.fit (h.followed k' v hget)
  cases hpeek : c.peek k with
  | some v =>
    have hlookup := getOrCreate_of_peek hpeek make
    refine ⟨⟨fun hnone => ?_, fun v' hv' => ?_, fun key v' hv' => ?_, fun key => ?_⟩, ?_⟩
    · rw [hpeek] at hnone
      cases hnone
    · cases hpeek.symm.trans hv'
      rw [hlookup]
    · rw [hlookup] at hv'
      cases hv'
    · rw [hlookup]
      show c.peek key = if k == key then some v else c.peek key
      split
      · rename_i heq
        rw [← hpeek]
        exact (Std.HashMap.getElem?_congr heq).symm
      · rfl
    · rw [hlookup]
      exact ⟨hfit, hfollowed, h.bounded⟩
  | none =>
    obtain ⟨last, hlast⟩ : ∃ last, shrink c.capacity (tracked (touch c.policy k)).length
      (c.entries.insert k make) (touch c.policy k) none = last := ⟨_, rfl⟩
    have hlookup : c.getOrCreate k make =
        (⟨make, true, last.2.2⟩, { c with entries := last.1, policy := last.2.1 }) := by
      unfold BoundedCache.getOrCreate
      rw [show c.entries[k]? = none from hpeek]
      simp only [hlast]
    -- the policy was told of the new key, and follows all others that are in the map
    have hfollowed' : Followed (c.entries.insert k make) (touch c.policy k) := by
      intro k' v hget
      rw [Std.HashMap.getElem?_insert] at hget
      split at hget
      · rename_i heq
        obtain ⟨k₀, hmem, hk₀⟩ := hpolicy.touched _ k h.fit
        exact ⟨k₀, hmem, BEq.trans hk₀ heq⟩
      · exact hfollowed k' v hget
    have hkeys : Within (touch c.policy k) (tracked (touch c.policy k)) := fun k' hk' => hk'
    -- a turn for each key that the policy follows is enough, since a turn makes these fewer
    obtain ⟨hroom, hsize, hfit', hfollowed''⟩ :=
      makesRoom_shrink hpolicy hfit hfollowed' hkeys (Nat.le_refl _) hlast
    have hinsert : (c.entries.insert k make).size ≤ c.capacity + 1 :=
      Nat.le_trans Std.HashMap.size_insert_le (Nat.succ_le_succ h.bounded)
    refine ⟨⟨fun _ => ⟨last, hroom, hlookup⟩, fun v hv => ?_, ?_, ?_⟩, ?_⟩
    · rw [hpeek] at hv
      cases hv
    · rw [hlookup]
      intro key v hkey
      refine ⟨hpeek, ?_⟩
      rcases hroom.entries_eq hinsert hsize with ⟨-, hnone⟩ | ⟨k', v', hget, -, hsome⟩
      · cases hkey.symm.trans hnone
      · cases hkey.symm.trans hsome
        rwa [Std.HashMap.getElem?_insert] at hget
    · rw [hlookup]
      intro key
      show last.1[key]? = if last.2.2.any (·.1 == key) then none
        else if k == key then some make else c.entries[key]?
      rcases hroom.entries_eq hinsert hsize with ⟨hentries, hnone⟩ | ⟨k', v', -, herase, hsome⟩
      · rw [hentries, hnone, Std.HashMap.getElem?_insert]
        rfl
      · rw [herase, hsome, Std.HashMap.getElem?_erase, Std.HashMap.getElem?_insert]
        rfl
    · rw [hlookup]
      exact ⟨hfit', hfollowed'', hsize⟩

theorem Tidy.evict (h : Tidy Fit c) (hpolicy : Faithful Fit) (k : K) :
    Tidy Fit (c.evict k).2 where
  fit := hpolicy.fit_remove _ _ h.fit
  followed k' v hget := by
    rw [show (c.evict k).2.entries = c.entries.erase k from rfl,
      Std.HashMap.getElem?_erase] at hget
    split at hget
    · cases hget
    · rename_i hne
      exact hpolicy.keeps_remove _ _ _ h.fit (h.followed k' v hget) (by simpa using hne)
  bounded := Nat.le_trans Std.HashMap.size_erase_le h.bounded

theorem peek_evict (c : BoundedCache K V P) (k key : K) :
    (c.evict k).2.peek key = if k == key then none else c.peek key :=
  Std.HashMap.getElem?_erase

omit [EquivBEq K] [LawfulHashable K] in
@[simp] theorem capacity_call (c : BoundedCache K V P) (call : CacheCall K V) :
    (c.call call).2.capacity = c.capacity := by
  cases call with
  | getOrCreate k make => exact capacity_getOrCreate
  | peek | evict | contains => rfl

theorem Tidy.call (h : Tidy Fit c) (hpolicy : Faithful Fit) (call : CacheCall K V) :
    Tidy Fit (c.call call).2 := by
  cases call with
  | getOrCreate k make => exact (h.getOrCreate hpolicy k make).2
  | evict k => exact h.evict hpolicy k
  | peek | contains => exact h

theorem tidy_empty (V : Type) (hfit : Fit policy) (capacity : Nat) :
    Tidy Fit (empty capacity policy : BoundedCache K V P) where
  fit := hfit
  followed k v hget := by simp [empty] at hget
  bounded := by simp [size, empty]

theorem Tidy.run (h : Tidy Fit c) (hpolicy : Faithful Fit) (calls : List (CacheCall K V)) :
    Tidy Fit (CacheCall.run BoundedCache.call c calls).2 := by
  induction calls generalizing c with
  | nil => exact h
  | cons call calls ih => exact ih (h.call hpolicy call)

omit [EquivBEq K] [LawfulHashable K] in
theorem capacity_run (c : BoundedCache K V P) (calls : List (CacheCall K V)) :
    (CacheCall.run BoundedCache.call c calls).2.capacity = c.capacity := by
  induction calls generalizing c with
  | nil => rfl
  | cons call calls ih => exact (ih _).trans (c.capacity_call call)

/-- A cache of a capacity under a policy that keeps to its part, and what calls do to it. -/
structure Governed (capacity : Nat) (c : BoundedCache K V P) : Prop where
  followed : ∀ k v, c.peek k = some v → Tracks c.policy k
  bounded : c.size ≤ max capacity 1
  served : ∀ k make, Served c k make
  evicts : ∀ k, (c.evict k).1 = c.peek k ∧
    ∀ key, (c.evict k).2.peek key = if k == key then none else c.peek key
  asked : ∀ k, c.call (.peek k) = (.value (c.peek k), c) ∧
    c.call (.contains k) = (.present (c.peek k).isSome, c)

theorem governed_of_calls (hpolicy : Faithful Fit) (hfit : Fit policy) (capacity : Nat)
    (calls : List (CacheCall K V)) :
    Governed capacity (CacheCall.run call (empty capacity policy) calls).2 := by
  have htidy := (tidy_empty V hfit capacity).run hpolicy calls
  refine ⟨htidy.followed, ?_, fun k make => (htidy.getOrCreate hpolicy k make).1,
    fun k => ⟨rfl, peek_evict _ k⟩, fun k => ⟨rfl, ?_⟩⟩
  · have hbounded := htidy.bounded
    rwa [capacity_run] at hbounded
  · rw [call, contains, Std.HashMap.contains_eq_isSome_getElem?]
    rfl

end BoundedCache

/-- Names the key first that came last, and forgets nothing that it is told to. -/
structure LatestFirst where
  keys : List Nat := []

instance : EvictionPolicy LatestFirst Nat where
  touch p k := ⟨k :: p.keys.erase k⟩
  remove p _ := p
  victim p := (p.keys.head?, ⟨p.keys.tail⟩)
  tracked p := p.keys

namespace LatestFirst

theorem tracks_iff {p : LatestFirst} {k : Nat} : Tracks p k ↔ k ∈ p.keys := by
  simp [Tracks, tracked]

theorem faithful : Faithful fun p : LatestFirst => p.keys.Nodup where
  fit_touch p k hp := List.nodup_cons.mpr ⟨hp.not_mem_erase, hp.erase k⟩
  fit_remove _ _ hp := hp
  fit_victim _ hp := hp.tail
  touched p k _ := tracks_iff.mpr List.mem_cons_self
  keeps_touch p k k' _ hk' := by
    rw [tracks_iff] at hk' ⊢
    by_cases hne : k' = k
    · exact hne ▸ List.mem_cons_self
    · exact List.mem_cons_of_mem _ ((List.mem_erase_of_ne hne).mpr hk')
  keeps_remove _ _ _ _ hk' _ := hk'
  untracks p k hp hvictim := by
    obtain ⟨rest, hkeys⟩ := List.head?_eq_some_iff.mp hvictim
    rw [hkeys, List.nodup_cons] at hp
    simp only [tracks_iff, victim, hkeys, List.tail_cons, List.mem_cons, beq_eq_false_iff_ne]
    grind
  gives_up p _ hvictim k hk := by
    rw [tracks_iff, List.head?_eq_none_iff.mp hvictim] at hk
    cases hk

/-- The second key is let go as it comes. The first one is named again after it is gone. -/
theorem governed_latestFirst :
    (Faithful fun p : LatestFirst => p.keys.Nodup) ∧ ({} : LatestFirst).keys.Nodup ∧
      BoundedCache.Governed 1 (CacheCall.run BoundedCache.call
        (BoundedCache.empty 1 {} : BoundedCache Nat String LatestFirst)
        [.getOrCreate 1 "a", .getOrCreate 2 "b", .evict 1, .getOrCreate 3 "c",
          .getOrCreate 1 "d"]).2 :=
  ⟨faithful, List.nodup_nil, BoundedCache.governed_of_calls faithful List.nodup_nil 1 _⟩

end LatestFirst

end PoliteCrawl

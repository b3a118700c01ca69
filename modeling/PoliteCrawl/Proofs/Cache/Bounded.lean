import PoliteCrawl.Cache.Bounded

namespace PoliteCrawl.BoundedCache

variable {K V P : Type} [BEq K] [Hashable K] {c : BoundedCache K V P} {k k' : K} {make v : V}

theorem contains_iff [EquivBEq K] [LawfulHashable K] :
    c.contains k = true ↔ ∃ v, c.peek k = some v := by
  rw [contains, peek, Std.HashMap.contains_eq_isSome_getElem?]
  exact Option.isSome_iff_exists

variable [EvictionPolicy P K]

theorem shrink_of_size_le {capacity : Nat} {entries : Std.HashMap K V}
    (h : entries.size ≤ capacity) (fuel : Nat) (policy : P) (evicted : Option (K × V)) :
    shrink capacity fuel entries policy evicted = (entries, policy, evicted) := by
  cases fuel with
  | zero => rfl
  | succ fuel => rw [shrink, if_pos h]

theorem getOrCreate_of_peek (h : c.peek k = some v) (make : V) :
    c.getOrCreate k make =
      (⟨v, false, none⟩, { c with policy := EvictionPolicy.touch c.policy k }) := by
  unfold getOrCreate
  rw [show c.entries[k]? = some v from h]

theorem getOrCreate_value (h : c.peek k = none) (make : V) :
    (c.getOrCreate k make).1.value = make ∧ (c.getOrCreate k make).1.created = true := by
  unfold getOrCreate
  rw [show c.entries[k]? = none from h]
  exact ⟨rfl, rfl⟩

@[simp] theorem capacity_getOrCreate : (c.getOrCreate k make).2.capacity = c.capacity := by
  unfold getOrCreate
  split <;> rfl

variable [EquivBEq K] [LawfulHashable K]

theorem getElem?_of_shrink {capacity fuel : Nat} {entries : Std.HashMap K V} {policy : P}
    {evicted : Option (K × V)}
    (h : (shrink capacity fuel entries policy evicted).1[k]? = some v) : entries[k]? = some v := by
  induction fuel generalizing entries policy evicted with
  | zero => exact h
  | succ fuel ih =>
    unfold shrink at h
    split at h
    · exact h
    · split at h
      · exact h
      · split at h
        · have herase := ih h
          rw [Std.HashMap.getElem?_erase] at herase
          split at herase
          · cases herase
          · exact herase
        · exact ih h

/-- What is in the map after a look-up was there before or is what was looked up. -/
theorem peek_of_getOrCreate (h : (c.getOrCreate k make).2.peek k' = some v) :
    c.peek k' = some v ∨ (k == k') = true ∧ c.peek k = none ∧ v = make := by
  cases hpeek : c.peek k with
  | some old =>
    rw [getOrCreate_of_peek hpeek] at h
    exact .inl h
  | none =>
    unfold getOrCreate at h
    rw [show c.entries[k]? = none from hpeek] at h
    have hinsert := getElem?_of_shrink h
    rw [Std.HashMap.getElem?_insert] at hinsert
    split at hinsert
    · rename_i heq
      cases hinsert
      exact .inr ⟨heq, rfl, rfl⟩
    · exact .inl hinsert

/-- Nothing goes as long as there is room for one more. -/
theorem entries_getOrCreate (hpeek : c.peek k = none) (hroom : c.size < c.capacity) :
    (c.getOrCreate k make).2.entries = c.entries.insert k make := by
  have hsize : (c.entries.insert k make).size ≤ c.capacity :=
    Nat.le_trans Std.HashMap.size_insert_le hroom
  unfold getOrCreate
  rw [show c.entries[k]? = none from hpeek]
  simp only [shrink_of_size_le hsize]

end PoliteCrawl.BoundedCache

import Mathlib.Data.List.Chain
import PoliteCrawl.Politeness.Gate

namespace PoliteCrawl

structure Grant where
  task : Nat
  instant : Nat
  interval : Nat
  deriving DecidableEq, Repr

namespace FetchGate

/-- What a step may make of the gate of a record, and what it stamps on it: no change, a new gate, a
higher interval, or a grant where the gate is open. -/
inductive Follows (base : Nat) : Option FetchGate → Option Nat → Option FetchGate → Prop where
  | same (g? : Option FetchGate) : Follows base g? none g?
  | opens : Follows base none none (some { minInterval := base })
  | raises (g : FetchGate) (interval : Nat) : Follows base (some g) none (some (g.raise interval))
  | grants {g : FetchGate} {instant : Nat}
    (h : ∀ last ∈ g.lastGrant, last + g.minInterval ≤ instant) :
    Follows base (some g) (some instant) (some (g.grant instant))

def gained? (task : Nat) : Option FetchGate → Option FetchGate → Option Grant
  | some g, some g' =>
    if g.grants < g'.grants then g'.lastGrant.map fun instant => ⟨task, instant, g.minInterval⟩
    else none
  | _, _ => none

variable {base task now : Nat} {g? g?' : Option FetchGate} {instant? : Option Nat}

theorem gained?_self (task : Nat) (g? : Option FetchGate) : gained? task g? g? = none := by
  cases g? with
  | none => rfl
  | some g => simp [gained?]

theorem gained?_raise (task : Nat) (g : FetchGate) (interval : Nat) :
    gained? task (some g) (some (g.raise interval)) = none := by
  simp [gained?, raise]

theorem gained?_grant (task : Nat) (g : FetchGate) (instant : Nat) :
    gained? task (some g) (some (g.grant instant)) = some ⟨task, instant, g.minInterval⟩ := by
  simp [gained?, grant]

theorem task_of_gained? {x : Grant} (h : gained? task g? g?' = some x) : x.task = task := by
  unfold gained? at h
  split at h
  · split at h
    · obtain ⟨instant, -, rfl⟩ := Option.map_eq_some_iff.mp h
      rfl
    · cases h
  · cases h

theorem Follows.gained?_isSome (h : Follows base g? instant? g?') (task : Nat) :
    (gained? task g? g?').isSome = instant?.isSome := by
  cases h with
  | same =>
    rw [gained?_self]
    rfl
  | opens => rfl
  | raises g interval =>
    rw [gained?_raise]
    rfl
  | grants =>
    rw [gained?_grant]
    rfl

theorem Follows.gained?_eq {instant : Nat} (h : Follows base g? (some instant) g?') (task : Nat) :
    ∃ interval, gained? task g? g?' = some ⟨task, instant, interval⟩ := by
  cases h with
  | @grants g =>
    rw [gained?_grant]
    exact ⟨g.minInterval, rfl⟩

structure Log (base now : Nat) (g? : Option FetchGate) (grants : List Grant) : Prop where
  unmade : g? = none → grants = []
  count : ∀ g ∈ g?, g.grants = grants.length
  last : ∀ g ∈ g?, g.lastGrant = grants.getLast?.map (·.instant)
  least : ∀ g ∈ g?, base ≤ g.minInterval
  intervals : ∀ x ∈ grants, base ≤ x.interval
  instants : ∀ x ∈ grants, x.instant ≤ now
  spaced : grants.IsChain fun a b => a.instant + b.interval ≤ b.instant

namespace Log

variable {grants : List Grant}

theorem unopened (base now : Nat) : Log base now none [] where
  unmade _ := rfl
  count := by simp
  last := by simp
  least := by simp
  intervals := by simp
  instants := by simp
  spaced := .nil

theorem later {later : Nat} (h : Log base now g? grants) (hle : now ≤ later) :
    Log base later g? grants :=
  { h with instants := fun x hx => Nat.le_trans (h.instants x hx) hle }

/-- The log of a gate goes on with the gate. -/
theorem follows (h : Log base now g? grants) (hf : Follows base g? instant? g?')
    (hnow : ∀ instant ∈ instant?, instant ≤ now) (task : Nat) :
    Log base now g?' (grants ++ (gained? task g? g?').toList) := by
  cases hf with
  | same =>
    rw [gained?_self, Option.toList_none, List.append_nil]
    exact h
  | opens =>
    -- There was no gate before, so there are no grants yet.
    rw [h.unmade rfl]
    refine ⟨by simp, ?_, ?_, ?_, by simp [gained?], by simp [gained?], .nil⟩
    · rintro g ⟨⟩
      rfl
    · rintro g ⟨⟩
      rfl
    · rintro g ⟨⟩
      exact Nat.le_refl _
  | raises g interval =>
    rw [gained?_raise, Option.toList_none, List.append_nil]
    refine ⟨by simp, ?_, ?_, ?_, h.intervals, h.instants, h.spaced⟩
    · rintro g' ⟨⟩
      exact h.count g rfl
    · rintro g' ⟨⟩
      exact h.last g rfl
    · rintro g' ⟨⟩
      exact Nat.le_trans (h.least g rfl) (Nat.le_max_left _ _)
  | grants hopen =>
    rename_i g instant
    rw [gained?_grant, Option.toList_some]
    refine ⟨by simp, ?_, ?_, ?_, ?_, ?_, ?_⟩
    · rintro g' ⟨⟩
      rw [List.length_append, ← h.count g rfl]
      rfl
    · rintro g' ⟨⟩
      simp [grant]
    · rintro g' ⟨⟩
      exact h.least g rfl
    · intro x hx
      rcases List.mem_append.mp hx with hx | hx
      · exact h.intervals x hx
      · rw [List.mem_singleton.mp hx]
        exact h.least g rfl
    · intro x hx
      rcases List.mem_append.mp hx with hx | hx
      · exact h.instants x hx
      · rw [List.mem_singleton.mp hx]
        exact hnow instant rfl
    · refine List.isChain_append.mpr ⟨h.spaced, .singleton _, ?_⟩
      -- The gate was open, so its last grant is at least an interval old.
      intro a ha b hb
      cases hb
      apply hopen
      rw [h.last g rfl]
      exact Option.mem_map_of_mem _ ha

/-- Any two grants are apart by the interval that the gate had at first. -/
theorem pairwise (h : Log base now g? grants) :
    grants.Pairwise fun a b => a.instant + base ≤ b.instant := by
  let R (a b : Grant) : Prop := a.instant + base ≤ b.instant
  have htrans : Trans R R R := ⟨fun {a b c} hab hbc => by
    change a.instant + base ≤ c.instant
    change a.instant + base ≤ b.instant at hab
    change b.instant + base ≤ c.instant at hbc
    omega⟩
  have hchain : grants.IsChain R := by
    refine h.spaced.imp_of_mem_imp fun a b _ hb hab => ?_
    have hbase := h.intervals b hb
    change a.instant + base ≤ b.instant
    omega
  exact hchain.pairwise

end Log

end FetchGate

end PoliteCrawl

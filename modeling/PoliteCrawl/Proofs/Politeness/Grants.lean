import PoliteCrawl.Proofs.Politeness.Wait
import PoliteCrawl.Proofs.Schedule.History

namespace PoliteCrawl

variable {φ σ : Type}

def grantsOn (table : σ → HostTable) (record : Nat) (events : List (Event φ σ)) : List Grant :=
  (acts events).filterMap fun a =>
    FetchGate.gained? a.task ((table a.before.shared).gate? record)
      ((table a.turn.shared).gate? record)

theorem grantsOn_act (table : σ → HostTable) (record : Nat) (events : List (Event φ σ))
    (a : Act φ σ) :
    grantsOn table record (events ++ [.act a]) = grantsOn table record events ++
      (FetchGate.gained? a.task ((table a.before.shared).gate? record)
        ((table a.turn.shared).gate? record)).toList := by
  rw [grantsOn, acts_append, acts_act, List.filterMap_append, grantsOn]
  congr 1

theorem grantsOn_pass (table : σ → HostTable) (record : Nat) (events : List (Event φ σ))
    (c : Configuration φ σ) (later : Nat) :
    grantsOn table record (events ++ [.pass c later]) = grantsOn table record events := by
  rw [grantsOn, acts_append, acts_pass, List.append_nil, grantsOn]

/-- Why tasks may share a table: what each may rely on where it stands, and that it does. -/
structure GateDiscipline (m : Machine φ σ) (table : σ → HostTable) where
  stamp? : φ → Option (Nat × Nat)
  named? : φ → Option String
  Sound : (now task : Nat) → φ → HostTable → Prop
  later : ∀ {now later task phase t}, Sound now task phase t → now ≤ later →
    Sound later task phase t
  advance : ∀ {now task other phase t t' stamp? named?}, Sound now other phase t →
    HostTable.Advance task t stamp? named? t' → other ≠ task → Sound now other phase t'
  stamp_le : ∀ {now task phase t record instant}, Sound now task phase t →
    stamp? phase = some (record, instant) → instant ≤ now
  step : ∀ {now task phase s turn}, m.step now task phase s = some turn →
    Sound now task phase (table s) → (table s).Timely now → (table s).Keyed →
    HostTable.Advance task (table s) (stamp? phase) (named? phase) (table turn.shared) ∧
      Sound now task turn.phase (table turn.shared)
  spawned : ∀ {now task phase s turn}, m.step now task phase s = some turn →
    ∀ phase' ∈ turn.spawned, ∀ other, Sound now other phase' (table turn.shared)

namespace GateDiscipline

variable {m : Machine φ σ} {table : σ → HostTable} (D : GateDiscipline m table)

structure Holds (c : Configuration φ σ) : Prop where
  tasks : ∀ task phase, c.tasks[task]? = some phase → D.Sound c.now task phase (table c.shared)
  timely : (table c.shared).Timely c.now
  keyed : (table c.shared).Keyed

variable {D} {start last c : Configuration φ σ} {events : List (Event φ σ)} {task record : Nat}
  {turn : Turn φ σ} {phase : φ}

theorem Holds.advance (h : D.Holds c) (hphase : c.tasks[task]? = some phase)
    (hstep : m.step c.now task phase c.shared = some turn) :
    HostTable.Advance task (table c.shared) (D.stamp? phase) (D.named? phase) (table turn.shared) :=
  (D.step hstep (h.tasks _ _ hphase) h.timely h.keyed).1

theorem Holds.act (h : D.Holds c) (hstep : m.stepAt c task = some turn) :
    D.Holds (c.after task turn) := by
  obtain ⟨phase, hphase, hturn⟩ := m.stepAt_eq_some hstep
  have hsound := h.tasks _ _ hphase
  obtain ⟨hadvance, hown⟩ := D.step hturn hsound h.timely h.keyed
  refine ⟨?_, ?_, hadvance.keyed h.keyed⟩
  · intro other phase' hphase'
    rcases Configuration.tasks_after hphase' with ⟨rfl, rfl⟩ | ⟨hne, hsame⟩ | ⟨-, hmem⟩
    · exact hown
    · exact D.advance (h.tasks _ _ hsame) hadvance hne
    · exact D.spawned hturn _ hmem other
  · apply hadvance.timely h.timely
    intro record instant hstamp
    exact D.stamp_le hsound hstamp

theorem Holds.pass {later : Nat} (h : D.Holds c) (hle : c.now ≤ later) :
    D.Holds { c with now := later } where
  tasks task phase hphase := D.later (h.tasks task phase hphase) hle
  timely record g hg last hlast := Nat.le_trans (h.timely record g hg last hlast) hle
  keyed := h.keyed

theorem Holds.history (hstart : D.Holds start) (h : m.History start events last) :
    D.Holds last := by
  induction h with
  | refl => exact hstart
  | act _ hstep ih => exact ih.act hstep
  | pass _ hle ih => exact ih.pass hle

theorem Holds.base (hstart : D.Holds start) (h : m.History start events last) :
    (table last.shared).minInterval = (table start.shared).minInterval := by
  induction h with
  | refl => rfl
  | act h hstep ih =>
    obtain ⟨phase, hphase, hturn⟩ := m.stepAt_eq_some hstep
    rw [← ih]
    exact ((hstart.history h).advance hphase hturn).base
  | pass _ _ ih => exact ih

/-- No record is dropped by a run that only looks up hosts for which there is room. -/
theorem Holds.roomy {names : List String} (hstart : D.Holds start)
    (hroomy : (table start.shared).Roomy names) (h : m.History start events last)
    (hnamed : ∀ a ∈ acts events, ∀ phase, a.phase? = some phase → ∀ key ∈ D.named? phase,
      key ∈ names) :
    (table last.shared).Roomy names := by
  induction h with
  | refl => exact hroomy
  | @act c events task turn h hstep ih =>
    obtain ⟨phase, hphase, hturn⟩ := m.stepAt_eq_some hstep
    apply ((hstart.history h).advance hphase hturn).roomy
    · exact hnamed ⟨c, task, turn⟩ (by simp) phase hphase
    · apply ih
      intro a ha
      apply hnamed a
      rw [acts_append]
      exact List.mem_append_left _ ha
  | pass _ _ ih =>
    apply ih
    intro a ha
    apply hnamed a
    rw [acts_append]
    exact List.mem_append_left _ ha

/-- The gate of a record that a run makes tells of the grants of the run. -/
theorem Holds.log (hstart : D.Holds start) (hempty : (table start.shared).records = [])
    (h : m.History start events last) (record : Nat) :
    FetchGate.Log (table start.shared).minInterval last.now ((table last.shared).gate? record)
      (grantsOn table record events) := by
  induction h with
  | refl =>
    rw [HostTable.gate?, hempty]
    exact .unopened _ _
  | act h hstep ih =>
    obtain ⟨phase, hphase, hturn⟩ := m.stepAt_eq_some hstep
    have hholds := hstart.history h
    have hfollows := (hholds.advance hphase hturn).follows record
    rw [hstart.base h] at hfollows
    rw [grantsOn_act]
    apply ih.follows hfollows
    intro instant hinstant
    exact D.stamp_le (hholds.tasks _ _ hphase) (HostTable.stampOn_eq_some hinstant)
  | pass _ hle ih =>
    rw [grantsOn_pass]
    exact ih.later hle

/-- A grant is stamped by a step of the task that got it. -/
theorem Holds.act_of_mem_grantsOn {g : Grant} (hstart : D.Holds start)
    (h : m.History start events last) (hg : g ∈ grantsOn table record events) :
    ∃ a ∈ acts events, a.task = g.task ∧ ∃ phase, a.phase? = some phase ∧
      ∃ instant, D.stamp? phase = some (record, instant) := by
  obtain ⟨a, ha, hgained⟩ := List.mem_filterMap.mp hg
  refine ⟨a, ha, (FetchGate.task_of_gained? hgained).symm, ?_⟩
  obtain ⟨earlier, hearlier, hstep⟩ := h.before_of_mem ha
  obtain ⟨phase, hphase, hturn⟩ := m.stepAt_eq_some hstep
  have hfollows := ((hstart.history hearlier).advance hphase hturn).follows record
  have hsome := hfollows.gained?_isSome a.task
  rw [hgained, Option.isSome_some] at hsome
  obtain ⟨instant, hinstant⟩ := Option.isSome_iff_exists.mp hsome.symm
  exact ⟨phase, hphase, instant, HostTable.stampOn_eq_some hinstant⟩

end GateDiscipline

end PoliteCrawl

import PoliteCrawl.Proofs.Jitter
import PoliteCrawl.Proofs.Schedule.History

namespace PoliteCrawl

variable {φ σ : Type}

def actsOf (i : Nat) (events : List (Event φ σ)) : List (Act φ σ) :=
  (acts events).filter (·.task = i)

namespace Machine

variable (m : Machine φ σ)

/-- Time only passed when no task could go on, and up to the next alarm at most. -/
def Punctual (events : List (Event φ σ)) : Prop :=
  ∀ c later, Event.pass c later ∈ events → m.Idle c ∧ Time.IsWhole later ∧
    ∀ phase ∈ c.tasks, ∀ alarm ∈ m.alarms phase, c.now < alarm →
      later ≤ Time.ofMillis (Time.ringing alarm)

def isPunctual (events : List (Event φ σ)) : Bool :=
  events.all fun
    | .act _ => true
    | .pass c later => m.isIdle c && later % Time.milli == 0 && c.tasks.all fun phase =>
        (m.alarms phase).all fun alarm =>
          alarm ≤ c.now || later ≤ Time.ofMillis (Time.ringing alarm)

theorem punctual_of_isPunctual {events : List (Event φ σ)} (h : m.isPunctual events = true) :
    m.Punctual events := by
  intro c later hmem
  have hpass := List.all_eq_true.mp h _ hmem
  simp only [Bool.and_eq_true, beq_iff_eq, List.all_eq_true, Bool.or_eq_true,
    decide_eq_true_eq] at hpass
  obtain ⟨⟨hidle, hwhole⟩, halarms⟩ := hpass
  refine ⟨m.idle_of_isIdle hidle, ⟨later / Time.milli, ?_⟩, fun phase hphase alarm halarm hlt => ?_⟩
  · exact (Nat.div_mul_cancel (Nat.dvd_of_mod_eq_zero hwhole)).symm
  · exact (halarms phase hphase alarm halarm).resolve_left (Nat.not_le_of_lt hlt)

variable {m} {start c last : Configuration φ σ} {events more : List (Event φ σ)} {i : Nat}

theorem Punctual.of_append (h : m.Punctual (events ++ more)) : m.Punctual events :=
  fun c later hmem => h c later (List.mem_append_left more hmem)

theorem Punctual.append (h : m.Punctual events) (h' : m.Punctual more) :
    m.Punctual (events ++ more) := by
  intro c later hmem
  rcases List.mem_append.mp hmem with hmem | hmem
  · exact h c later hmem
  · exact h' c later hmem

theorem punctual_act (a : Act φ σ) : m.Punctual [.act a] := by
  intro c later hmem
  cases List.mem_singleton.mp hmem

theorem Punctual.prompt (h : m.Punctual events) : m.Prompt events :=
  fun c later hmem => (h c later hmem).1

theorem History.isWhole_now (h : m.History start events last) (hpunctual : m.Punctual events)
    (hstart : Time.IsWhole start.now) : Time.IsWhole last.now := by
  induction h with
  | refl => exact hstart
  | act _ _ ih => exact ih hpunctual.of_append
  | pass => exact (hpunctual _ _ (List.mem_append_right _ List.mem_cons_self)).2.1

/-- What holds of a task in the beginning holds of it in the end, together with the steps that it
has taken, if its own steps preserve it and so does time up to the alarms that it has set. -/
theorem History.follows {P : Nat → φ → List (Act φ σ) → Prop} (h : m.History start events last)
    (hpunctual : m.Punctual events) {first : φ} (hfirst : start.tasks[i]? = some first)
    (hstart : P start.now first [])
    (hstep : ∀ {earlier c phase own turn}, m.History start earlier c →
      m.step c.now i phase c.shared = some turn → P c.now phase own →
      P c.now turn.phase (own ++ [⟨c, i, turn⟩]))
    (hpass : ∀ {c : Configuration φ σ} {phase own later}, m.step c.now i phase c.shared = none →
      c.now ≤ later →
      (∀ alarm ∈ m.alarms phase, c.now < alarm → later ≤ Time.ofMillis (Time.ringing alarm)) →
      P c.now phase own → P later phase own) :
    ∃ phase, last.tasks[i]? = some phase ∧ P last.now phase (actsOf i events) := by
  -- on the run: steps of other tasks leave this one where it stands
  induction h with
  | refl => exact ⟨first, hfirst, hstart⟩
  | @act c earlier task turn h hturn ih =>
    obtain ⟨phase, hphase, hP⟩ := ih hpunctual.of_append
    rw [actsOf, acts_append, acts_act, List.filter_append]
    by_cases htask : task = i
    · subst htask
      obtain ⟨phase', hphase', hturn'⟩ := m.stepAt_eq_some hturn
      cases hphase.symm.trans hphase'
      refine ⟨_, Configuration.tasks_after_self hphase, ?_⟩
      rw [List.filter_cons_of_pos (by simp)]
      exact hstep h hturn' hP
    · refine ⟨phase, Configuration.tasks_after_of_ne hphase (Ne.symm htask), ?_⟩
      rw [List.filter_cons_of_neg (by simpa using htask), List.filter_nil, List.append_nil]
      exact hP
  | @pass c earlier later h hle ih =>
    obtain ⟨phase, hphase, hP⟩ := ih hpunctual.of_append
    obtain ⟨hidle, -, halarms⟩ := hpunctual _ _ (List.mem_append_right _ List.mem_cons_self)
    refine ⟨phase, hphase, ?_⟩
    rw [actsOf, acts_append, acts_pass, List.append_nil]
    exact hpass (hidle.step_eq_none hphase) hle (halarms phase (List.mem_of_getElem? hphase)) hP

section Effort

variable {effort : Nat → φ → Nat}
  (heffort : ∀ {now task phase s turn}, m.step now task phase s = some turn →
    effort now turn.phase < effort now phase ∧ turn.spawned = [])

def total (f : φ → Nat) : List φ → Nat
  | [] => 0
  | phase :: tasks => f phase + total f tasks

theorem total_set_lt {f : φ → Nat} {tasks : List φ} {task : Nat} {phase phase' : φ}
    (hphase : tasks[task]? = some phase) (hlt : f phase' < f phase) :
    total f (tasks.set task phase') < total f tasks := by
  induction tasks generalizing task with
  | nil => cases hphase
  | cons head tail ih =>
    cases task with
    | zero =>
      cases hphase
      simp only [List.set_cons_zero, total]
      omega
    | succ task =>
      have hless := ih hphase
      simp only [List.set_cons_succ, total]
      omega

include heffort in
/-- Tasks that get nearer to their ends by each step come to a halt. -/
theorem exists_idle (c : Configuration φ σ) :
    ∃ events last, m.History c events last ∧ m.Punctual events ∧ m.Idle last ∧
      last.now = c.now := by
  induction hleft : total (effort c.now) c.tasks using Nat.strongRecOn generalizing c with
  | ind left ih =>
    by_cases hidle : m.Idle c
    · exact ⟨[], c, .refl c, nofun, hidle, rfl⟩
    · obtain ⟨task, hsome⟩ := not_forall.mp hidle
      obtain ⟨turn, hturn⟩ := Option.ne_none_iff_exists'.mp hsome
      obtain ⟨phase, hphase, hstep⟩ := m.stepAt_eq_some hturn
      obtain ⟨hless, hspawned⟩ := heffort hstep
      have hleft' : total (effort c.now) (c.after task turn).tasks < left := by
        rw [Configuration.after, hspawned, List.append_nil, ← hleft]
        exact total_set_lt hphase hless
      obtain ⟨events, last, hhistory, hpunctual, hlast⟩ := ih _ hleft' (c.after task turn) rfl
      exact ⟨_, last, ((History.refl c).act hturn).trans hhistory,
        (punctual_act _).append hpunctual, hlast⟩

include heffort in
/-- Time can go on. -/
theorem exists_later (hwhole : Time.IsWhole c.now) (instant : Nat) :
    ∃ events last, m.History c events last ∧ m.Punctual events ∧ instant < last.now := by
  induction hleft : instant + 1 - c.now using Nat.strongRecOn generalizing c with
  | ind left ih =>
    by_cases hlater : instant < c.now
    · exact ⟨[], c, .refl c, nofun, hlater⟩
    · obtain ⟨events, halt, hhistory, hpunctual, hidle, hnow⟩ := exists_idle heffort c
      have hmilli : Time.IsWhole (halt.now + Time.milli) := by
        rw [hnow]
        exact hwhole.add ⟨1, (Nat.one_mul _).symm⟩
      have hpos : 0 < Time.milli := by decide
      obtain ⟨more, last, hmore, hpunctual', hlast⟩ :=
        ih (instant + 1 - (halt.now + Time.milli)) (by omega)
          (c := { halt with now := halt.now + Time.milli }) hmilli rfl
      have hpass : m.Punctual [.pass halt (halt.now + Time.milli)] := by
        intro c' later hmem
        cases List.mem_singleton.mp hmem
        refine ⟨hidle, hmilli, fun phase _ alarm _ halarm => ?_⟩
        rw [hnow] at halarm ⊢
        exact hwhole.add_milli_le halarm
      exact ⟨_, last, (hhistory.pass (Nat.le_add_right _ _)).trans hmore,
        (hpunctual.append hpass).append hpunctual', hlast⟩

end Effort

end Machine

end PoliteCrawl

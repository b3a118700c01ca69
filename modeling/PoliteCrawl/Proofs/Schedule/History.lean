import Mathlib.Data.List.Pairwise
import PoliteCrawl.Schedule.Machine

namespace PoliteCrawl

structure Act (φ σ : Type) where
  before : Configuration φ σ
  task : Nat
  turn : Turn φ σ

inductive Event (φ σ : Type) where
  | act (act : Act φ σ)
  | pass (before : Configuration φ σ) (later : Nat)

variable {φ σ : Type}

def Act.phase? (a : Act φ σ) : Option φ := a.before.tasks[a.task]?

def acts (events : List (Event φ σ)) : List (Act φ σ) :=
  events.filterMap fun
    | .act a => some a
    | .pass .. => none

@[simp] theorem acts_nil : acts ([] : List (Event φ σ)) = [] := rfl

@[simp] theorem acts_append (xs ys : List (Event φ σ)) : acts (xs ++ ys) = acts xs ++ acts ys :=
  List.filterMap_append

@[simp] theorem acts_act (a : Act φ σ) : acts [Event.act a] = [a] := rfl

@[simp] theorem acts_pass (c : Configuration φ σ) (later : Nat) : acts [Event.pass c later] = [] :=
  rfl

namespace Configuration

variable {c : Configuration φ σ} {task i : Nat} {turn : Turn φ σ} {phase : φ}

/-- A task of a configuration after a step took that step, was there before, or is new. -/
theorem tasks_after (h : (c.after task turn).tasks[i]? = some phase) :
    (i = task ∧ phase = turn.phase) ∨ (i ≠ task ∧ c.tasks[i]? = some phase) ∨
      (c.tasks.length ≤ i ∧ phase ∈ turn.spawned) := by
  simp only [after, List.getElem?_append, List.length_set] at h
  split at h
  · rename_i hlt
    rw [List.getElem?_set] at h
    split at h
    · rename_i heq
      subst heq
      rw [if_pos hlt] at h
      cases h
      exact .inl ⟨rfl, rfl⟩
    · rename_i hne
      exact .inr (.inl ⟨fun heq => hne heq.symm, h⟩)
  · rename_i hge
    exact .inr (.inr ⟨Nat.le_of_not_lt hge, List.mem_of_getElem? h⟩)

theorem tasks_after_self (h : c.tasks[task]? = some phase) :
    (c.after task turn).tasks[task]? = some turn.phase := by
  have hlt := (List.getElem?_eq_some_iff.mp h).1
  rw [after, List.getElem?_append_left (by simpa using hlt), List.getElem?_set_self hlt]

/-- A step of a task leaves the others where they stand. -/
theorem tasks_after_of_ne (h : c.tasks[i]? = some phase) (hne : i ≠ task) :
    (c.after task turn).tasks[i]? = some phase := by
  have hlt := (List.getElem?_eq_some_iff.mp h).1
  rw [after, List.getElem?_append_left (by simpa using hlt), List.getElem?_set_ne hne.symm, h]

/-- What is read off a task stays if new tasks have nothing to read off. -/
theorem bind_after_of_ne {β : Type} {f : φ → Option β}
    (hspawned : ∀ phase ∈ turn.spawned, f phase = none) (hne : i ≠ task) :
    (c.after task turn).tasks[i]?.bind f = c.tasks[i]?.bind f := by
  cases hafter : (c.after task turn).tasks[i]? with
  | none =>
    have hle := List.getElem?_eq_none_iff.mp hafter
    rw [after, List.length_append, List.length_set] at hle
    rw [List.getElem?_eq_none (by omega)]
  | some phase =>
    rcases tasks_after hafter with ⟨heq, -⟩ | ⟨-, hsame⟩ | ⟨hnew, hmem⟩
    · exact absurd heq hne
    · rw [hsame]
    · rw [List.getElem?_eq_none hnew]
      exact hspawned phase hmem

theorem tasks_after_eq (hspawned : turn.spawned = []) (hne : i ≠ task) :
    (c.after task turn).tasks[i]? = c.tasks[i]? := by
  rw [after, hspawned, List.append_nil, List.getElem?_set_ne hne.symm]

end Configuration

namespace Machine

variable (m : Machine φ σ)

theorem stepAt_eq_some {c : Configuration φ σ} {task : Nat} {turn : Turn φ σ}
    (h : m.stepAt c task = some turn) :
    ∃ phase, c.tasks[task]? = some phase ∧ m.step c.now task phase c.shared = some turn :=
  Option.bind_eq_some_iff.mp h

/-- The events, in their order, that lead from one configuration to another. -/
inductive History : Configuration φ σ → List (Event φ σ) → Configuration φ σ → Prop where
  | refl (c : Configuration φ σ) : History c [] c
  | act {start c : Configuration φ σ} {events : List (Event φ σ)} {task : Nat} {turn : Turn φ σ}
    (h : History start events c) (hstep : m.stepAt c task = some turn) :
    History start (events ++ [.act ⟨c, task, turn⟩]) (c.after task turn)
  | pass {start c : Configuration φ σ} {events : List (Event φ σ)} {later : Nat}
    (h : History start events c) (hle : c.now ≤ later) :
    History start (events ++ [.pass c later]) { c with now := later }

theorem steps_iff_history {start last : Configuration φ σ} :
    m.Steps start last ↔ ∃ events, m.History start events last := by
  constructor
  · intro h
    induction h with
    | refl => exact ⟨[], .refl _⟩
    | tail _ hstep ih =>
      obtain ⟨events, h⟩ := ih
      cases hstep with
      | act hact => exact ⟨_, h.act hact⟩
      | pass hle => exact ⟨_, h.pass hle⟩
  · rintro ⟨events, h⟩
    induction h with
    | refl => exact .refl _
    | act _ hstep ih => exact ih.tail (.act hstep)
    | pass _ hle ih => exact ih.tail (.pass hle)

variable {m} in
theorem Steps.trans {a b c : Configuration φ σ} (h : m.Steps a b) (h' : m.Steps b c) :
    m.Steps a c := by
  induction h' with
  | refl => exact h
  | tail _ hstep ih => exact ih.tail hstep

def Idle (c : Configuration φ σ) : Prop := ∀ task, m.stepAt c task = none

def isIdle (c : Configuration φ σ) : Bool :=
  (List.range c.tasks.length).all fun task => (m.stepAt c task).isNone

theorem idle_of_isIdle {c : Configuration φ σ} (h : m.isIdle c = true) : m.Idle c := by
  intro task
  by_cases hlt : task < c.tasks.length
  · exact Option.isNone_iff_eq_none.mp (List.all_eq_true.mp h task (List.mem_range.mpr hlt))
  · rw [stepAt, List.getElem?_eq_none (Nat.le_of_not_lt hlt)]
    rfl

variable {m} in
theorem Idle.step_eq_none {c : Configuration φ σ} {i : Nat} {phase : φ} (h : m.Idle c)
    (hphase : c.tasks[i]? = some phase) : m.step c.now i phase c.shared = none := by
  have hstuck := h i
  rwa [stepAt, hphase] at hstuck

/-- Time only passed when no task could go on. -/
def Prompt (events : List (Event φ σ)) : Prop :=
  ∀ c later, Event.pass c later ∈ events → m.Idle c

/-- A run on a plan: which task goes next, if it can, or how long nothing happens, if no task can
go on. -/
def follow (c : Configuration φ σ) (events : List (Event φ σ)) :
    List (Nat ⊕ Nat) → List (Event φ σ) × Configuration φ σ
  | [] => (events, c)
  | .inl task :: moves =>
    match m.stepAt c task with
    | some turn => follow (c.after task turn) (events ++ [.act ⟨c, task, turn⟩]) moves
    | none => follow c events moves
  | .inr span :: moves =>
    if m.isIdle c then
      follow { c with now := c.now + span } (events ++ [.pass c (c.now + span)]) moves
    else follow c events moves

theorem history_follow {start c : Configuration φ σ} {events : List (Event φ σ)}
    (h : m.History start events c) (moves : List (Nat ⊕ Nat)) :
    m.History start (m.follow c events moves).1 (m.follow c events moves).2 := by
  induction moves generalizing c events with
  | nil => exact h
  | cons move moves ih =>
    cases move with
    | inl task =>
      unfold follow
      split
      · rename_i turn hstep
        exact ih (h.act hstep)
      · exact ih h
    | inr span =>
      unfold follow
      split
      · exact ih (h.pass (Nat.le_add_right _ _))
      · exact ih h

theorem prompt_follow {c : Configuration φ σ} {events : List (Event φ σ)} (h : m.Prompt events)
    (moves : List (Nat ⊕ Nat)) : m.Prompt (m.follow c events moves).1 := by
  induction moves generalizing c events with
  | nil => exact h
  | cons move moves ih =>
    cases move with
    | inl task =>
      unfold follow
      split
      · apply ih
        intro c' later hmem
        exact h c' later (by simpa using hmem)
      · exact ih h
    | inr span =>
      unfold follow
      split
      · rename_i hidle
        apply ih
        intro c' later hmem
        rcases List.mem_append.mp hmem with hmem | hmem
        · exact h c' later hmem
        · cases List.mem_singleton.mp hmem
          exact m.idle_of_isIdle hidle
      · exact ih h

variable {m} {start last : Configuration φ σ} {events : List (Event φ σ)}

theorem Prompt.of_append {more : List (Event φ σ)} (h : m.Prompt (events ++ more)) :
    m.Prompt events :=
  fun c later hmem => h c later (List.mem_append_left more hmem)

theorem Prompt.idle {c : Configuration φ σ} {later : Nat}
    (h : m.Prompt (events ++ [.pass c later])) : m.Idle c :=
  h c later (by simp)

theorem History.trans {c : Configuration φ σ} {more : List (Event φ σ)}
    (h : m.History start events c) (h' : m.History c more last) :
    m.History start (events ++ more) last := by
  induction h' with
  | refl =>
    rw [List.append_nil]
    exact h
  | act _ hstep ih =>
    rw [← List.append_assoc]
    exact ih.act hstep
  | pass _ hle ih =>
    rw [← List.append_assoc]
    exact ih.pass hle

/-- What went before a step that was taken. -/
theorem History.before_of_mem {a : Act φ σ} (h : m.History start events last)
    (ha : a ∈ acts events) :
    ∃ earlier, m.History start earlier a.before ∧ m.stepAt a.before a.task = some a.turn := by
  induction h with
  | refl => cases ha
  | act h hstep ih =>
    rw [acts_append, List.mem_append, acts_act, List.mem_singleton] at ha
    rcases ha with ha | rfl
    · exact ih ha
    · exact ⟨_, h, hstep⟩
  | pass _ _ ih =>
    rw [acts_append, acts_pass, List.append_nil] at ha
    exact ih ha

/-- What went before a step, by its place among the events. -/
theorem History.split {a : Act φ σ} {earlier later : List (Event φ σ)}
    (h : m.History start (earlier ++ .act a :: later) last) :
    m.History start earlier a.before ∧ m.stepAt a.before a.task = some a.turn := by
  generalize hevents : earlier ++ .act a :: later = events at h
  induction h generalizing later with
  | refl => simp at hevents
  | act h hstep ih =>
    rcases List.eq_nil_or_concat later with rfl | ⟨later, event, rfl⟩
    · obtain ⟨rfl, hact⟩ := List.append_inj' hevents rfl
      cases hact
      exact ⟨h, hstep⟩
    · apply ih
      rw [List.concat_eq_append, ← List.cons_append, ← List.append_assoc] at hevents
      exact (List.append_inj' hevents rfl).1
  | pass h hle ih =>
    rcases List.eq_nil_or_concat later with rfl | ⟨later, event, rfl⟩
    · cases (List.append_inj' hevents rfl).2
    · apply ih
      rw [List.concat_eq_append, ← List.cons_append, ← List.append_assoc] at hevents
      exact (List.append_inj' hevents rfl).1

/-- Where a task takes a step from `P`, in whatever run from some start, it gets to `Q`. -/
def Brings (m : Machine φ σ) (start : Configuration φ σ) (P Q : φ → Prop) : Prop :=
  ∀ {events : List (Event φ σ)} {c : Configuration φ σ} {task : Nat} {turn : Turn φ σ} {phase : φ},
    m.History start events c → m.stepAt c task = some turn → c.tasks[task]? = some phase →
      P phase → Q turn.phase

variable {P Q X Y : φ → Prop}

/-- What goes on to hold of a task holds of it in the end if it ever came to hold. -/
theorem History.stands (hP : m.Brings start P P) (h : m.History start events last) {a : Act φ σ}
    (ha : a ∈ acts events) (hPa : P a.turn.phase) :
    ∃ phase, last.tasks[a.task]? = some phase ∧ P phase := by
  induction h with
  | refl => cases ha
  | @act c events task turn h hstep ih =>
    rcases List.mem_append.mp (acts_append _ _ ▸ ha) with ha | ha
    · obtain ⟨phase, hphase, hPphase⟩ := ih ha
      by_cases htask : a.task = task
      · subst htask
        exact ⟨_, Configuration.tasks_after_self hphase, hP h hstep hphase hPphase⟩
      · exact ⟨phase, Configuration.tasks_after_of_ne hphase htask, hPphase⟩
    · obtain ⟨before, hbefore, -⟩ := m.stepAt_eq_some hstep
      cases List.mem_singleton.mp ha
      exact ⟨_, Configuration.tasks_after_self hbefore, hPa⟩
  | pass _ _ ih =>
    rw [acts_append, acts_pass, List.append_nil] at ha
    exact ih ha

/-- What goes on to hold of a task does so wherever the task takes a step later. -/
theorem History.lasting (hP : m.Brings start P P) (h : m.History start events last) :
    (acts events).Pairwise fun a b => a.task = b.task → P a.turn.phase →
      ∃ phase, b.phase? = some phase ∧ P phase := by
  induction h with
  | refl => exact .nil
  | act h hstep ih =>
    rw [acts_append, acts_act]
    refine List.pairwise_append.mpr ⟨ih, List.pairwise_singleton _ _, ?_⟩
    intro a ha b hb htask hPa
    cases List.mem_singleton.mp hb
    obtain ⟨phase, hphase, hPphase⟩ := h.stands hP ha hPa
    exact ⟨phase, by rw [Act.phase?, ← htask]; exact hphase, hPphase⟩
  | pass _ _ ih =>
    rw [acts_append, acts_pass, List.append_nil]
    exact ih

/-- Of two steps of a task, the later one sets out from where the task has come since the earlier
one. -/
theorem History.before_or_after (hP : m.Brings start P P) (hQ : m.Brings start Q Q)
    (h : m.History start events last) {a b : Act φ σ} (ha : a ∈ acts events) (hb : b ∈ acts events)
    (htask : a.task = b.task) :
    a = b ∨ (P a.turn.phase → ∃ phase, b.phase? = some phase ∧ P phase) ∨
      (Q b.turn.phase → ∃ phase, a.phase? = some phase ∧ Q phase) := by
  let S (a b : Act φ σ) : Prop :=
    a = b ∨ (P a.turn.phase → ∃ phase, b.phase? = some phase ∧ P phase) ∨
      (Q b.turn.phase → ∃ phase, a.phase? = some phase ∧ Q phase)
  let R (a b : Act φ σ) : Prop := a.task = b.task → S a b ∧ S b a
  have hsymm : Std.Symm R := ⟨fun a b hR htask => (hR htask.symm).symm⟩
  have hself : ∀ a ∈ acts events, R a a := fun a _ _ => ⟨.inl rfl, .inl rfl⟩
  have hpairwise : (acts events).Pairwise R := by
    refine ((h.lasting hP).and (h.lasting hQ)).imp ?_
    rintro a b ⟨hPlasts, hQlasts⟩ htask
    exact ⟨.inr (.inl (hPlasts htask)), .inr (.inr (hQlasts htask))⟩
  exact (List.Pairwise.forall_of_forall hself hpairwise ha hb htask).1

/-- A task does not take steps of two kinds if after either it is where the other is not taken. -/
theorem History.exclusive (hX : m.Brings start X P) (hP : m.Brings start P P)
    (hY : m.Brings start Y Q) (hQ : m.Brings start Q Q) (hXY : ∀ phase, X phase → ¬ Y phase)
    (hPY : ∀ phase, P phase → ¬ Y phase) (hQX : ∀ phase, Q phase → ¬ X phase)
    (h : m.History start events last) {a b : Act φ σ} (ha : a ∈ acts events) (hb : b ∈ acts events)
    (htask : a.task = b.task) {phase phase' : φ} (hphase : a.phase? = some phase)
    (hphase' : b.phase? = some phase') (hXa : X phase) : ¬ Y phase' := by
  intro hYb
  obtain ⟨_, hearlier, hstep⟩ := h.before_of_mem ha
  obtain ⟨_, hearlier', hstep'⟩ := h.before_of_mem hb
  rcases h.before_or_after hP hQ ha hb htask with rfl | hPlasts | hQlasts
  · rw [hphase] at hphase'
    cases hphase'
    exact hXY phase hXa hYb
  · obtain ⟨_, heq, hPb⟩ := hPlasts (hX hearlier hstep hphase hXa)
    rw [hphase'] at heq
    cases heq
    exact hPY phase' hPb hYb
  · obtain ⟨_, heq, hQa⟩ := hQlasts (hY hearlier' hstep' hphase' hYb)
    rw [hphase] at heq
    cases heq
    exact hQX phase hQa hXa

/-- A step of a task does not lead where no step of the other kind is taken any more, if a task that
took one is not led there. -/
theorem History.never (hP : m.Brings start P P) (hY : m.Brings start Y Q) (hQ : m.Brings start Q Q)
    (hXP : ∀ phase, X phase → P phase) (hPY : ∀ phase, P phase → ¬ Y phase)
    (hQX : ∀ phase, Q phase → ¬ X phase) (h : m.History start events last) {a b : Act φ σ}
    (ha : a ∈ acts events) (hb : b ∈ acts events) (htask : a.task = b.task) (hXa : X a.turn.phase)
    {phase : φ} (hphase : b.phase? = some phase) : ¬ Y phase := by
  intro hYb
  obtain ⟨_, hearlier, hstep⟩ := h.before_of_mem ha
  obtain ⟨_, hearlier', hstep'⟩ := h.before_of_mem hb
  rcases h.before_or_after hP hQ ha hb htask with rfl | hPlasts | hQlasts
  · exact hQX _ (hY hearlier hstep hphase hYb) hXa
  · obtain ⟨_, heq, hPb⟩ := hPlasts (hXP _ hXa)
    rw [hphase] at heq
    cases heq
    exact hPY phase hPb hYb
  · obtain ⟨_, hbefore, hQa⟩ := hQlasts (hY hearlier' hstep' hphase hYb)
    exact hQX _ (hQ hearlier hstep hbefore hQa) hXa

end Machine

end PoliteCrawl

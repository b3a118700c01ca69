import PoliteCrawl.Proofs.Politeness.Robots
import PoliteCrawl.Proofs.Schedule.History

namespace PoliteCrawl

/-- What a step of a task does about a look-up, which is part of the task before the step, after it
or both. -/
inductive LookupMove (now task : Nat) (t t' : HostTable) :
    Option LookupPhase → Option LookupPhase → Prop where
  | looks {lookup : LookupPhase} {next : Progress LookupPhase HostTable}
    (h : lookup.step now task t = some next) (ht : t' = next.shared) :
    LookupMove now task t t' (some lookup) (some next.phase)
  | begins (host : String) (h : t.Heeds task none (fun _ => none) t') :
    LookupMove now task t t' none (some (.start host))
  | keeps (outcome : Option Robots) (h : t.Heeds task none (fun _ => none) t') :
    LookupMove now task t t' (some (.finished outcome)) (some (.finished outcome))
  | ends (outcome : Option Robots) (h : t.Heeds task none (fun _ => none) t') :
    LookupMove now task t t' (some (.finished outcome)) none
  | idles (h : t.Heeds task none (fun _ => none) t') : LookupMove now task t t' none none

namespace LookupMove

variable {now task : Nat} {t t' : HostTable} {lookup? lookup?' : Option LookupPhase}

def stores (lookup? : Option LookupPhase) (record : Nat) : Option (Option Robots) :=
  lookup?.bind (·.stores record)

theorem heeds (h : LookupMove now task t t' lookup? lookup?')
    (hsure : ∀ lookup ∈ lookup?, lookup.Sure task t) :
    t.Heeds task (lookup?.bind (·.inquiry? now task t)) (stores lookup?) t' := by
  cases h with
  | looks h ht =>
    subst ht
    exact ((LookupPhase.leads_of_step h).sure (hsure _ rfl)).1
  | begins host h | keeps outcome h | ends outcome h | idles h => exact h

theorem sure (h : LookupMove now task t t' lookup? lookup?')
    (hsure : ∀ lookup ∈ lookup?, lookup.Sure task t) : ∀ lookup ∈ lookup?', lookup.Sure task t' := by
  cases h with
  | looks h ht =>
    rintro _ ⟨⟩
    subst ht
    exact ((LookupPhase.leads_of_step h).sure (hsure _ rfl)).2
  | begins | keeps =>
    rintro _ ⟨⟩
    trivial
  | ends | idles =>
    rintro _ ⟨⟩

theorem opens {q : Inquiry} (h : LookupMove now task t t' lookup? lookup?')
    (hq : lookup?.bind (·.inquiry? now task t) = some q) :
    lookup?'.bind (·.pending?) = some (q.record, q.outcome) := by
  cases h with
  | looks h => exact (LookupPhase.leads_of_step h).opens hq
  | _ => cases hq

theorem pending?_or {record : Nat} {outcome : Option Robots}
    (h : LookupMove now task t t' lookup? lookup?')
    (hpending : lookup?'.bind (·.pending?) = some (record, outcome)) :
    lookup?.bind (·.pending?) = some (record, outcome) ∨
      ∃ q, lookup?.bind (·.inquiry? now task t) = some q ∧ q.record = record ∧
        q.outcome = outcome := by
  cases h with
  | looks h => exact (LookupPhase.leads_of_step h).pending?_or hpending
  | _ => cases hpending

theorem settles {record : Nat} {outcome : Option Robots}
    (h : LookupMove now task t t' lookup? lookup?')
    (hsure : ∀ lookup ∈ lookup?, lookup.Sure task t)
    (hpending : lookup?.bind (·.pending?) = some (record, outcome)) :
    lookup?'.bind (·.pending?) = some (record, outcome) ∨ t'.outcome record = some outcome := by
  cases h with
  | looks h ht =>
    subst ht
    exact (LookupPhase.leads_of_step h).settles (hsure _ rfl) hpending
  | _ => cases hpending

end LookupMove

variable {φ σ : Type}

/-- Why tasks may share what is known of robots files: each looks them up as a look-up does, and
leaves them alone otherwise. -/
structure RobotsDiscipline (m : Machine φ σ) (table : σ → HostTable) where
  lookup? : φ → Option LookupPhase
  step : ∀ {now task phase s turn}, m.step now task phase s = some turn →
    LookupMove now task (table s) (table turn.shared) (lookup? phase) (lookup? turn.phase)
  spawned : ∀ {now task phase s turn}, m.step now task phase s = some turn →
    ∀ phase' ∈ turn.spawned, lookup? phase' = none

namespace RobotsDiscipline

variable {m : Machine φ σ} {table : σ → HostTable} (D : RobotsDiscipline m table)

def inquiry? (a : Act φ σ) : Option Inquiry :=
  (a.phase?.bind D.lookup?).bind (·.inquiry? a.before.now a.task (table a.before.shared))

def inquiries (events : List (Event φ σ)) : List Inquiry := (acts events).filterMap D.inquiry?

theorem inquiries_act (events : List (Event φ σ)) (a : Act φ σ) :
    D.inquiries (events ++ [.act a]) = D.inquiries events ++ (D.inquiry? a).toList := by
  rw [inquiries, acts_append, acts_act, List.filterMap_append, inquiries]
  congr 1

theorem inquiries_pass (events : List (Event φ σ)) (c : Configuration φ σ) (later : Nat) :
    D.inquiries (events ++ [.pass c later]) = D.inquiries events := by
  rw [inquiries, acts_append, acts_pass, List.append_nil, inquiries]

def lookupAt? (c : Configuration φ σ) (task : Nat) : Option LookupPhase :=
  c.tasks[task]?.bind D.lookup?

def pendingAt? (c : Configuration φ σ) (task : Nat) : Option (Nat × Option Robots) :=
  (D.lookupAt? c task).bind (·.pending?)

/-- What is known of robots files in a configuration is what was answered to questions of which no
two are about one record. -/
structure Holds (c : Configuration φ σ) (known : List Inquiry) : Prop where
  sure : ∀ task, ∀ lookup ∈ D.lookupAt? c task, lookup.Sure task (table c.shared)
  hosts : ∀ q ∈ known, (table c.shared).hostAt? q.record = some q.host
  answers : ∀ q ∈ known, ∃ earlier, q.answer = ((table c.shared).service earlier q.host).answer
  once : (known.map (·.record)).Nodup
  kept : ∀ q ∈ known, (table c.shared).outcome q.record = some q.outcome ∨
    D.pendingAt? c q.task = some (q.record, q.outcome)
  pending : ∀ task record outcome, D.pendingAt? c task = some (record, outcome) →
    ∃ q ∈ known, q.record = record ∧ q.outcome = outcome
  stored : ∀ record outcome, (table c.shared).outcome record = some outcome →
    ∃ q ∈ known, q.record = record ∧ q.outcome = outcome

variable {D} {start last c : Configuration φ σ} {events : List (Event φ σ)} {known : List Inquiry}
  {task : Nat} {turn : Turn φ σ}

theorem moves (hstep : m.stepAt c task = some turn) :
    LookupMove c.now task (table c.shared) (table turn.shared) (D.lookupAt? c task)
      (D.lookup? turn.phase) := by
  obtain ⟨phase, hphase, hturn⟩ := m.stepAt_eq_some hstep
  rw [lookupAt?, hphase]
  exact D.step hturn

/-- The look-ups of other tasks after a step. -/
theorem lookupAt?_after (hstep : m.stepAt c task = some turn) (other : Nat) :
    D.lookupAt? (c.after task turn) other =
      if other = task then D.lookup? turn.phase else D.lookupAt? c other := by
  obtain ⟨phase, hphase, hturn⟩ := m.stepAt_eq_some hstep
  by_cases hother : other = task
  · subst hother
    rw [lookupAt?, Configuration.tasks_after_self hphase, if_pos rfl]
    rfl
  · rw [if_neg hother]
    exact Configuration.bind_after_of_ne (D.spawned hturn) hother

theorem pendingAt?_after_of_ne (hstep : m.stepAt c task = some turn) {other : Nat}
    (hne : other ≠ task) : D.pendingAt? (c.after task turn) other = D.pendingAt? c other := by
  rw [pendingAt?, lookupAt?_after hstep, if_neg hne, pendingAt?]

theorem pendingAt?_after_self (hstep : m.stepAt c task = some turn) :
    D.pendingAt? (c.after task turn) task = (D.lookup? turn.phase).bind (·.pending?) := by
  rw [pendingAt?, lookupAt?_after hstep, if_pos rfl]

namespace Holds

theorem heeds (h : D.Holds c known) (hstep : m.stepAt c task = some turn) :
    (table c.shared).Heeds task (D.inquiry? ⟨c, task, turn⟩)
      (LookupMove.stores (D.lookupAt? c task)) (table turn.shared) :=
  (moves hstep).heeds (h.sure task)

/-- A record is asked about when nothing is known of it and no answer is pending. -/
theorem fresh (h : D.Holds c known) {q : Inquiry}
    (hq : (D.lookupAt? c task).bind (·.inquiry? c.now task (table c.shared)) = some q) :
    q.record ∉ known.map (·.record) := by
  obtain ⟨lookup, hlookup, hinquiry⟩ := Option.bind_eq_some_iff.mp hq
  obtain ⟨hlocked, -, -, -, hnone⟩ := (h.sure task lookup hlookup).inquiry hinquiry
  intro hmem
  obtain ⟨q', hq', hrecord⟩ := List.mem_map.mp hmem
  rcases h.kept q' hq' with hkept | hpending
  · rw [hrecord, hlocked.outcome_eq] at hkept
    cases hkept
  · -- Whoever has a pending answer holds the lock, but this task does and has none.
    obtain ⟨lookup', hlookup', hpending'⟩ := Option.bind_eq_some_iff.mp hpending
    have hlocked' := (h.sure _ lookup' hlookup').pending hpending'
    rw [hrecord] at hlocked'
    rw [hlocked.unique hlocked', hlookup] at hlookup'
    cases hlookup'
    rw [hnone] at hpending'
    cases hpending'

/-- The answer to a question is pending after the step that asks it. -/
theorem asks (h : D.Holds c known) (hstep : m.stepAt c task = some turn) {q : Inquiry}
    (hq : D.inquiry? ⟨c, task, turn⟩ = some q) :
    q.task = task ∧ D.pendingAt? (c.after task turn) task = some (q.record, q.outcome) ∧
      (table c.shared).hostAt? q.record = some q.host ∧
        q.answer = ((table c.shared).service (table c.shared).asked q.host).answer := by
  obtain ⟨lookup, hlookup, hinquiry⟩ := Option.bind_eq_some_iff.mp hq
  obtain ⟨-, hhost, htask, hanswer, -⟩ := (h.sure task lookup hlookup).inquiry hinquiry
  refine ⟨htask, ?_, hhost, hanswer⟩
  rw [pendingAt?_after_self hstep]
  exact (moves hstep).opens hq

theorem sure_after (h : D.Holds c known) (hstep : m.stepAt c task = some turn) (other : Nat) :
    ∀ lookup ∈ D.lookupAt? (c.after task turn) other, lookup.Sure other (table turn.shared) := by
  intro lookup hlookup
  rw [lookupAt?_after hstep] at hlookup
  split at hlookup
  · rename_i heq
    subst heq
    exact (moves hstep).sure (h.sure other) lookup hlookup
  · rename_i hne
    exact (h.sure other lookup hlookup).heeds (h.heeds hstep) hne

/-- What was answered stays known, or is known once it is not pending any more. -/
theorem kept_after (h : D.Holds c known) (hstep : m.stepAt c task = some turn) {q : Inquiry}
    (hq : q ∈ known) : (table turn.shared).outcome q.record = some q.outcome ∨
      D.pendingAt? (c.after task turn) q.task = some (q.record, q.outcome) := by
  rcases h.kept q hq with hkept | hpending
  · exact .inl ((h.heeds hstep).outcome hkept)
  · by_cases htask : q.task = task
    · rw [htask] at hpending ⊢
      rw [pendingAt?_after_self hstep]
      exact ((moves hstep).settles (h.sure task) hpending).symm
    · rw [pendingAt?_after_of_ne hstep htask]
      exact .inr hpending

theorem pending_after (h : D.Holds c known) (hstep : m.stepAt c task = some turn)
    {other record : Nat} {outcome : Option Robots}
    (hpending : D.pendingAt? (c.after task turn) other = some (record, outcome)) :
    ∃ q ∈ known ++ (D.inquiry? ⟨c, task, turn⟩).toList, q.record = record ∧ q.outcome = outcome := by
  by_cases hother : other = task
  · subst hother
    rw [pendingAt?_after_self hstep] at hpending
    rcases (moves hstep).pending?_or hpending with hold | ⟨q, hq, hrecord, houtcome⟩
    · obtain ⟨q, hq, hwhat⟩ := h.pending other record outcome hold
      exact ⟨q, List.mem_append_left _ hq, hwhat⟩
    · exact ⟨q, List.mem_append_right _ (Option.mem_toList.mpr hq), hrecord, houtcome⟩
  · rw [pendingAt?_after_of_ne hstep hother] at hpending
    obtain ⟨q, hq, hwhat⟩ := h.pending other record outcome hpending
    exact ⟨q, List.mem_append_left _ hq, hwhat⟩

/-- What is known of a record was pending before it was stored. -/
theorem stored_after (h : D.Holds c known) (hstep : m.stepAt c task = some turn) {record : Nat}
    {outcome : Option Robots} (houtcome : (table turn.shared).outcome record = some outcome) :
    ∃ q ∈ known, q.record = record ∧ q.outcome = outcome := by
  rcases (h.heeds hstep).outcome_or houtcome with hold | hstores
  · exact h.stored record outcome hold
  · obtain ⟨lookup, hlookup, hstored⟩ := Option.bind_eq_some_iff.mp hstores
    apply h.pending task record outcome
    rw [pendingAt?, hlookup]
    exact LookupPhase.pending?_of_stores hstored

theorem once_after (h : D.Holds c known) :
    ((known ++ (D.inquiry? ⟨c, task, turn⟩).toList).map (·.record)).Nodup := by
  rw [List.map_append]
  cases hq : D.inquiry? ⟨c, task, turn⟩ with
  | none => simpa using h.once
  | some q =>
    refine List.nodup_append.mpr ⟨h.once, List.pairwise_singleton _ _, ?_⟩
    rintro record hrecord _ hmem rfl
    rw [List.mem_singleton.mp hmem] at hrecord
    exact h.fresh hq hrecord

theorem act (h : D.Holds c known) (hstep : m.stepAt c task = some turn) :
    D.Holds (c.after task turn) (known ++ (D.inquiry? ⟨c, task, turn⟩).toList) where
  sure := h.sure_after hstep
  hosts q hq := by
    apply (h.heeds hstep).hosts
    rcases List.mem_append.mp hq with hq | hq
    · exact h.hosts q hq
    · obtain ⟨-, -, hhost, -⟩ := h.asks hstep (Option.mem_toList.mp hq)
      exact hhost
  answers q hq := by
    show ∃ earlier, q.answer = ((table turn.shared).service earlier q.host).answer
    rw [(h.heeds hstep).service]
    rcases List.mem_append.mp hq with hq | hq
    · exact h.answers q hq
    · obtain ⟨-, -, -, hanswer⟩ := h.asks hstep (Option.mem_toList.mp hq)
      exact ⟨_, hanswer⟩
  once := h.once_after
  kept q hq := by
    rcases List.mem_append.mp hq with hq | hq
    · exact h.kept_after hstep hq
    · obtain ⟨htask, hpending, -⟩ := h.asks hstep (Option.mem_toList.mp hq)
      rw [htask]
      exact .inr hpending
  pending _ _ _ hpending := h.pending_after hstep hpending
  stored record outcome houtcome := by
    obtain ⟨q, hq, hwhat⟩ := h.stored_after hstep houtcome
    exact ⟨q, List.mem_append_left _ hq, hwhat⟩

theorem history (hstart : D.Holds start known) (h : m.History start events last) :
    D.Holds last (known ++ D.inquiries events) := by
  induction h with
  | refl =>
    rw [show D.inquiries ([] : List (Event φ σ)) = [] from rfl, List.append_nil]
    exact hstart
  | act _ hstep ih =>
    rw [inquiries_act, ← List.append_assoc]
    exact ih.act hstep
  | pass _ hle ih =>
    rw [inquiries_pass]
    exact { ih with }

/-- The table of hosts notes the questions that a run asks. -/
theorem asked (hstart : D.Holds start known) (h : m.History start events last) :
    (table last.shared).asked =
      (table start.shared).asked ++ (D.inquiries events).map Inquiry.note := by
  induction h with
  | refl => exact (List.append_nil _).symm
  | act h hstep ih =>
    rw [inquiries_act, List.map_append, ← List.append_assoc, ← ih]
    exact ((hstart.history h).heeds hstep).asked
  | pass _ _ ih =>
    rw [inquiries_pass]
    exact ih

/-- Answers come from the same service throughout a run. -/
theorem service (hstart : D.Holds start known) (h : m.History start events last) :
    (table last.shared).service = (table start.shared).service := by
  induction h with
  | refl => rfl
  | act h hstep ih => exact ((hstart.history h).heeds hstep).service.trans ih
  | pass _ _ ih => exact ih

/-- A look-up for a host returns what was answered to a question for that host, and stored. -/
theorem learnt (h : D.Holds c known) {lookup : LookupPhase} {next : Progress LookupPhase HostTable}
    {key : String} {outcome : Option Robots} (hlookup : D.lookupAt? c task = some lookup)
    (hsound : lookup.Sound task key (table c.shared))
    (hstep : lookup.step c.now task (table c.shared) = some next)
    (hreturned : next.phase = .finished outcome) :
    ∃ q ∈ known, q.host = key ∧ q.outcome = outcome ∧
      (table c.shared).outcome q.record = some outcome := by
  obtain ⟨record, hrecord, houtcome⟩ :=
    (LookupPhase.leads_of_step hstep).returned (h.sure task lookup hlookup) hreturned
  obtain ⟨q, hq, rfl, hwhat⟩ := h.stored record outcome houtcome
  have hhost := h.hosts q hq
  rw [hsound.record hrecord] at hhost
  exact ⟨q, hq, (Option.some.inj hhost).symm, hwhat, houtcome⟩

/-- What is known of a record at a step of a run stays known up to its end, and the look-up of the
record does not go back. -/
theorem forward (hstart : D.Holds start known) (h : m.History start events last)
    {a : Act φ σ} (ha : a ∈ acts events) {record : Nat} {r : HostRecord}
    (hget : (table a.before.shared).records[record]? = some r) :
    ∃ r', (table last.shared).records[record]? = some r' ∧ r.GoesOn r' := by
  induction h with
  | refl => cases ha
  | @act c events task turn h hstep ih =>
    have hheeds := (hstart.history h).heeds hstep
    rw [acts_append, List.mem_append, acts_act, List.mem_singleton] at ha
    rcases ha with ha | rfl
    · obtain ⟨r', hget', hgoes⟩ := ih ha
      obtain ⟨r'', hget'', hgoes'⟩ := hheeds.forward hget'
      exact ⟨r'', hget'', hgoes.trans hgoes'⟩
    · exact hheeds.forward hget
  | pass _ _ ih =>
    apply ih
    rw [acts_append, acts_pass, List.append_nil] at ha
    exact ha

/-- Nothing is known of robots files before anyone looks one up. -/
theorem of_fresh (hfresh : (table start.shared).Fresh)
    (hnone : ∀ phase ∈ start.tasks, D.lookup? phase = none) : D.Holds start [] := by
  have hlookup : ∀ task, D.lookupAt? start task = none := by
    intro task
    rw [lookupAt?]
    cases hphase : start.tasks[task]? with
    | none => rfl
    | some phase => exact hnone phase (List.mem_of_getElem? hphase)
  refine ⟨?_, ?_, ?_, List.nodup_nil, ?_, ?_, ?_⟩
  · intro task lookup hmem
    rw [hlookup] at hmem
    cases hmem
  · intro q hq
    cases hq
  · intro q hq
    cases hq
  · intro q hq
    cases hq
  · intro task record outcome hpending
    rw [pendingAt?, hlookup] at hpending
    cases hpending
  · intro record outcome houtcome
    rw [HostTable.outcome, hfresh.records] at houtcome
    cases houtcome

end Holds

end RobotsDiscipline

end PoliteCrawl

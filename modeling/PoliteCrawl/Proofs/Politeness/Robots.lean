import PoliteCrawl.Proofs.Politeness.Wait

namespace PoliteCrawl

def RobotsStatus.rank : RobotsStatus → Nat
  | unchecked => 0
  | inProgress => 1
  | checked => 2

structure RobotsCell where
  lock : Lock := {}
  outcome : Option (Option Robots) := none

def HostRecord.cell (r : HostRecord) : RobotsCell where
  lock := r.robotsLock
  outcome := r.outcome

structure HostRecord.GoesOn (r r' : HostRecord) : Prop where
  host : r'.host = r.host
  status : r.status.rank ≤ r'.status.rank
  outcome : ∀ outcome ∈ r.outcome, outcome ∈ r'.outcome

theorem HostRecord.GoesOn.trans {r r' r'' : HostRecord} (h : r.GoesOn r') (h' : r'.GoesOn r'') :
    r.GoesOn r'' where
  host := h'.host.trans h.host
  status := Nat.le_trans h.status h'.status
  outcome outcome hmem := h'.outcome outcome (h.outcome outcome hmem)

namespace RobotsCell

variable {task other : Nat} {c c' : RobotsCell} {c? c?' : Option RobotsCell}
  {stored? : Option (Option Robots)} {known : Option Robots}

def status (c : RobotsCell) : RobotsStatus :=
  if c.outcome.isSome then .checked
  else if c.lock.holder.isSome then .inProgress
  else .unchecked

inductive Follows (task : Nat) :
    Option RobotsCell → Option (Option Robots) → Option RobotsCell → Prop where
  | same (c? : Option RobotsCell) : Follows task c? none c?
  | opens : Follows task none none (some {})
  | requests (c : RobotsCell) :
    Follows task (some c) none (some { c with lock := c.lock.request task })
  | leaves (c : RobotsCell) :
    Follows task (some c) none (some { c with lock := c.lock.leave task })
  | stores {lock : Lock} (outcome : Option Robots) (h : lock.isHeldBy task = true) :
    Follows task (some ⟨lock, none⟩) (some outcome) (some ⟨lock, some outcome⟩)
  | releases {lock : Lock} (outcome : Option Robots) (h : lock.isHeldBy task = true) :
    Follows task (some ⟨lock, some outcome⟩) none (some ⟨lock.release, some outcome⟩)

/-- A task that holds the lock finds the cell as it was, but for who else is in line. -/
theorem Follows.held (h : Follows task c? stored? c?') (hcell : c? = some c)
    (hheld : c.lock.isHeldBy other = true) (hne : other ≠ task) :
    ∃ lock, c?' = some ⟨lock, c.outcome⟩ ∧ lock.isHeldBy other = true := by
  cases h with
  | same => exact ⟨c.lock, hcell, hheld⟩
  | opens => cases hcell
  | requests =>
    cases hcell
    exact ⟨_, rfl, Lock.isHeldBy_request hheld⟩
  | leaves =>
    cases hcell
    exact ⟨_, rfl, hheld⟩
  | stores outcome htask =>
    cases hcell
    exact absurd (Lock.eq_of_isHeldBy htask hheld) hne
  | releases outcome htask =>
    cases hcell
    exact absurd (Lock.eq_of_isHeldBy htask hheld) hne

/-- An outcome stays. -/
theorem Follows.outcome (h : Follows task c? stored? c?')
    (hcell : c?.bind (·.outcome) = some known) : c?'.bind (·.outcome) = some known := by
  cases h with
  | opens | stores => cases hcell
  | _ => exact hcell

/-- An outcome that a step finds or stores. -/
theorem Follows.outcome_or (h : Follows task c? stored? c?')
    (hcell : c?'.bind (·.outcome) = some known) :
    c?.bind (·.outcome) = some known ∨ stored? = some known := by
  cases h with
  | opens => cases hcell
  | stores =>
    cases hcell
    exact .inr rfl
  | _ => exact .inl hcell

/-- A look-up never goes back. -/
theorem Follows.forward (h : Follows task c? stored? c?') (hcell : c? = some c) :
    ∃ c', c?' = some c' ∧ c.status.rank ≤ c'.status.rank := by
  cases h with
  | same => exact ⟨c, hcell, Nat.le_refl _⟩
  | opens => cases hcell
  | requests =>
    cases hcell
    refine ⟨_, rfl, ?_⟩
    -- Whoever held the lock goes on to hold it.
    unfold status Lock.request
    cases c.lock.holder <;> cases c.outcome <;> simp [RobotsStatus.rank]
  | leaves =>
    cases hcell
    exact ⟨_, rfl, Nat.le_refl _⟩
  | @stores lock =>
    cases hcell
    refine ⟨_, rfl, ?_⟩
    unfold status
    cases lock.holder <;> simp [RobotsStatus.rank]
  | releases =>
    cases hcell
    exact ⟨_, rfl, Nat.le_refl _⟩

end RobotsCell

structure Inquiry where
  task : Nat
  time : Nat
  record : Nat
  host : String
  answer : Except CrawlError (Option Robots)

namespace Inquiry

def outcome (q : Inquiry) : Option Robots := LookupPhase.outcomeOf q.answer

def note (q : Inquiry) : Nat × String := (q.time, q.host)

end Inquiry

namespace HostTable

variable {t t' : HostTable} {task other record : Nat}

def cellAt? (t : HostTable) (record : Nat) : Option RobotsCell := t.records[record]?.map (·.cell)

theorem outcome_eq (t : HostTable) (record : Nat) :
    t.outcome record = (t.cellAt? record).bind (·.outcome) := by
  rw [outcome, cellAt?]
  cases t.records[record]? <;> rfl

theorem holdsRobots_eq (t : HostTable) (record task : Nat) :
    t.holdsRobots record task = (t.cellAt? record).any (·.lock.isHeldBy task) := by
  rw [holdsRobots, cellAt?]
  cases t.records[record]? <;> rfl

def Locked (t : HostTable) (task record : Nat) (outcome : Option (Option Robots)) : Prop :=
  ∃ lock, t.cellAt? record = some ⟨lock, outcome⟩ ∧ lock.isHeldBy task = true

/-- What a step of a task may do, with the question that it asks and the outcomes that it stores. -/
structure Heeds (task : Nat) (t : HostTable) (inquiry? : Option Inquiry)
    (stores : Nat → Option (Option Robots)) (t' : HostTable) : Prop where
  service : t'.service = t.service
  asked : t'.asked = t.asked ++ inquiry?.toList.map Inquiry.note
  hosts : ∀ record host, t.hostAt? record = some host → t'.hostAt? record = some host
  cells : ∀ record, RobotsCell.Follows task (t.cellAt? record) (stores record) (t'.cellAt? record)

variable {inquiry? : Option Inquiry} {stores : Nat → Option (Option Robots)}
  {known : Option Robots} {outcome? : Option (Option Robots)}

theorem Locked.outcome_eq (h : t.Locked task record outcome?) : t.outcome record = outcome? := by
  obtain ⟨lock, hcell, -⟩ := h
  rw [HostTable.outcome_eq, hcell]
  rfl

theorem Locked.unique (h : t.Locked task record outcome?) {outcome?' : Option (Option Robots)}
    (h' : t.Locked other record outcome?') : other = task := by
  obtain ⟨lock, hcell, hheld⟩ := h
  obtain ⟨lock', hcell', hheld'⟩ := h'
  rw [hcell] at hcell'
  cases hcell'
  exact Lock.eq_of_isHeldBy hheld hheld'

theorem locked_of_holdsRobots (h : t.holdsRobots record task = true) :
    t.Locked task record (t.outcome record) := by
  rw [holdsRobots_eq] at h
  obtain ⟨c, hcell, hheld⟩ := (Option.any_eq_true _ _).mp h
  refine ⟨c.lock, ?_, hheld⟩
  rw [HostTable.outcome_eq, hcell]
  rfl

theorem Heeds.locked (h : Heeds task t inquiry? stores t') (hlocked : t.Locked other record outcome?)
    (hne : other ≠ task) : t'.Locked other record outcome? := by
  obtain ⟨lock, hcell, hheld⟩ := hlocked
  exact (h.cells record).held hcell hheld hne

theorem Heeds.outcome (h : Heeds task t inquiry? stores t')
    (hknown : t.outcome record = some known) : t'.outcome record = some known := by
  rw [outcome_eq] at hknown ⊢
  exact (h.cells record).outcome hknown

theorem Heeds.outcome_or (h : Heeds task t inquiry? stores t')
    (hknown : t'.outcome record = some known) :
    t.outcome record = some known ∨ stores record = some known := by
  rw [outcome_eq] at hknown ⊢
  exact (h.cells record).outcome_or hknown

/-- What is known of a record stays known, and its look-up does not go back. -/
theorem Heeds.forward (h : Heeds task t inquiry? stores t') {r : HostRecord}
    (hget : t.records[record]? = some r) :
    ∃ r', t'.records[record]? = some r' ∧ r.GoesOn r' := by
  have hcell : t.cellAt? record = some r.cell := by rw [cellAt?, hget, Option.map_some]
  have hhost : t.hostAt? record = some r.host := by rw [hostAt?, hget, Option.map_some]
  obtain ⟨c', hcell', hrank⟩ := (h.cells record).forward hcell
  obtain ⟨r', hget', rfl⟩ := Option.map_eq_some_iff.mp hcell'
  have hhost' := h.hosts _ _ hhost
  rw [hostAt?, hget', Option.map_some] at hhost'
  refine ⟨r', hget', Option.some.inj hhost', hrank, fun outcome houtcome => ?_⟩
  have hknown : t.outcome record = some outcome := by
    rw [HostTable.outcome, hget]
    exact houtcome
  have hknown' := h.outcome hknown
  rw [HostTable.outcome, hget'] at hknown'
  exact hknown'

theorem heeds_of_records (hservice : t'.service = t.service)
    (hasked : t'.asked = t.asked ++ inquiry?.toList.map Inquiry.note)
    (hrecords : t'.records = t.records) : Heeds task t inquiry? (fun _ => none) t' where
  service := hservice
  asked := hasked
  hosts record host h := by
    rw [hostAt?, hrecords]
    exact h
  cells record := by
    rw [cellAt?, cellAt?, hrecords]
    exact .same _

theorem heeds_refl (task : Nat) (t : HostTable) : Heeds task t none (fun _ => none) t :=
  heeds_of_records rfl (List.append_nil _).symm rfl

/-- A step that changes one record. -/
theorem heeds_update {f : HostRecord → HostRecord} {stored? : Option (Option Robots)}
    (hhost : ∀ r, (f r).host = r.host)
    (hcell : ∀ r, t.records[record]? = some r →
      RobotsCell.Follows task (some r.cell) stored? (some (f r).cell))
    (hexists : stored?.isSome = true → (t.records[record]?).isSome = true) :
    Heeds task t none (fun r => if r = record then stored? else none) (t.update record f) where
  service := rfl
  asked := (List.append_nil _).symm
  hosts r host h := by
    rw [hostAt?_update hhost]
    exact h
  cells r := by
    by_cases hr : r = record
    · subst hr
      rw [if_pos rfl, cellAt?, cellAt?, records_update_self]
      cases hget : t.records[r]? with
      | none =>
        rw [hget] at hexists
        cases stored? with
        | none => exact .same none
        | some outcome => cases hexists rfl
      | some x => exact hcell x hget
    · rw [if_neg hr, cellAt?, cellAt?, records_update_of_ne t f (Ne.symm hr)]
      exact .same _

/-- A step that changes one record, and stores nothing there. -/
theorem heeds_update_of_follows {f : HostRecord → HostRecord} (hhost : ∀ r, (f r).host = r.host)
    (hcell : ∀ r, t.records[record]? = some r →
      RobotsCell.Follows task (some r.cell) none (some (f r).cell)) :
    Heeds task t none (fun _ => none) (t.update record f) := by
  have h := heeds_update hhost hcell (fun h => by cases h)
  simp only [ite_self] at h
  exact h

/-- A step that leaves the cell of a record alone. -/
theorem heeds_update_of_same {f : HostRecord → HostRecord} (hhost : ∀ r, (f r).host = r.host)
    (hcell : ∀ r, (f r).cell = r.cell) : Heeds task t none (fun _ => none) (t.update record f) := by
  apply heeds_update_of_follows hhost
  intro r _
  rw [hcell]
  exact .same _

theorem cellAt?_update {f : HostRecord → HostRecord} (hcell : ∀ r, (f r).cell = r.cell)
    (t : HostTable) (record other : Nat) : (t.update record f).cellAt? other = t.cellAt? other := by
  by_cases hr : record = other
  · subst hr
    rw [cellAt?, cellAt?, records_update_self, Option.map_map]
    congr 1
    funext r
    exact hcell r
  · rw [cellAt?, cellAt?, records_update_of_ne t f hr]

/-- Whoever holds the lock of a record does so after a step that leaves its cell alone. -/
theorem Locked.update {f : HostRecord → HostRecord} (h : t.Locked task record outcome?)
    (hcell : ∀ r, (f r).cell = r.cell) (other : Nat) :
    (t.update other f).Locked task record outcome? := by
  obtain ⟨lock, hlock, hheld⟩ := h
  exact ⟨lock, (cellAt?_update hcell t other record).trans hlock, hheld⟩

theorem Locked.requestGate (h : t.Locked task record outcome?) (other : Nat) :
    (t.requestGate other task).Locked task record outcome? := by
  rw [HostTable.requestGate]
  apply h.update
  intro r
  rfl

theorem Locked.leaveGate (h : t.Locked task record outcome?) (other : Nat) :
    (t.leaveGate other task).Locked task record outcome? := by
  rw [HostTable.leaveGate]
  apply h.update
  intro r
  rfl

theorem Locked.gate (h : t.Locked task record outcome?) (other : Nat) (f : FetchGate → FetchGate) :
    ((t.update other fun r => { r with gate := f r.gate }).releaseGate other).1.Locked task record
      outcome? := by
  rw [releaseGate_update]
  apply h.update
  intro r
  rfl

theorem heeds_requestGate (task : Nat) (t : HostTable) (record : Nat) :
    Heeds task t none (fun _ => none) (t.requestGate record task) :=
  heeds_update_of_same (fun _ => rfl) (fun _ => rfl)

theorem heeds_leaveGate (task : Nat) (t : HostTable) (record : Nat) :
    Heeds task t none (fun _ => none) (t.leaveGate record task) :=
  heeds_update_of_same (fun _ => rfl) (fun _ => rfl)

theorem heeds_releaseGate (task : Nat) (t : HostTable) (record : Nat) :
    Heeds task t none (fun _ => none) (t.releaseGate record).1 :=
  heeds_update_of_same (fun _ => rfl) (fun _ => rfl)

/-- A change to a gate, after which its lock goes back. -/
theorem heeds_gate (task : Nat) (t : HostTable) (record : Nat) (f : FetchGate → FetchGate) :
    Heeds task t none (fun _ => none)
      ((t.update record fun r => { r with gate := f r.gate }).releaseGate record).1 := by
  rw [releaseGate_update]
  exact heeds_update_of_same (fun _ => rfl) (fun _ => rfl)

theorem heeds_find (task : Nat) (t : HostTable) (host : String) :
    Heeds task t none (fun _ => none) (t.find host).2 := by
  cases hpeek : t.cache.peek (keyOf host) with
  | some old =>
    rw [find_of_peek hpeek]
    exact heeds_of_records rfl (List.append_nil _).symm rfl
  | none =>
    rw [find_of_none hpeek]
    refine ⟨rfl, (List.append_nil _).symm, fun record key h => ?_, fun record => ?_⟩
    · exact (t.hostAt?_created host).mpr (.inl h)
    · rw [cellAt?, cellAt?]
      by_cases hr : record = t.records.length
      · subst hr
        rw [records_created_self, List.getElem?_eq_none (Nat.le_refl _)]
        exact .opens
      · rw [t.records_created_of_ne host hr]
        exact .same _

end HostTable

namespace LookupPhase

variable {phase phase' : LookupPhase} {now task other : Nat} {t t' : HostTable}

def record? : LookupPhase → Option Nat
  | start _ | finished _ => none
  | found record | atLock record | inLine record _ | holding record | asking record
  | awaiting record _ _ | atGate record _ _ | inGateLine record _ _ _ | raising record _ _
  | storing record _ | leaving record _ => some record

theorem Sound.record {record : Nat} {key : String} (h : phase.Sound task key t)
    (hrecord : phase.record? = some record) : t.hostAt? record = some key := by
  cases phase with
  | start | finished => cases hrecord
  | raising =>
    cases hrecord
    exact h.1
  | _ =>
    cases hrecord
    exact h

def pending? : LookupPhase → Option (Nat × Option Robots)
  | awaiting record outcome _ | atGate record outcome _ | inGateLine record outcome _ _
  | raising record outcome _ | storing record outcome => some (record, outcome)
  | _ => none

def inquiry? (now task : Nat) (t : HostTable) : LookupPhase → Option Inquiry
  | asking record => t.records[record]?.map fun r =>
    { task, time := now, record, host := r.host, answer := (t.service t.asked r.host).answer }
  | _ => none

def stores : LookupPhase → Nat → Option (Option Robots)
  | storing record outcome => fun r => if r = record then some outcome else none
  | _ => fun _ => none

/-- What a look-up knows of the record whose lock it holds. -/
def Sure (task : Nat) (t : HostTable) : LookupPhase → Prop
  | start _ | found _ | atLock _ | inLine _ _ | finished _ => True
  | holding record => ∃ outcome, t.Locked task record outcome
  | asking record | awaiting record _ _ | atGate record _ _ | inGateLine record _ _ _
  | raising record _ _ | storing record _ => t.Locked task record none
  | leaving record outcome => t.Locked task record (some outcome)

theorem Sure.heeds {inquiry? : Option Inquiry} {stores : Nat → Option (Option Robots)}
    (h : phase.Sure other t) (hheeds : t.Heeds task inquiry? stores t') (hne : other ≠ task) :
    phase.Sure other t' := by
  cases phase with
  | start | found | atLock | inLine | finished => trivial
  | holding record =>
    obtain ⟨outcome, hlocked⟩ := h
    exact ⟨outcome, hheeds.locked hlocked hne⟩
  | _ => exact hheeds.locked h hne

/-- The lock is held for as long as an answer is pending, and the outcome is not known. -/
theorem Sure.pending {record : Nat} {outcome : Option Robots} (h : phase.Sure task t)
    (hpending : phase.pending? = some (record, outcome)) : t.Locked task record none := by
  cases phase with
  | awaiting | atGate | inGateLine | raising | storing =>
    cases hpending
    exact h
  | _ => cases hpending

theorem Sure.inquiry {q : Inquiry} (h : phase.Sure task t) (hq : phase.inquiry? now task t = some q) :
    t.Locked task q.record none ∧ t.hostAt? q.record = some q.host ∧ q.task = task ∧
      q.answer = (t.service t.asked q.host).answer ∧ phase.pending? = none := by
  cases phase with
  | asking record =>
    obtain ⟨r, hget, rfl⟩ := Option.map_eq_some_iff.mp hq
    refine ⟨h, ?_, rfl, rfl, rfl⟩
    rw [HostTable.hostAt?, hget, Option.map_some]
  | _ => cases hq

theorem pending?_of_stores {record : Nat} {outcome : Option Robots}
    (h : phase.stores record = some outcome) : phase.pending? = some (record, outcome) := by
  cases phase with
  | storing record' outcome' =>
    change (if record = record' then some outcome' else none) = some outcome at h
    split at h
    · rename_i heq
      cases h
      rw [heq]
      rfl
    · cases h
  | _ => cases h

/-- The holder of a lock stores an outcome where none is known. -/
theorem heeds_store {record : Nat} (h : t.Locked task record none) (outcome : Option Robots) :
    t.Heeds task none (fun r => if r = record then some outcome else none)
      (t.store record outcome) ∧
        (t.store record outcome).Locked task record (some outcome) := by
  obtain ⟨lock, hcell, hheld⟩ := h
  obtain ⟨r, hget, hr⟩ := Option.map_eq_some_iff.mp hcell
  have hstored : ({ r with outcome := r.outcome.or (some outcome) } : HostRecord).cell =
      ⟨lock, some outcome⟩ := by
    cases r
    cases hr
    rfl
  refine ⟨HostTable.heeds_update (fun _ => rfl) ?_ ?_, lock, ?_, hheld⟩
  · intro r' hget'
    rw [hget] at hget'
    cases hget'
    rw [hr, hstored]
    exact .stores outcome hheld
  · intro _
    rw [hget]
    rfl
  · rw [HostTable.cellAt?, HostTable.store, HostTable.records_update_self, hget]
    exact congrArg some hstored

/-- The lock of a record only goes back once an outcome is known. -/
theorem heeds_releaseRobots {record : Nat} {outcome : Option Robots}
    (h : t.Locked task record (some outcome)) :
    t.Heeds task none (fun _ => none) (t.releaseRobots record).1 := by
  obtain ⟨lock, hcell, hheld⟩ := h
  refine HostTable.heeds_update_of_follows (fun _ => rfl) fun r hget => ?_
  have hr : r.cell = ⟨lock, some outcome⟩ := by
    rw [HostTable.cellAt?, hget] at hcell
    exact Option.some.inj hcell
  have hreleased : ({ r with robotsLock := r.robotsLock.release } : HostRecord).cell =
      ⟨lock.release, some outcome⟩ := by
    cases r
    cases hr
    rfl
  rw [hr, hreleased]
  exact .releases outcome hheld

/-- What a step of a look-up does, and what it may rely on afterwards. -/
theorem Leads.sure (h : Leads now task t phase phase' t') (hphase : phase.Sure task t) :
    t.Heeds task (phase.inquiry? now task t) phase.stores t' ∧ phase'.Sure task t' := by
  cases h with
  | finds host => exact ⟨t.heeds_find task host, trivial⟩
  | sees | misses => exact ⟨t.heeds_refl task, trivial⟩
  | locks h =>
    exact ⟨HostTable.heeds_update_of_follows (fun _ => rfl) fun r _ => .requests r.cell, _,
      HostTable.locked_of_holdsRobots h⟩
  | queues =>
    exact ⟨HostTable.heeds_update_of_follows (fun _ => rfl) fun r _ => .requests r.cell, trivial⟩
  | served h => exact ⟨t.heeds_refl task, _, HostTable.locked_of_holdsRobots h⟩
  | reports =>
    exact ⟨HostTable.heeds_update_of_follows (fun _ => rfl) fun r _ => .leaves r.cell, trivial⟩
  | seesAgain h | missesAgain h =>
    obtain ⟨outcome?, hlocked⟩ := hphase
    rw [hlocked.outcome_eq] at h
    subst h
    exact ⟨t.heeds_refl task, hlocked⟩
  | asks h =>
    rw [inquiry?, h]
    exact ⟨HostTable.heeds_of_records rfl rfl rfl, hphase⟩
  | wishes | accepts | servedAtGate => exact ⟨t.heeds_refl task, hphase⟩
  -- The lock of the gate is another one.
  | locksGate | queuesAtGate =>
    exact ⟨t.heeds_requestGate task _, HostTable.Locked.requestGate hphase _⟩
  | reportsAtGate => exact ⟨t.heeds_leaveGate task _, HostTable.Locked.leaveGate hphase _⟩
  | raises record outcome delay =>
    exact ⟨t.heeds_gate task record (·.raise delay),
      HostTable.Locked.gate hphase record (·.raise delay)⟩
  | stores record outcome => exact heeds_store hphase outcome
  | leaves record outcome => exact ⟨heeds_releaseRobots hphase, trivial⟩

/-- The question that a step asks is open after it. -/
theorem Leads.opens {q : Inquiry} (h : Leads now task t phase phase' t')
    (hq : phase.inquiry? now task t = some q) : phase'.pending? = some (q.record, q.outcome) := by
  cases h with
  | asks h =>
    rw [inquiry?, h] at hq
    cases hq
    rfl
  | _ => cases hq

/-- An answer that is pending was pending before or is the one to the question asked. -/
theorem Leads.pending?_or {record : Nat} {outcome : Option Robots}
    (h : Leads now task t phase phase' t') (hpending : phase'.pending? = some (record, outcome)) :
    phase.pending? = some (record, outcome) ∨
      ∃ q, phase.inquiry? now task t = some q ∧ q.record = record ∧ q.outcome = outcome := by
  cases h with
  | asks h =>
    cases hpending
    rw [inquiry?, h]
    exact .inr ⟨_, rfl, rfl, rfl⟩
  | wishes | accepts | locksGate | queuesAtGate | servedAtGate | reportsAtGate | raises =>
    exact .inl hpending
  | _ => cases hpending

/-- An answer is pending until it is stored. -/
theorem Leads.settles {record : Nat} {outcome : Option Robots}
    (h : Leads now task t phase phase' t') (hphase : phase.Sure task t)
    (hpending : phase.pending? = some (record, outcome)) :
    phase'.pending? = some (record, outcome) ∨ t'.outcome record = some outcome := by
  have hsure := (h.sure hphase).2
  cases h with
  | stores =>
    cases hpending
    exact .inr (HostTable.Locked.outcome_eq hsure)
  | wishes | accepts | locksGate | queuesAtGate | servedAtGate | reportsAtGate | raises =>
    exact .inl hpending
  | _ => cases hpending

/-- A look-up goes on with its record, and returns what is known of it. -/
theorem Leads.record {record : Nat} (h : Leads now task t phase phase' t')
    (hphase : phase.Sure task t) (hrecord : phase.record? = some record) :
    phase'.record? = some record ∨
      ∃ outcome, phase' = finished outcome ∧ t'.outcome record = some outcome := by
  have hheeds := (h.sure hphase).1
  cases h with
  | finds => cases hrecord
  | sees h =>
    cases hrecord
    exact .inr ⟨_, rfl, h⟩
  | leaves record outcome =>
    cases hrecord
    exact .inr ⟨outcome, rfl, hheeds.outcome (HostTable.Locked.outcome_eq hphase)⟩
  | _ => exact .inl hrecord

/-- What a look-up returns is what is known of its record. -/
theorem Leads.returned {outcome : Option Robots} (h : Leads now task t phase phase' t')
    (hphase : phase.Sure task t) (hreturned : phase' = finished outcome) :
    ∃ record, phase.record? = some record ∧ t.outcome record = some outcome := by
  cases h with
  | sees h =>
    cases hreturned
    exact ⟨_, rfl, h⟩
  | leaves record outcome =>
    cases hreturned
    exact ⟨record, rfl, HostTable.Locked.outcome_eq hphase⟩
  | _ => cases hreturned

/-- A look-up that is under way is on a record. -/
theorem Leads.found (h : Leads now task t phase phase' t') :
    (∃ record, phase'.record? = some record) ∨
      ∃ outcome record, phase' = finished outcome ∧ phase.record? = some record := by
  cases h with
  | sees | leaves => exact .inr ⟨_, _, rfl, rfl⟩
  | _ => exact .inl ⟨_, rfl⟩

end LookupPhase

namespace WaitPhase

/-- A wait for a host leaves look-ups alone. -/
theorem Leads.heeds {phase phase' : WaitPhase} {now task : Nat} {t t' : HostTable}
    (h : Leads now task t phase phase' t') : t.Heeds task none (fun _ => none) t' := by
  cases h with
  | finds host => exact t.heeds_find task host
  | locks | queues => exact t.heeds_requestGate task _
  | reports => exact t.heeds_leaveGate task _
  | shuts => exact t.heeds_releaseGate task _
  | grants record instant => exact t.heeds_gate task record (·.grant instant)
  | givesUp | sleeps => exact HostTable.heeds_of_records rfl (List.append_nil _).symm rfl
  | served | opens | wakes => exact t.heeds_refl task

theorem heeds_cancel (task : Nat) (phase : WaitPhase) (t : HostTable) :
    t.Heeds task none (fun _ => none) (phase.cancel task t) := by
  cases phase with
  | inLine record deadline report => exact t.heeds_leaveGate task record
  | _ => exact t.heeds_refl task

end WaitPhase

end PoliteCrawl

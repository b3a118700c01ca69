import PoliteCrawl.Proofs.Politeness.SingleFlight

namespace PoliteCrawl

namespace HostTable

variable {t t' : HostTable} {record : Nat}

def interval? (t : HostTable) (record : Nat) : Option Nat := (t.gate? record).map (·.minInterval)

def intervalFor (t : HostTable) (outcome : Option Robots) : Nat :=
  match outcome.bind (·.crawlDelay? t.agent) with
  | some delay =>
    if t.maxCrawlDelay = 0 then t.minInterval else max t.minInterval (min delay t.maxCrawlDelay)
  | none => t.minInterval

/-- Two tables go by the same settings in what they make of robots files. -/
structure SameTerms (t t' : HostTable) : Prop where
  base : t'.minInterval = t.minInterval
  cap : t'.maxCrawlDelay = t.maxCrawlDelay
  agent : t'.agent = t.agent

theorem SameTerms.refl (t : HostTable) : t.SameTerms t := ⟨rfl, rfl, rfl⟩

theorem SameTerms.trans {t'' : HostTable} (h : t.SameTerms t') (h' : t'.SameTerms t'') :
    t.SameTerms t'' where
  base := h'.base.trans h.base
  cap := h'.cap.trans h.cap
  agent := h'.agent.trans h.agent

theorem SameTerms.wishedInterval? (h : t.SameTerms t') (outcome : Option Robots) :
    LookupPhase.wishedInterval? t' outcome = LookupPhase.wishedInterval? t outcome := by
  rw [LookupPhase.wishedInterval?, LookupPhase.wishedInterval?, h.cap, h.agent]

theorem intervalFor_of_wished {outcome : Option Robots} {delay : Nat}
    (h : LookupPhase.wishedInterval? t outcome = some delay) :
    t.intervalFor outcome = max t.minInterval delay := by
  unfold LookupPhase.wishedInterval? at h
  split at h
  · cases h
  · rename_i hcap
    obtain ⟨wish, hwish, rfl⟩ := Option.map_eq_some_iff.mp h
    rw [intervalFor, hwish]
    exact if_neg hcap

theorem intervalFor_of_not_wished {outcome : Option Robots}
    (h : LookupPhase.wishedInterval? t outcome = none) : t.intervalFor outcome = t.minInterval := by
  unfold LookupPhase.wishedInterval? at h
  split at h
  · rename_i hcap
    unfold intervalFor
    split
    · exact if_pos hcap
    · rfl
  · rw [intervalFor, Option.map_eq_none_iff.mp h]

/-- Such an interval is the one of the settings or what a file asks for, as far as it counts. -/
theorem intervalFor_eq (t : HostTable) (outcome : Option Robots) :
    t.intervalFor outcome = t.minInterval ∨
      ∃ file delay, outcome = some file ∧ file.crawlDelay? t.agent = some delay ∧
        t.maxCrawlDelay ≠ 0 ∧
          t.intervalFor outcome = max t.minInterval (min delay t.maxCrawlDelay) := by
  cases hwish : outcome.bind (·.crawlDelay? t.agent) with
  | none =>
    left
    rw [intervalFor, hwish]
  | some delay =>
    obtain ⟨file, rfl, hdelay⟩ := Option.bind_eq_some_iff.mp hwish
    by_cases hcap : t.maxCrawlDelay = 0
    · left
      rw [intervalFor, hwish]
      exact if_pos hcap
    · refine .inr ⟨file, delay, rfl, hdelay, hcap, ?_⟩
      rw [intervalFor, hwish]
      exact if_neg hcap

theorem le_intervalFor (t : HostTable) (outcome : Option Robots) :
    t.minInterval ≤ t.intervalFor outcome := by
  rcases t.intervalFor_eq outcome with h | ⟨_, _, -, -, -, h⟩
  · exact Nat.le_of_eq h.symm
  · rw [h]
    exact Nat.le_max_left _ _

theorem intervalFor_le (t : HostTable) (outcome : Option Robots) :
    t.intervalFor outcome ≤ max t.minInterval t.maxCrawlDelay := by
  rcases t.intervalFor_eq outcome with h | ⟨_, _, -, -, -, h⟩
  · rw [h]
    exact Nat.le_max_left _ _
  · rw [h]
    exact Nat.max_le.mpr
      ⟨Nat.le_max_left _ _, Nat.le_trans (Nat.min_le_right _ _) (Nat.le_max_right _ _)⟩

/-- What a step of a task may do to the intervals of gates, with those that it raises them to. -/
structure Paces (t : HostTable) (lift : Nat → Nat) (t' : HostTable) : Prop where
  terms : t.SameTerms t'
  kept : ∀ record i, t.interval? record = some i →
    t'.interval? record = some (max i (lift record))
  made : ∀ record, t.interval? record = none → ∀ i ∈ t'.interval? record, i = t.minInterval

/-- A step that leaves all intervals alone. -/
theorem paces_of_same (hterms : t.SameTerms t')
    (hsame : ∀ record, t'.interval? record = t.interval? record) : t.Paces (fun _ => 0) t' where
  terms := hterms
  kept record i h := by rw [hsame, h, Nat.max_zero]
  made record h i hi := by
    rw [hsame, h] at hi
    cases hi

theorem paces_refl (t : HostTable) : t.Paces (fun _ => 0) t :=
  paces_of_same (.refl t) (fun _ => rfl)

/-- A step that changes one record, and may raise the interval of its gate. -/
theorem paces_update {f : HostRecord → HostRecord} {delay : Nat}
    (hf : ∀ r, (f r).gate.minInterval = max r.gate.minInterval delay) :
    t.Paces (fun r => if r = record then delay else 0) (t.update record f) where
  terms := ⟨rfl, rfl, rfl⟩
  kept r i h := by
    obtain ⟨g, hgate, rfl⟩ := Option.map_eq_some_iff.mp h
    obtain ⟨x, hget, rfl⟩ := Option.map_eq_some_iff.mp hgate
    by_cases hr : r = record
    · subst hr
      rw [if_pos rfl, interval?, gate?, records_update_self, hget]
      exact congrArg some (hf x)
    · rw [if_neg hr, interval?, gate?, records_update_of_ne t f (Ne.symm hr), hget, Nat.max_zero]
      rfl
  made r h i hi := by
    have hnone : t.records[r]? = none := by
      rw [interval?, gate?, Option.map_map] at h
      exact Option.map_eq_none_iff.mp h
    have hafter : (t.update record f).records[r]? = none := by
      by_cases hr : r = record
      · subst hr
        rw [records_update_self, hnone, Option.map_none]
      · rw [records_update_of_ne t f (Ne.symm hr), hnone]
    rw [interval?, gate?, hafter] at hi
    cases hi

/-- A step that changes one record, but not the interval of its gate. -/
theorem paces_update_of_same {f : HostRecord → HostRecord}
    (hf : ∀ r, (f r).gate.minInterval = r.gate.minInterval) :
    t.Paces (fun _ => 0) (t.update record f) := by
  have h : t.Paces (fun r => if r = record then 0 else 0) (t.update record f) :=
    paces_update fun r => by rw [hf, Nat.max_zero]
  simp only [ite_self] at h
  exact h

theorem paces_requestGate (t : HostTable) (record task : Nat) :
    t.Paces (fun _ => 0) (t.requestGate record task) :=
  paces_update_of_same fun _ => rfl

theorem paces_leaveGate (t : HostTable) (record task : Nat) :
    t.Paces (fun _ => 0) (t.leaveGate record task) :=
  paces_update_of_same fun _ => rfl

theorem paces_releaseGate (t : HostTable) (record : Nat) :
    t.Paces (fun _ => 0) (t.releaseGate record).1 :=
  paces_update_of_same fun _ => rfl

theorem paces_grant (t : HostTable) (record instant : Nat) :
    t.Paces (fun _ => 0)
      ((t.update record fun r =>
        { r with gate := r.gate.grant instant }).releaseGate record).1 := by
  rw [releaseGate_update]
  exact paces_update_of_same fun _ => rfl

theorem paces_raise (t : HostTable) (record delay : Nat) :
    t.Paces (fun r => if r = record then delay else 0)
      ((t.update record fun r =>
        { r with gate := r.gate.raise delay }).releaseGate record).1 := by
  rw [releaseGate_update]
  exact paces_update fun _ => rfl

theorem paces_find (t : HostTable) (host : String) : t.Paces (fun _ => 0) (t.find host).2 := by
  cases hpeek : t.cache.peek (keyOf host) with
  | some old =>
    rw [find_of_peek hpeek]
    exact paces_of_same ⟨rfl, rfl, rfl⟩ (fun _ => rfl)
  | none =>
    rw [find_of_none hpeek]
    refine ⟨⟨rfl, rfl, rfl⟩, fun record i h => ?_, fun record h i hi => ?_⟩
    · obtain ⟨g, hgate, rfl⟩ := Option.map_eq_some_iff.mp h
      obtain ⟨r, hget, rfl⟩ := Option.map_eq_some_iff.mp hgate
      rw [interval?, gate?, records_created_of_some hget, Nat.max_zero]
      rfl
    · by_cases hr : record = t.records.length
      · subst hr
        rw [interval?, gate?, records_created_self] at hi
        cases hi
        rfl
      · rw [interval?, gate?, t.records_created_of_ne host hr] at hi
        rw [interval?, gate?] at h
        rw [h] at hi
        cases hi

/-- Whoever holds the lock of a record finds an interval there. -/
theorem Locked.exists_interval {task : Nat} {outcome? : Option (Option Robots)}
    (h : t.Locked task record outcome?) : ∃ i, t.interval? record = some i := by
  obtain ⟨lock, hcell, -⟩ := h
  obtain ⟨r, hget, -⟩ := Option.map_eq_some_iff.mp hcell
  exact ⟨r.gate.minInterval, by rw [interval?, gate?, hget]; rfl⟩

end HostTable

namespace WaitPhase

/-- A wait for a host leaves intervals alone. -/
theorem Leads.paces {phase phase' : WaitPhase} {now task : Nat} {t t' : HostTable}
    (h : Leads now task t phase phase' t') : t.Paces (fun _ => 0) t' := by
  cases h with
  | finds host => exact t.paces_find host
  | locks | queues => exact t.paces_requestGate _ task
  | reports => exact t.paces_leaveGate _ task
  | shuts => exact t.paces_releaseGate _
  | grants record instant => exact t.paces_grant record instant
  | givesUp | sleeps => exact HostTable.paces_of_same ⟨rfl, rfl, rfl⟩ (fun _ => rfl)
  | served | opens | wakes => exact t.paces_refl

theorem paces_cancel (task : Nat) (phase : WaitPhase) (t : HostTable) :
    t.Paces (fun _ => 0) (phase.cancel task t) := by
  cases phase with
  | inLine record deadline report => exact t.paces_leaveGate record task
  | _ => exact t.paces_refl

end WaitPhase

namespace LookupPhase

variable {phase phase' : LookupPhase} {now task record : Nat} {t t' : HostTable}
  {outcome : Option Robots}

def lift : LookupPhase → Nat → Nat
  | raising record _ delay => fun r => if r = record then delay else 0
  | _ => fun _ => 0

@[simp] theorem lift_raising (record : Nat) (outcome : Option Robots) (delay : Nat) :
    (raising record outcome delay).lift record = delay :=
  if_pos rfl

@[simp] theorem stores_storing (record : Nat) (outcome : Option Robots) :
    (storing record outcome).stores record = some outcome :=
  if_pos rfl

/-- A look-up that is about to raise an interval does so as the robots file wishes. -/
def Backed (t : HostTable) : LookupPhase → Prop
  | atGate _ outcome delay | inGateLine _ outcome delay _ | raising _ outcome delay =>
    wishedInterval? t outcome = some delay
  | _ => True

theorem eq_ok_of_outcomeOf {answer : Except CrawlError (Option Robots)} {file : Robots}
    (h : outcomeOf answer = some file) : answer = .ok (some file) := by
  cases answer with
  | ok robots => exact congrArg Except.ok h
  | error => cases h

theorem Leads.paces (h : Leads now task t phase phase' t') : t.Paces phase.lift t' := by
  cases h with
  | finds host => exact t.paces_find host
  | locks | queues | reports => exact HostTable.paces_update_of_same fun _ => rfl
  | asks => exact HostTable.paces_of_same ⟨rfl, rfl, rfl⟩ (fun _ => rfl)
  | locksGate | queuesAtGate => exact t.paces_requestGate _ task
  | reportsAtGate => exact t.paces_leaveGate _ task
  | raises record outcome delay => exact t.paces_raise record delay
  | stores | leaves => exact HostTable.paces_update_of_same fun _ => rfl
  | _ => exact t.paces_refl

theorem Leads.backed {t₀ : HostTable} (h : Leads now task t phase phase' t')
    (hterms : t₀.SameTerms t) (hphase : phase.Backed t₀) : phase'.Backed t₀ := by
  cases h with
  | wishes hdue h =>
    rw [hterms.wishedInterval?] at h
    exact h
  | locksGate | queuesAtGate | servedAtGate | reportsAtGate => exact hphase
  | _ => trivial

/-- Whoever is about to store an outcome has just come to it, and has raised the interval if the
outcome wishes so. -/
theorem Leads.resolves {t₀ : HostTable} (h : Leads now task t phase phase' t')
    (hterms : t₀.SameTerms t) (hphase : phase.Backed t₀)
    (hstores : phase'.stores record = some outcome) :
    phase.pending? = some (record, outcome) ∧ phase.stores record = none ∧
      max t₀.minInterval (phase.lift record) = t₀.intervalFor outcome := by
  have hpending := pending?_of_stores hstores
  cases h with
  | accepts hdue h =>
    cases hpending
    rw [hterms.wishedInterval?] at h
    exact ⟨rfl, rfl, by rw [HostTable.intervalFor_of_not_wished h]; exact Nat.max_zero _⟩
  | raises =>
    cases hpending
    exact ⟨rfl, rfl, by rw [HostTable.intervalFor_of_wished hphase, lift_raising]⟩
  | _ => cases hstores

/-- An outcome is known once it has been stored. -/
theorem Leads.stored (h : Leads now task t phase phase' t') (hphase : phase.Sure task t)
    (hstores : phase.stores record = some outcome) : t'.outcome record = some outcome := by
  have hsure := (h.sure hphase).2
  have hpending := pending?_of_stores hstores
  cases h with
  | stores =>
    cases hpending
    exact HostTable.Locked.outcome_eq hsure
  | _ => cases hstores

/-- An interval is raised on the way to an outcome only. -/
theorem Leads.lift_eq_zero (h : Leads now task t phase phase' t')
    (hstores : phase'.stores record = none) : phase.lift record = 0 := by
  cases h with
  | raises record' outcome delay =>
    refine if_neg fun heq => ?_
    rw [heq, stores_storing] at hstores
    cases hstores
  | _ => rfl

end LookupPhase

namespace LookupMove

variable {now task record : Nat} {t t' t₀ : HostTable} {lookup? lookup?' : Option LookupPhase}
  {outcome : Option Robots}

def lift (lookup? : Option LookupPhase) (record : Nat) : Nat :=
  (lookup?.map (·.lift record)).getD 0

theorem backed (h : LookupMove now task t t' lookup? lookup?') (hterms : t₀.SameTerms t)
    (hbacked : ∀ lookup ∈ lookup?, lookup.Backed t₀) : ∀ lookup ∈ lookup?', lookup.Backed t₀ := by
  cases h with
  | looks h =>
    rintro _ ⟨⟩
    exact (LookupPhase.leads_of_step h).backed hterms (hbacked _ rfl)
  | begins | keeps =>
    rintro _ ⟨⟩
    trivial
  | ends | idles =>
    rintro _ ⟨⟩

theorem resolves (h : LookupMove now task t t' lookup? lookup?') (hterms : t₀.SameTerms t)
    (hbacked : ∀ lookup ∈ lookup?, lookup.Backed t₀)
    (hstores : stores lookup?' record = some outcome) :
    lookup?.bind (·.pending?) = some (record, outcome) ∧ stores lookup? record = none ∧
      max t₀.minInterval (lift lookup? record) = t₀.intervalFor outcome := by
  cases h with
  | looks h => exact (LookupPhase.leads_of_step h).resolves hterms (hbacked _ rfl) hstores
  | _ => cases hstores

theorem stored (h : LookupMove now task t t' lookup? lookup?')
    (hsure : ∀ lookup ∈ lookup?, lookup.Sure task t)
    (hstores : stores lookup? record = some outcome) : t'.outcome record = some outcome := by
  cases h with
  | looks h ht =>
    subst ht
    exact (LookupPhase.leads_of_step h).stored (hsure _ rfl) hstores
  | _ => cases hstores

theorem lift_eq_zero (h : LookupMove now task t t' lookup? lookup?')
    (hstores : stores lookup?' record = none) : lift lookup? record = 0 := by
  cases h with
  | looks h => exact (LookupPhase.leads_of_step h).lift_eq_zero hstores
  | _ => rfl

/-- What a look-up of a record returns is known of it. -/
theorem returned {lookup : LookupPhase} (h : LookupMove now task t t' (some lookup) lookup?')
    (hsure : lookup.Sure task t) (hrecord : lookup.record? = some record)
    (hreturned : lookup?' = some (.finished outcome)) : t.outcome record = some outcome := by
  cases h with
  | looks h =>
    obtain ⟨record', hrecord', houtcome⟩ :=
      (LookupPhase.leads_of_step h).returned hsure (Option.some.inj hreturned)
    rw [hrecord] at hrecord'
    cases hrecord'
    exact houtcome
  | keeps | ends => cases hrecord

/-- A look-up that is over was on a record before, or over already. -/
theorem returns (h : LookupMove now task t t' lookup? lookup?')
    (hsure : ∀ lookup ∈ lookup?, lookup.Sure task t)
    (hreturned : lookup?' = some (.finished outcome)) :
    lookup? = some (.finished outcome) ∨ ∃ record, lookup?.bind (·.record?) = some record := by
  cases h with
  | looks h =>
    obtain ⟨record, hrecord, -⟩ :=
      (LookupPhase.leads_of_step h).returned (hsure _ rfl) (Option.some.inj hreturned)
    exact .inr ⟨record, hrecord⟩
  | keeps => exact .inl hreturned
  | begins | ends | idles => cases hreturned

end LookupMove

namespace CallPhase

variable {now task : Nat} {phase phase' : CallPhase} {d d' : HostDesk}

theorem begin_paces (now : Nat) (d : HostDesk) (call : HostCall) :
    d.table.Paces (fun _ => 0) (begin now d call).2.table := by
  unfold begin
  cases call with
  | view host | status host | keep host | holdGate host => exact d.table.paces_find host
  | robots | wait | enter | rest | contains => exact d.table.paces_refl
  | viewKept name =>
    dsimp only
    split <;> exact d.table.paces_refl

/-- What a step of a call does to the intervals of gates. -/
theorem Leads.paces (h : Leads now task d phase phase' d') :
    d.table.Paces (LookupMove.lift phase.lookup?) d'.table := by
  cases h with
  | begins due call => exact begin_paces now d call
  | locks | queues => exact d.table.paces_requestGate _ task
  | reports => exact d.table.paces_leaveGate _ task
  | views | loosens => exact d.table.paces_releaseGate _
  | looks hnext => exact (LookupPhase.leads_of_step hnext).paces
  | waits hleads | enters hleads => exact hleads.paces
  | @cutsOff wait => exact WaitPhase.paces_cancel task wait d.table
  | tells answer => cases answer <;> exact d.table.paces_refl
  | served | grips | found | decided | entered | rests => exact d.table.paces_refl

end CallPhase

end PoliteCrawl

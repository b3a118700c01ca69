import PoliteCrawl.Politeness.Admission
import PoliteCrawl.Politeness.Lookup
import PoliteCrawl.Proofs.Politeness.Hosts

namespace PoliteCrawl

variable {now task other : Nat} {key : String} {t t' : HostTable}

namespace WaitPhase

def stamp? : WaitPhase → Option (Nat × Nat)
  | granting record instant => some (record, instant)
  | _ => none

def named? : WaitPhase → Option String
  | start host _ => some (HostTable.keyOf host)
  | _ => none

def granted : WaitPhase → Bool
  | finished granted => granted
  | _ => false

def Sound (now task : Nat) (key : String) (t : HostTable) : WaitPhase → Prop
  | start host _ => HostTable.keyOf host = key
  | atGate record _ | inLine record _ _ | shut record _ _ _ | asleep record _ _ =>
    t.hostAt? record = some key
  | holding record _ => t.hostAt? record = some key ∧ t.holdsGate record task = true
  | granting record instant =>
    t.hostAt? record = some key ∧ t.holdsGate record task = true ∧ instant ≤ now ∧
      ∀ g ∈ t.gate? record, ∀ last ∈ g.lastGrant, last + g.minInterval ≤ instant
  | finished _ => True

variable {phase : WaitPhase} {p : Progress WaitPhase HostTable}

theorem Sound.later {later : Nat} (h : phase.Sound now task key t) (hle : now ≤ later) :
    phase.Sound later task key t := by
  cases phase with
  | granting record instant =>
    obtain ⟨hhost, hholds, hinstant, hopen⟩ := h
    exact ⟨hhost, hholds, Nat.le_trans hinstant hle, hopen⟩
  | _ => exact h

theorem Sound.named (h : phase.Sound now task key t) : ∀ name ∈ phase.named?, name = key := by
  intro name hname
  cases phase with
  | start host timeout =>
    cases hname
    exact h
  | _ => cases hname

/-- A grant is stamped on the record of the host. -/
theorem Sound.stamped {record instant : Nat} (h : phase.Sound now task key t)
    (hstamp : phase.stamp? = some (record, instant)) :
    instant ≤ now ∧ t.hostAt? record = some key := by
  cases phase with
  | granting =>
    cases hstamp
    obtain ⟨hhost, -, hinstant, -⟩ := h
    exact ⟨hinstant, hhost⟩
  | _ => cases hstamp

/-- A wait may rely on the same after a step of another task. -/
theorem Sound.advance {stamp? : Option (Nat × Nat)}
    {named? : Option String} (h : phase.Sound now other key t)
    (hadvance : t.Advance task stamp? named? t') (hne : other ≠ task) :
    phase.Sound now other key t' := by
  cases phase with
  | start | finished => exact h
  | atGate | inLine | shut | asleep => exact hadvance.hosts _ _ h
  | holding record =>
    obtain ⟨hhost, hholds⟩ := h
    exact ⟨hadvance.hosts _ _ hhost, hadvance.holds _ _ hne hholds⟩
  | granting record instant =>
    obtain ⟨hhost, hholds, hinstant, hopen⟩ := h
    refine ⟨hadvance.hosts _ _ hhost, hadvance.holds _ _ hne hholds, hinstant, ?_⟩
    rw [hadvance.gates _ _ hne hholds]
    exact hopen

inductive Leads (now task : Nat) (t : HostTable) : WaitPhase → WaitPhase → HostTable → Prop where
  | finds (host : String) (timeout : Option Nat) :
    Leads now task t (start host timeout) (atGate (t.find host).1 (timeout.map (now + ·)))
      (t.find host).2
  | locks {record : Nat} {deadline : Option Nat}
    (h : (t.requestGate record task).holdsGate record task = true) :
    Leads now task t (atGate record deadline) (holding record deadline) (t.requestGate record task)
  | queues {record : Nat} {deadline : Option Nat}
    (h : ¬ (t.requestGate record task).holdsGate record task = true) :
    Leads now task t (atGate record deadline) (inLine record deadline (now + reportInterval))
      (t.requestGate record task)
  | served {record report : Nat} {deadline : Option Nat} (h : t.holdsGate record task = true) :
    Leads now task t (inLine record deadline report) (holding record deadline) t
  | reports {record report : Nat} {deadline : Option Nat} (h : ¬ t.holdsGate record task = true)
    (hle : report ≤ now) :
    Leads now task t (inLine record deadline report) (atGate record deadline)
      (t.leaveGate record task)
  | opens {record : Nat} {deadline : Option Nat} {r : HostRecord}
    (hget : t.records[record]? = some r) (h : r.gate.untilOpen now = none) :
    Leads now task t (holding record deadline) (granting record now) t
  | shuts {record wait : Nat} {deadline : Option Nat} {r : HostRecord}
    (hget : t.records[record]? = some r) (h : r.gate.untilOpen now = some wait) :
    Leads now task t (holding record deadline) (shut record deadline wait r.gate.minInterval)
      (t.releaseGate record).1
  | grants (record instant : Nat) :
    Leads now task t (granting record instant) (finished true)
      ((t.update record fun r => { r with gate := r.gate.grant instant }).releaseGate record).1
  | givesUp {record wait interval : Nat} {deadline : Option Nat}
    (h : deadline.any (· ≤ now) = true) :
    Leads now task t (shut record deadline wait interval) (finished false)
      { t with jitter := (t.jitter.around wait (interval / 8)).2 }
  | sleeps {record wait interval : Nat} {deadline : Option Nat}
    (h : ¬ deadline.any (· ≤ now) = true) :
    Leads now task t (shut record deadline wait interval)
      (asleep record deadline (pauseUntil now (t.jitter.around wait (interval / 8)).1 deadline))
      { t with jitter := (t.jitter.around wait (interval / 8)).2 }
  | wakes {record waking : Nat} {deadline : Option Nat} (h : waking ≤ now) :
    Leads now task t (asleep record deadline waking) (atGate record deadline) t

theorem leads_of_step (h : phase.step now task t = some p) :
    Leads now task t phase p.phase p.shared := by
  cases phase with
  | start host timeout =>
    cases h
    exact .finds host timeout
  | atGate record deadline =>
    cases h
    dsimp only
    split
    · exact .locks ‹_›
    · exact .queues ‹_›
  | inLine record deadline report =>
    simp only [step] at h
    split at h
    · cases h
      exact .served ‹_›
    · split at h <;> cases h
      exact .reports ‹_› ‹_›
  | holding record deadline =>
    simp only [step] at h
    split at h
    · cases h
    · split at h <;> cases h
      · exact .opens ‹_› ‹_›
      · exact .shuts ‹_› ‹_›
  | granting record instant =>
    cases h
    exact .grants record instant
  | shut record deadline wait interval =>
    simp only [step] at h
    split at h <;> cases h
    · exact .givesUp ‹_›
    · exact .sleeps ‹_›
  | asleep record deadline waking =>
    simp only [step] at h
    split at h <;> cases h
    exact .wakes ‹_›
  | finished granted => cases h

variable {phase' : WaitPhase}

theorem Leads.sound (h : Leads now task t phase phase' t') (hphase : phase.Sound now task key t)
    (htimely : t.Timely now) (hkeyed : t.Keyed) :
    t.Advance task phase.stamp? phase.named? t' ∧ phase'.Sound now task key t' := by
  cases h with
  | finds host timeout =>
    refine ⟨t.advance_find task host, ?_⟩
    rw [← show HostTable.keyOf host = key from hphase]
    exact t.hostAt?_find hkeyed host
  | @locks record _ hholds =>
    have hadvance := t.advance_requestGate task record
    exact ⟨hadvance, hadvance.hosts _ _ hphase, hholds⟩
  | @queues record =>
    have hadvance := t.advance_requestGate task record
    exact ⟨hadvance, hadvance.hosts _ _ hphase⟩
  | served hholds => exact ⟨t.advance_refl task, hphase, hholds⟩
  | @reports record =>
    have hadvance := t.advance_leaveGate task record
    exact ⟨hadvance, hadvance.hosts _ _ hphase⟩
  | @opens record _ r hget hopen =>
    -- That the gate is open stays true up to the grant, as the lock is held till then.
    obtain ⟨hhost, hholds⟩ := hphase
    refine ⟨t.advance_refl task, hhost, hholds, Nat.le_refl _, ?_⟩
    intro g hg last hlast
    have hgate : g = r.gate := by
      rw [HostTable.gate?, hget] at hg
      cases hg
      rfl
    have hpast := htimely record g hg last hlast
    have hwide := FetchGate.untilOpen_eq_none_iff.mp hopen last (hgate ▸ hlast)
    rw [hgate]
    omega
  | shuts =>
    obtain ⟨hhost, hholds⟩ := hphase
    have hadvance := t.advance_releaseGate hholds
    exact ⟨hadvance, hadvance.hosts _ _ hhost⟩
  | grants =>
    obtain ⟨-, hholds, -, hopen⟩ := hphase
    exact ⟨t.advance_grant hholds hopen, trivial⟩
  | givesUp => exact ⟨t.advance_of_records rfl rfl rfl, trivial⟩
  | sleeps => exact ⟨t.advance_of_records rfl rfl rfl, hphase⟩
  | wakes => exact ⟨t.advance_refl task, hphase⟩

/-- A wait is granted by the step that stamps the grant. -/
theorem Leads.granted (h : Leads now task t phase phase' t') :
    phase.granted = false ∧ phase'.granted = phase.stamp?.isSome := by
  cases h <;> exact ⟨rfl, rfl⟩

/-- A step of a wait changes no gate but the one that it stamps a grant on. -/
theorem Leads.gate? {record : Nat} {g : FetchGate} (h : Leads now task t phase phase' t')
    (hstamp : HostTable.stampOn phase.stamp? record = none) (hgate : t.gate? record = some g) :
    t'.gate? record = some g := by
  cases h with
  | finds host => exact HostTable.gate?_find hgate host
  | locks | queues => rw [HostTable.gate?_requestGate, hgate]
  | reports => rw [HostTable.gate?_leaveGate, hgate]
  | shuts => rw [HostTable.gate?_releaseGate, hgate]
  | grants record' instant =>
    have hne : record' ≠ record := by
      rintro rfl
      simp [stamp?, HostTable.stampOn] at hstamp
    rw [HostTable.gate?_releaseGate, HostTable.gate?, HostTable.records_update_of_ne _ _ hne]
    exact hgate
  | served | opens | givesUp | sleeps | wakes => exact hgate

theorem stamp?_of_step_eq_none (h : phase.step now task t = none) :
    phase.stamp? = none ∧ phase.named? = none := by
  cases phase with
  | start | granting => cases h
  | _ => exact ⟨rfl, rfl⟩

theorem advance_cancel (task : Nat) (phase : WaitPhase) (t : HostTable) :
    t.Advance task none none (phase.cancel task t) := by
  cases phase with
  | inLine record deadline report => exact t.advance_leaveGate task record
  | _ => exact t.advance_refl task

theorem gate?_cancel (task : Nat) (phase : WaitPhase) (t : HostTable) (record : Nat) :
    (phase.cancel task t).gate? record = t.gate? record := by
  cases phase with
  | inLine record' deadline report => exact t.gate?_leaveGate record' task record
  | _ => rfl

end WaitPhase

namespace LookupPhase

def named? : LookupPhase → Option String
  | start host => some (HostTable.keyOf host)
  | _ => none

def Sound (task : Nat) (key : String) (t : HostTable) : LookupPhase → Prop
  | start host => HostTable.keyOf host = key
  | raising record _ _ => t.hostAt? record = some key ∧ t.holdsGate record task = true
  | found record | atLock record | inLine record _ | holding record | asking record
  | awaiting record _ _ | atGate record _ _ | inGateLine record _ _ _ | storing record _
  | leaving record _ => t.hostAt? record = some key
  | finished _ => True

variable {phase : LookupPhase} {p : Progress LookupPhase HostTable}

theorem Sound.advance {stamp? : Option (Nat × Nat)}
    {named? : Option String} (h : phase.Sound other key t)
    (hadvance : t.Advance task stamp? named? t') (hne : other ≠ task) :
    phase.Sound other key t' := by
  cases phase with
  | start | finished => exact h
  | raising => exact ⟨hadvance.hosts _ _ h.1, hadvance.holds _ _ hne h.2⟩
  | _ => exact hadvance.hosts _ _ h

theorem Sound.named (h : phase.Sound task key t) : ∀ name ∈ phase.named?, name = key := by
  intro name hname
  cases phase with
  | start host =>
    cases hname
    exact h
  | _ => cases hname

inductive Leads (now task : Nat) (t : HostTable) :
    LookupPhase → LookupPhase → HostTable → Prop where
  | finds (host : String) : Leads now task t (start host) (found (t.find host).1) (t.find host).2
  | sees {record : Nat} {outcome : Option Robots} (h : t.outcome record = some outcome) :
    Leads now task t (found record) (finished outcome) t
  | misses {record : Nat} (h : t.outcome record = none) :
    Leads now task t (found record) (atLock record) t
  | locks {record : Nat} (h : (t.requestRobots record task).holdsRobots record task = true) :
    Leads now task t (atLock record) (holding record) (t.requestRobots record task)
  | queues {record : Nat} (h : ¬ (t.requestRobots record task).holdsRobots record task = true) :
    Leads now task t (atLock record) (inLine record (now + reportInterval))
      (t.requestRobots record task)
  | served {record report : Nat} (h : t.holdsRobots record task = true) :
    Leads now task t (inLine record report) (holding record) t
  | reports {record report : Nat} (h : ¬ t.holdsRobots record task = true) (hle : report ≤ now) :
    Leads now task t (inLine record report) (atLock record) (t.leaveRobots record task)
  | seesAgain {record : Nat} {outcome : Option Robots} (h : t.outcome record = some outcome) :
    Leads now task t (holding record) (leaving record outcome) t
  | missesAgain {record : Nat} (h : t.outcome record = none) :
    Leads now task t (holding record) (asking record) t
  | asks {record : Nat} {r : HostRecord} (h : t.records[record]? = some r) :
    Leads now task t (asking record)
      (awaiting record (outcomeOf (t.service t.asked r.host).answer)
        ((t.service t.asked r.host).delay.map (now + ·)))
      { t with asked := t.asked ++ [(now, r.host)] }
  | wishes {record delay : Nat} {outcome : Option Robots} {due : Option Nat}
    (hdue : due.any (· ≤ now) = true) (h : wishedInterval? t outcome = some delay) :
    Leads now task t (awaiting record outcome due) (atGate record outcome delay) t
  | accepts {record : Nat} {outcome : Option Robots} {due : Option Nat}
    (hdue : due.any (· ≤ now) = true) (h : wishedInterval? t outcome = none) :
    Leads now task t (awaiting record outcome due) (storing record outcome) t
  | locksGate {record delay : Nat} {outcome : Option Robots}
    (h : (t.requestGate record task).holdsGate record task = true) :
    Leads now task t (atGate record outcome delay) (raising record outcome delay)
      (t.requestGate record task)
  | queuesAtGate {record delay : Nat} {outcome : Option Robots}
    (h : ¬ (t.requestGate record task).holdsGate record task = true) :
    Leads now task t (atGate record outcome delay)
      (inGateLine record outcome delay (now + gateReportInterval)) (t.requestGate record task)
  | servedAtGate {record delay report : Nat} {outcome : Option Robots}
    (h : t.holdsGate record task = true) :
    Leads now task t (inGateLine record outcome delay report) (raising record outcome delay) t
  | reportsAtGate {record delay report : Nat} {outcome : Option Robots}
    (h : ¬ t.holdsGate record task = true) (hle : report ≤ now) :
    Leads now task t (inGateLine record outcome delay report) (atGate record outcome delay)
      (t.leaveGate record task)
  | raises (record : Nat) (outcome : Option Robots) (delay : Nat) :
    Leads now task t (raising record outcome delay) (storing record outcome)
      ((t.update record fun r => { r with gate := r.gate.raise delay }).releaseGate record).1
  | stores (record : Nat) (outcome : Option Robots) :
    Leads now task t (storing record outcome) (leaving record outcome) (t.store record outcome)
  | leaves (record : Nat) (outcome : Option Robots) :
    Leads now task t (leaving record outcome) (finished outcome) (t.releaseRobots record).1

theorem leads_of_step (h : phase.step now task t = some p) :
    Leads now task t phase p.phase p.shared := by
  cases phase with
  | start host =>
    cases h
    exact .finds host
  | found record =>
    simp only [step] at h
    split at h <;> cases h
    · exact .sees ‹_›
    · exact .misses ‹_›
  | atLock record =>
    cases h
    dsimp only
    split
    · exact .locks ‹_›
    · exact .queues ‹_›
  | inLine record report =>
    simp only [step] at h
    split at h
    · cases h
      exact .served ‹_›
    · split at h <;> cases h
      exact .reports ‹_› ‹_›
  | holding record =>
    simp only [step] at h
    split at h <;> cases h
    · exact .seesAgain ‹_›
    · exact .missesAgain ‹_›
  | asking record =>
    simp only [step] at h
    split at h <;> cases h
    exact .asks ‹_›
  | awaiting record outcome due =>
    simp only [step] at h
    split at h <;> cases h
    dsimp only
    split
    · exact .wishes ‹_› ‹_›
    · exact .accepts ‹_› ‹_›
  | atGate record outcome delay =>
    cases h
    dsimp only
    split
    · exact .locksGate ‹_›
    · exact .queuesAtGate ‹_›
  | inGateLine record outcome delay report =>
    simp only [step] at h
    split at h
    · cases h
      exact .servedAtGate ‹_›
    · split at h <;> cases h
      exact .reportsAtGate ‹_› ‹_›
  | raising record outcome delay =>
    cases h
    exact .raises record outcome delay
  | storing record outcome =>
    cases h
    exact .stores record outcome
  | leaving record outcome =>
    cases h
    exact .leaves record outcome
  | finished outcome => cases h

variable {phase' : LookupPhase}

theorem Leads.sound (h : Leads now task t phase phase' t') (hphase : phase.Sound task key t)
    (hkeyed : t.Keyed) : t.Advance task none phase.named? t' ∧ phase'.Sound task key t' := by
  cases h with
  | finds host =>
    refine ⟨t.advance_find task host, ?_⟩
    rw [← show HostTable.keyOf host = key from hphase]
    exact t.hostAt?_find hkeyed host
  -- the lock of a look-up has nothing to do with the gate: what is known of gates stays
  | @locks record | @queues record =>
    have hadvance : t.Advance task none none (t.requestRobots record task) :=
      t.advance_update_of_same (fun _ => rfl) (fun _ => rfl) (fun _ => rfl)
    exact ⟨hadvance, hadvance.hosts _ _ hphase⟩
  | @reports record =>
    have hadvance : t.Advance task none none (t.leaveRobots record task) :=
      t.advance_update_of_same (fun _ => rfl) (fun _ => rfl) (fun _ => rfl)
    exact ⟨hadvance, hadvance.hosts _ _ hphase⟩
  | asks => exact ⟨t.advance_of_records rfl rfl rfl, hphase⟩
  | @locksGate record _ _ hholds =>
    have hadvance := t.advance_requestGate task record
    exact ⟨hadvance, hadvance.hosts _ _ hphase, hholds⟩
  | @queuesAtGate record =>
    have hadvance := t.advance_requestGate task record
    exact ⟨hadvance, hadvance.hosts _ _ hphase⟩
  | servedAtGate hholds => exact ⟨t.advance_refl task, hphase, hholds⟩
  | @reportsAtGate record =>
    have hadvance := t.advance_leaveGate task record
    exact ⟨hadvance, hadvance.hosts _ _ hphase⟩
  | raises record outcome delay =>
    have hadvance : t.Advance task none none ((t.update record fun r =>
        { r with gate := r.gate.raise delay }).releaseGate record).1 :=
      HostTable.advance_raise hphase.2
    exact ⟨hadvance, hadvance.hosts _ _ hphase.1⟩
  | stores record outcome =>
    have hadvance : t.Advance task none none (t.store record outcome) :=
      t.advance_update_of_same (fun _ => rfl) (fun _ => rfl) (fun _ => rfl)
    exact ⟨hadvance, hadvance.hosts _ _ hphase⟩
  | leaves record outcome =>
    exact ⟨t.advance_update_of_same (fun _ => rfl) (fun _ => rfl) (fun _ => rfl), trivial⟩
  | sees => exact ⟨t.advance_refl task, trivial⟩
  | misses | served | seesAgain | missesAgain | wishes | accepts =>
    exact ⟨t.advance_refl task, hphase⟩

end LookupPhase

namespace HostWait

def stamp? : HostWait → Option (Nat × Nat)
  | hostless => none
  | waiting phase => phase.stamp?

def named? : HostWait → Option String
  | hostless => none
  | waiting phase => phase.named?

def granted : HostWait → Bool
  | hostless => false
  | waiting phase => phase.granted

variable {wait : HostWait} {p : Progress HostWait HostTable}

theorem start_eq (item : WorkItem) (timeout : Nat) :
    (∃ host, item.hostKey? = some host ∧
      hostPredicate.start item timeout = .waiting (.start host (some timeout))) ∨
    hostPredicate.start item timeout = .hostless := by
  unfold hostPredicate
  dsimp only
  cases item.hostKey? with
  | some host => exact .inl ⟨host, rfl, rfl⟩
  | none => exact .inr rfl

theorem start_sound {item : WorkItem} {timeout : Nat} {phase : WaitPhase}
    (h : hostPredicate.start item timeout = .waiting phase) (now task : Nat) (t : HostTable) :
    ∃ host, item.hostKey? = some host ∧ phase.Sound now task (HostTable.keyOf host) t := by
  rcases start_eq item timeout with ⟨host, hhost, hstart⟩ | hstart
  · rw [hstart] at h
    cases h
    exact ⟨host, hhost, rfl⟩
  · rw [hstart] at h
    cases h

theorem stamp?_of_verdict? {verdict : Bool} (h : hostPredicate.verdict? wait = some verdict) :
    wait.stamp? = none ∧ wait.named? = none ∧ wait.granted = verdict := by
  cases wait with
  | hostless =>
    cases h
    exact ⟨rfl, rfl, rfl⟩
  | waiting phase =>
    cases phase with
    | finished granted =>
      cases h
      exact ⟨rfl, rfl, rfl⟩
    | _ => cases h

/-- A step of an item's wait is one of a wait for a host. -/
theorem step_waiting (h : hostPredicate.step now task wait t = some p) :
    ∃ phase next, wait = .waiting phase ∧ phase.step now task t = some next ∧
      p = next.within .waiting id := by
  cases wait with
  | hostless => cases h
  | waiting phase =>
    obtain ⟨next, hnext, rfl⟩ := Option.map_eq_some_iff.mp h
    exact ⟨phase, next, rfl, hnext, rfl⟩

end HostWait

end PoliteCrawl

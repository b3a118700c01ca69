import PoliteCrawl.Proofs.Crawl.Locks
import PoliteCrawl.Proofs.Crawl.Lookups

namespace PoliteCrawl

variable {ψ ε : Type} {plan : CrawlPlan ψ ε} {now task : Nat}

inductive Need where
  | slot
  /-- That the tasks of all items finish. -/
  | quiet
  | lock (kind : LockKind) (record : Nat)
  deriving DecidableEq

def Need.isMet (s : CrawlState ε) (task : Nat) : Need → Bool
  | slot => s.slots.assigned
  | quiet => s.unfinished == 0
  | lock kind record => (s.hosts.lockAt kind record).isHeldBy task

/-- How a task that is in line for locks stands: what it needs follows from its seats. -/
inductive Stands : Seats → Option Need → Prop where
  | apart : Stands .nowhere none
  | holdsGate (record : Nat) (robots : Option Seat) :
    Stands (.on record (some .held) robots) none
  | queuesAtGate (record : Nat) (robots : Option Seat) :
    Stands (.on record (some .queued) robots) (some (.lock .gate record))
  | holdsRobots (record : Nat) : Stands (.on record none (some .held)) none
  | queues (record : Nat) :
    Stands (.on record none (some .queued)) (some (.lock .robots record))

namespace Stands

variable {seats : Seats} {need? : Option Need} {need : Need} {record : Nat}

theorem lock (h : Stands seats (some need)) :
    ∃ kind record, need = .lock kind record ∧ seats kind record = some .queued := by
  cases h with
  | queuesAtGate record robots => exact ⟨.gate, record, rfl, Seats.on_gate⟩
  | queues record => exact ⟨.robots, record, rfl, Seats.on_robots⟩

/-- A task in line for a gate needs nothing else. -/
theorem gate (h : Stands seats need?) (hseat : (seats .gate record).isSome = true)
    (hneed : need? = some need) : need = .lock .gate record := by
  cases h with
  | queuesAtGate record' robots =>
    cases hneed
    rw [Seats.eq_of_on hseat]
  | queues record' =>
    obtain rfl := Seats.eq_of_on hseat
    simp at hseat
  | _ => cases hneed

/-- A task in line for the lock of a look-up needs nothing else but the lock of a gate. -/
theorem robots (h : Stands seats need?) (hseat : (seats .robots record).isSome = true)
    (hneed : need? = some need) :
    need = .lock .robots record ∨ ∃ record', need = .lock .gate record' := by
  cases h with
  | queuesAtGate record' =>
    cases hneed
    exact .inr ⟨record', rfl⟩
  | queues record' =>
    cases hneed
    rw [Seats.eq_of_on hseat]
    exact .inl rfl
  | _ => cases hneed

end Stands

namespace WaitPhase

def need? : WaitPhase → Option Need
  | inLine record _ _ => some (.lock .gate record)
  | _ => none

theorem stands (phase : WaitPhase) : Stands phase.seats phase.need? := by
  cases phase with
  | inLine record => exact .queuesAtGate record none
  | holding record | granting record => exact .holdsGate record none
  | _ => exact .apart

variable {phase : WaitPhase} {t : HostTable} {key : String}

theorem goes (hsound : phase.Sound now task key t)
    (hmet : ∀ kind record, phase.need? = some (.lock kind record) →
      (t.lockAt kind record).isHeldBy task = true) :
    (∃ granted, phase = finished granted) ∨ (phase.step now task t).isSome = true ∨
      ∃ record deadline waking, phase = asleep record deadline waking ∧ now < waking := by
  cases phase with
  | start | atGate | granting => exact .inr (.inl rfl)
  | inLine record deadline report =>
    have hholds := (t.holdsGate_eq_lockAt record task).trans (hmet _ _ rfl)
    exact .inr (.inl (step_isSome_of_holdsGate hsound (by simp [seats]) hholds))
  | holding record deadline =>
    exact .inr (.inl (step_isSome_of_holdsGate hsound (by simp [seats]) hsound.2))
  | shut record deadline wait interval =>
    simp only [step]
    split <;> exact .inr (.inl rfl)
  | asleep record deadline waking =>
    by_cases hwaking : waking ≤ now
    · simp [step, hwaking]
    · exact .inr (.inr ⟨record, deadline, waking, rfl, Nat.lt_of_not_le hwaking⟩)
  | finished granted => exact .inl ⟨granted, rfl⟩

end WaitPhase

namespace LookupPhase

def need? : LookupPhase → Option Need
  | inLine record _ => some (.lock .robots record)
  | inGateLine record _ _ _ => some (.lock .gate record)
  | _ => none

theorem stands (phase : LookupPhase) : Stands phase.seats phase.need? := by
  cases phase with
  | inLine record => exact .queues record
  | inGateLine record => exact .queuesAtGate record (some .held)
  | raising record => exact .holdsGate record (some .held)
  | start | found | atLock | finished => exact .apart
  | holding record | asking record | awaiting record | atGate record | storing record
  | leaving record => exact .holdsRobots record

variable {phase phase' : LookupPhase} {t t' : HostTable} {key : String}

theorem goes (hsound : phase.Sound task key t)
    (hmet : ∀ kind record, phase.need? = some (.lock kind record) →
      (t.lockAt kind record).isHeldBy task = true) :
    (∃ outcome, phase = finished outcome) ∨ (phase.step now task t).isSome = true ∨
      ∃ record outcome due, phase = awaiting record outcome due ∧
        due.any (· ≤ now) = false := by
  cases phase with
  | start | atLock | atGate | raising | storing | leaving => exact .inr (.inl rfl)
  | found record | holding record =>
    simp only [step]
    split <;> exact .inr (.inl rfl)
  | inLine record report =>
    have hholds := (t.holdsRobots_eq_lockAt record task).trans (hmet _ _ rfl)
    simp [step, hholds]
  | asking record =>
    obtain ⟨r, hget⟩ := HostTable.exists_record_of_hostAt? hsound
    simp [step, hget]
  | awaiting record outcome due =>
    cases hdue : due.any (· ≤ now) with
    | true => simp [step, hdue]
    | false => exact .inr (.inr ⟨record, outcome, due, rfl, hdue⟩)
  | inGateLine record outcome delay report =>
    have hholds := (t.holdsGate_eq_lockAt record task).trans (hmet _ _ rfl)
    simp [step, hholds]
  | finished outcome => exact .inl ⟨outcome, rfl⟩

def Answered : LookupPhase → Prop
  | awaiting _ _ due => due.isSome = true
  | _ => True

theorem Leads.of_answering (h : Leads now task t phase phase' t')
    (hanswers : ∀ asked host, (t.service asked host).delay.isSome = true) : phase'.Answered := by
  cases h with
  | asks => simpa [Answered] using hanswers _ _
  | _ => trivial

theorem Leads.service (h : Leads now task t phase phase' t') : t'.service = t.service := by
  cases h with
  | finds host => exact (t.heeds_find task host).service
  | _ => rfl

end LookupPhase

theorem LookupMove.service {t t' : HostTable} {lookup? lookup?' : Option LookupPhase}
    (h : LookupMove now task t t' lookup? lookup?') : t'.service = t.service := by
  cases h with
  | looks hstep ht =>
    subst ht
    exact (LookupPhase.leads_of_step hstep).service
  | begins _ h | keeps _ h | ends _ h | idles h => exact h.service

namespace EntryPhase

variable {ι φ σ : Type} {p : WaitPredicate ι φ σ} {v : Valve}

/-- After the cutoff an entry does not have to wait. -/
theorem step_isSome_of_cutoff {wait : φ} {cutoff : Nat} (h : cutoff ≤ now) (s : σ) :
    ((asking wait cutoff : EntryPhase ι φ).step p now task v s).isSome = true := by
  simp only [step]
  split
  · rfl
  · rfl
  · split
    · rfl
    · rw [if_pos h]
      rfl

/-- An entry goes on if its wait for a host does. -/
theorem step_isSome_of_wait {t : HostTable} {own : ε} {wait : WaitPhase}
    (h : (wait.step now task t).isSome = true) (cutoff : Nat) :
    ((asking (.inl (.waiting wait)) cutoff).step plan.rule.predicate now task v (t, own)).isSome =
      true := by
  obtain ⟨next, hnext⟩ := Option.isSome_iff_exists.mp h
  have hstep : plan.rule.predicate.step now task (.inl (.waiting wait)) (t, own) =
      some ((next.within HostWait.waiting id).within .inl (·, own)) := by
    show ((wait.step now task t).map _).map _ = _
    rw [hnext]
    rfl
  simp only [step, hstep]
  split <;> rfl

end EntryPhase

namespace ItemPhase

variable {phase phase' : ItemPhase ψ} {s s' : CrawlState ε}

def need? : ItemPhase ψ → Option Need
  | looking _ lookup => lookup.need?
  | phase => phase.hostWait?.bind (·.need?)

theorem stands (phase : ItemPhase ψ) : Stands phase.seats phase.need? := by
  have hwaits : Stands (.ofWait phase.hostWait?) (phase.hostWait?.bind (·.need?)) := by
    cases phase.hostWait? with
    | none => exact .apart
    | some wait => exact wait.stands
  cases phase with
  | looking candidate lookup => exact lookup.stands
  | _ => exact hwaits

/-- A task in line for the lock of a look-up is on a look-up of that record. -/
theorem looking_of_seat {record : Nat} (h : (phase.seats .robots record).isSome = true) :
    ∃ candidate lookup, phase = looking candidate lookup ∧ lookup.record? = some record := by
  have hwaits : (Seats.ofWait phase.hostWait? .robots record).isSome = false := by
    cases phase.hostWait? with
    | none => rfl
    | some wait => rw [Seats.ofWait, wait.seats_robots record, Option.isSome_none]
  cases phase with
  | looking candidate lookup => exact ⟨candidate, lookup, rfl, lookup.record?_of_seat h⟩
  | _ => exact absurd (h.symm.trans hwaits) (by simp)

/-- A task that waits neither to have what is another's nor for its own turn: it sleeps until it may
ask for a host again, or until its time in the valve is over, or it waits for an answer. -/
inductive Resting (now : Nat) : ItemPhase ψ → Prop where
  | asleep {phase : ItemPhase ψ} {record waking : Nat} {deadline : Option Nat}
    (h : phase.hostWait? = some (.asleep record deadline waking)) (hlt : now < waking) :
    Resting now phase
  | inValve (item : WorkItem) (wait : ψ) {cutoff : Nat} (hlt : now < cutoff) :
    Resting now (entering item (.asking (.inr wait) cutoff))
  | learning (candidate : Candidate) (record : Nat) (outcome : Option Robots) {due : Option Nat}
    (h : due.any (· ≤ now) = false) : Resting now (looking candidate (.awaiting record outcome due))
  | fetching (item : WorkItem) (result : FetchResult) {due : Option Nat}
    (h : due.any (· ≤ now) = false) : Resting now (awaiting item result due)

def Answered : ItemPhase ψ → Prop
  | looking _ lookup => lookup.Answered
  | awaiting _ _ due => due.isSome = true
  | _ => True

theorem step_isSome_of_entry {entry : EntryPhase WorkItem (PressureWait ψ)}
    (h : (entry.step plan.rule.predicate now task s.valve (s.hosts, s.own)).isSome = true)
    (item : WorkItem) : ((entering item entry).step plan now task s).isSome = true := by
  obtain ⟨next, hnext⟩ := Option.isSome_iff_exists.mp h
  cases entry with
  | settled admission => cases h
  | _ =>
    simp only [step, hnext]
    rfl

theorem step_isSome_of_lookup {lookup : LookupPhase}
    (h : (lookup.step now task s.hosts).isSome = true) (candidate : Candidate) :
    ((looking candidate lookup).step plan now task s).isSome = true := by
  obtain ⟨next, hnext⟩ := Option.isSome_iff_exists.mp h
  cases lookup with
  | finished robots => cases h
  | _ =>
    simp only [step, hnext]
    rfl

/-- A task that waits for a host goes on if its wait does. -/
theorem step_isSome_of_wait {wait : WaitPhase} (hwait : phase.hostWait? = some wait)
    (h : (wait.step now task s.hosts).isSome = true) :
    (phase.step plan now task s).isSome = true := by
  cases phase with
  | entering item entry =>
    obtain ⟨cutoff, rfl⟩ := EntryPhase.eq_of_hostWait? hwait
    exact step_isSome_of_entry (EntryPhase.step_isSome_of_wait h cutoff) item
  | pausing candidate wait' =>
    cases hwait
    obtain ⟨next, hnext⟩ := Option.isSome_iff_exists.mp h
    cases wait with
    | finished granted => cases h
    | _ =>
      simp only [step, hnext]
      rfl
  | _ => cases hwait

/-- A task that has the lock of a gate does not have to wait. -/
theorem step_isSome_of_holdsGate {record : Nat} (hsound : phase.Sound now task s.hosts)
    (hseat : (phase.seats .gate record).isSome = true)
    (hholds : s.hosts.holdsGate record task = true) :
    (phase.step plan now task s).isSome = true := by
  have hwaits : (Seats.ofWait phase.hostWait? .gate record).isSome = true →
      (phase.step plan now task s).isSome = true := by
    intro hseat
    cases hwait : phase.hostWait? with
    | none =>
      rw [hwait] at hseat
      cases hseat
    | some wait =>
      rw [hwait] at hseat
      obtain ⟨host, -, hkey⟩ := hsound.wait hwait
      exact step_isSome_of_wait hwait (WaitPhase.step_isSome_of_holdsGate hkey hseat hholds)
  cases phase with
  | looking candidate lookup =>
    exact step_isSome_of_lookup (LookupPhase.step_isSome_of_holdsGate hseat hholds) candidate
  | _ => exact hwaits hseat

/-- A wait for a host goes on or sleeps, if it has what it needs and is not over. -/
theorem goes_of_wait {wait : WaitPhase} (hsound : phase.Sound now task s.hosts)
    (hwait : phase.hostWait? = some wait)
    (hmet : ∀ need, wait.need? = some need → need.isMet s task = true) :
    (∃ granted, wait = .finished granted) ∨ (phase.step plan now task s).isSome = true ∨
      phase.Resting now := by
  obtain ⟨host, -, hkey⟩ := hsound.wait hwait
  rcases WaitPhase.goes hkey (fun _ _ hneed => hmet _ hneed) with hover | hsome |
    ⟨record, deadline, waking, rfl, hlt⟩
  · exact .inl hover
  · exact .inr (.inl (step_isSome_of_wait hwait hsome))
  · exact .inr (.inr (.asleep hwait hlt))

theorem goes_of_entering {item : WorkItem} {entry : EntryPhase WorkItem (PressureWait ψ)}
    (hsound : (entering item entry).Sound now task s.hosts)
    (hmet : ∀ need, (entering item entry).need? = some need → need.isMet s task = true) :
    ((entering item entry).step plan now task s).isSome = true ∨
      (entering item entry).Resting now := by
  cases entry with
  | start item' =>
    refine .inl (step_isSome_of_entry ?_ item)
    simp only [EntryPhase.step]
    split <;> rfl
  | pressed | passing => exact .inl rfl
  | settled admission => cases admission <;> exact .inl rfl
  | asking wait cutoff =>
    cases wait with
    | inl wait =>
      cases wait with
      | hostless => exact .inl rfl
      | waiting wait =>
        rcases goes_of_wait hsound rfl hmet with ⟨granted, rfl⟩ | hgoes
        · cases granted <;> exact .inl rfl
        · exact hgoes
    | inr wait =>
      rcases Nat.lt_or_ge now cutoff with hlt | hle
      · exact .inr (.inValve item wait hlt)
      · exact .inl (step_isSome_of_entry (EntryPhase.step_isSome_of_cutoff hle _) item)

/-- The task of an item goes on or rests, if it has what it needs and has not finished. -/
theorem goes (hsound : phase.Sound now task s.hosts)
    (hmet : ∀ need, phase.need? = some need → need.isMet s task = true)
    (hgoes : phase.isFinished = false) :
    (phase.step plan now task s).isSome = true ∨ phase.Resting now := by
  cases phase with
  | entering item entry => exact goes_of_entering hsound hmet
  | looking candidate lookup =>
    rcases LookupPhase.goes hsound (fun _ _ hneed => hmet _ hneed) with ⟨robots, rfl⟩ | hsome |
      ⟨record, outcome, due, rfl, hdue⟩
    · exact .inl rfl
    · exact .inl (step_isSome_of_lookup hsome candidate)
    · exact .inr (.learning candidate record outcome hdue)
  | pausing candidate wait =>
    rcases goes_of_wait hsound rfl hmet with ⟨granted, rfl⟩ | hgoes
    · exact .inl rfl
    · exact hgoes
  | awaiting item result due =>
    cases hdue : due.any (· ≤ now) with
    | true => exact .inl (by simp [step, hdue])
    | false => exact .inr (.fetching item result hdue)
  | targeting item admission | judging candidate robots | writing item result =>
    simp only [step]
    split <;> exact .inl rfl
  | rejecting | calling | completing | failing | requeueing | leaving | freeing => exact .inl rfl
  | finished => cases hgoes

/-- A task that rests goes on at some later time, if the answer that it waits for comes. -/
theorem Resting.wakes (h : phase.Resting now) (hanswered : phase.Answered) :
    ∃ later, now ≤ later ∧ (phase.step plan later task s).isSome = true := by
  cases h with
  | asleep hwait hlt =>
    exact ⟨_, Nat.le_of_lt hlt, step_isSome_of_wait hwait (by simp [WaitPhase.step])⟩
  | inValve item wait hlt =>
    exact ⟨_, Nat.le_of_lt hlt,
      step_isSome_of_entry (EntryPhase.step_isSome_of_cutoff (Nat.le_refl _) _) item⟩
  | learning candidate record outcome hdue =>
    obtain ⟨instant, rfl⟩ := Option.isSome_iff_exists.mp hanswered
    have hlt : now < instant := by simpa using hdue
    exact ⟨instant, Nat.le_of_lt hlt, step_isSome_of_lookup (by simp [LookupPhase.step]) candidate⟩
  | fetching item result hdue =>
    obtain ⟨instant, rfl⟩ := Option.isSome_iff_exists.mp hanswered
    have hlt : now < instant := by simpa using hdue
    exact ⟨instant, Nat.le_of_lt hlt, by simp [step]⟩

theorem Leads.of_answering (h : Leads plan now task phase s phase' s')
    (hrobots : ∀ asked host, (s.hosts.service asked host).delay.isSome = true)
    (hpages : ∀ calls call, (plan.service calls call).delay.isSome = true) : phase'.Answered := by
  cases h with
  | looks hnext => exact (LookupPhase.leads_of_step hnext).of_answering hrobots
  | calls => simpa [Answered] using hpages _ _
  | requeues item entered => cases entered <;> trivial
  | _ => trivial

end ItemPhase

namespace ReaderPhase

def need? : ReaderPhase → Option Need
  | inLine _ _ => some .slot
  | draining => some .quiet
  | _ => none

/-- The reader goes on, if it has what it needs and has not returned. -/
theorem goes {phase : ReaderPhase} {s : CrawlState ε}
    (hmet : ∀ need, phase.need? = some need → need.isMet s readerTask = true)
    (hgoes : ∀ result, phase ≠ returned result) : (phase.step plan s).isSome = true := by
  cases phase with
  | inLine item lines =>
    have hassigned : s.slots.assigned = true := hmet _ rfl
    simp [step, hassigned]
  | draining =>
    have hnone : s.unfinished = 0 := eq_of_beq (hmet _ rfl)
    simp [step, hnone]
  | reading lines =>
    cases lines with
    | nil => rfl
    | cons line lines =>
      simp only [step]
      split <;> rfl
  | sorting item lines =>
    simp only [step]
    split
    · rfl
    · split <;> rfl
  | returned result => exact absurd rfl (hgoes result)
  | givingBack | asking | dispatching | flushing | closing => rfl

end ReaderPhase

/-- All questions of a crawl are answered at some time. -/
structure Crawler.Answering (c : Crawler ψ ε) : Prop where
  robots : ∀ asked host, (c.hosts.service asked host).delay.isSome = true
  pages : ∀ calls call, (c.plan.service calls call).delay.isSome = true

theorem Crawler.Answering.of_history {c : Crawler ψ ε} {lines : List String} {envelope : Envelope}
    {requeue : RequeueStream} {events : List (Event (CrawlTask ψ) (CrawlState ε))}
    {last : Configuration (CrawlTask ψ) (CrawlState ε)} (hanswering : c.Answering)
    (h : (CrawlTask.machine c.plan).History (c.start lines envelope requeue) events last) :
    last.shared.hosts.service = c.hosts.service ∧
      ∀ (task : Nat) (phase : ItemPhase ψ), last.tasks[task]? = some (.item phase) →
        phase.Answered := by
  induction h with
  | refl =>
    refine ⟨rfl, fun task phase hphase => ?_⟩
    cases List.mem_singleton.mp (List.mem_of_getElem? hphase)
  | @act d events task turn h hstep ih =>
    obtain ⟨hservice, hanswered⟩ := ih
    obtain ⟨before, hbefore, hturn⟩ := (CrawlTask.machine c.plan).stepAt_eq_some hstep
    refine ⟨((CrawlTask.robotsDiscipline c.plan).step hturn).service.trans hservice, ?_⟩
    intro other phase hphase
    rcases Configuration.tasks_after hphase with ⟨-, heq⟩ | ⟨-, hsame⟩ | ⟨-, hmem⟩
    · obtain ⟨before, -, -, hleads⟩ := CrawlTask.leads_of_stepAt hstep heq.symm
      refine hleads.of_answering (fun asked host => ?_) hanswering.pages
      rw [hservice]
      exact hanswering.robots asked host
    · exact hanswered other phase hsame
    · obtain ⟨item, rfl⟩ := CrawlTask.spawned_of_stepAt hstep hmem
      trivial
  | pass _ _ ih => exact ih

end PoliteCrawl

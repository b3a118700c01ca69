import PoliteCrawl.Proofs.Crawl.Outcomes
import PoliteCrawl.Proofs.Crawl.Passage
import PoliteCrawl.Proofs.Crawl.Slots
import PoliteCrawl.Proofs.Crawl.Starts

namespace PoliteCrawl

variable {ψ ε : Type} {plan : CrawlPlan ψ ε} {now task : Nat}

namespace EntryPhase

def isPaid (entry : EntryPhase WorkItem (PressureWait ψ)) : Bool := entry.paid? == some true

variable {entry : EntryPhase WorkItem (PressureWait ψ)} {v : Valve} {t : HostTable} {own : ε}
  {next : Progress (EntryPhase WorkItem (PressureWait ψ)) (Valve × HostTable × ε)}

theorem isPaid_asking (wait : HostWait) (cutoff : Nat) :
    (asking (.inl wait) cutoff : EntryPhase WorkItem (PressureWait ψ)).isPaid = wait.granted := by
  cases hgranted : wait.granted <;> simp [isPaid, paid?, hgranted]

theorem stamp?_asking (wait : HostWait) (cutoff : Nat) :
    (asking (.inl wait) cutoff : EntryPhase WorkItem (PressureWait ψ)).hostWait?.bind (·.stamp?) =
      wait.stamp? := by
  cases wait <;> rfl

/-- An entry gets its grant by the step that stamps it, and goes on to have it. -/
theorem step_isPaid (hrule : plan.rule = .hosts)
    (h : entry.step plan.rule.predicate now task v (t, own) = some next) :
    entry.isPaid.toNat + (entry.hostWait?.bind (·.stamp?)).isSome.toNat =
      next.phase.isPaid.toNat := by
  cases entry with
  | start item =>
    simp only [step] at h
    split at h <;> cases h <;> rfl
  | pressed item =>
    rw [step_pressed, hrule, predicate_start, PressureRule.start] at h
    rcases HostWait.start_eq item v.drawTimeout.1 with ⟨host, -, hstart⟩ | hstart <;>
      rw [hstart] at h <;> cases h <;> rfl
  | asking wait cutoff =>
    rcases step_asking h with ⟨verdict, hverdict, -, hphase⟩ |
      ⟨hverdict, ⟨progress, hprogress, hphase, -⟩ | ⟨hnone, hphase, -⟩⟩
    · rw [hrule] at hverdict
      cases wait with
      | inr wait => cases hverdict
      | inl wait =>
        obtain ⟨hstamp, -, hgranted⟩ := HostWait.stamp?_of_verdict? hverdict
        rw [isPaid_asking, stamp?_asking, hstamp, hgranted, hphase]
        cases verdict <;> rfl
    · rw [hphase]
      rcases step_rule hprogress with ⟨phase, next, rfl, hnext, hwait, -⟩ | ⟨own', next, rfl, hwait, -⟩
      · obtain ⟨hbefore, hafter⟩ := (WaitPhase.leads_of_step hnext).granted
        rw [isPaid_asking, stamp?_asking, hwait, isPaid_asking]
        change phase.granted.toNat + phase.stamp?.isSome.toNat = next.phase.granted.toNat
        rw [hbefore, hafter, Bool.toNat_false, Nat.zero_add]
      · rw [hwait]
        rfl
    · -- A wait that is cut off has not been granted anything, or it would have ended by itself.
      rw [hphase]
      rw [hrule] at hverdict hnone
      cases wait with
      | inr wait => rfl
      | inl wait =>
        cases wait with
        | hostless => cases hverdict
        | waiting phase =>
          have hstep : phase.step now task t = none :=
            Option.map_eq_none_iff.mp (Option.map_eq_none_iff.mp hnone)
          have hgranted : phase.granted = false := by
            cases phase with
            | finished granted => cases hverdict
            | _ => rfl
          rw [isPaid_asking, stamp?_asking]
          change phase.granted.toNat + phase.stamp?.isSome.toNat = 0
          rw [hgranted, (WaitPhase.stamp?_of_step_eq_none hstep).1]
          rfl
  | passing =>
    cases h
    rfl
  | settled admission => cases h

end EntryPhase

namespace ItemPhase

/-- Whether the task has the grant of its item, and has not used it. -/
def isPaid (phase : ItemPhase ψ) : Bool := phase.paid? == some true

def lost? (plan : CrawlPlan ψ ε) : ItemPhase ψ → Option Candidate
  | judging candidate robots =>
    if candidate.admission = .passed ∧ allowed plan.agent candidate.target robots = false then
      some candidate
    else none
  | _ => none

theorem Of.of_lost? {phase : ItemPhase ψ} {item : WorkItem} {candidate : Candidate}
    (hof : phase.Of item) (h : phase.lost? plan = some candidate) : candidate.Of item := by
  cases phase with
  | judging candidate' robots =>
    simp only [lost?, Option.ite_none_right_eq_some] at h
    cases h.2
    exact hof
  | _ => cases h

/-- Whether the task has called for its fetch, or will not do so any more. -/
def isPast : ItemPhase ψ → Bool
  | awaiting .. | writing .. | completing .. | failing .. | requeueing .. | leaving | freeing
  | finished => true
  | _ => false

variable {phase phase' : ItemPhase ψ} {s s' : CrawlState ε} {item : WorkItem}

/-- A grant that is taken is had until it goes on a fetch or is lost. -/
theorem Leads.charged (h : Leads plan now task phase s phase' s') (hrule : plan.rule = .hosts)
    (hissue : item.issue? = none) (hof : phase.Of item) (hphase : phase.Sound now task s.hosts) :
    phase.stamp?.isSome.toNat + phase.isPaid.toNat =
      (CrawlTask.calling? (.item phase)).isSome.toNat + (phase.lost? plan).isSome.toNat +
        phase'.isPaid.toNat := by
  cases h with
  | enters hstep =>
    have hpaid := EntryPhase.step_isPaid hrule hstep
    change _ = 0 + 0 + _
    rw [Nat.add_comm, Nat.add_zero, Nat.zero_add]
    exact hpaid
  | letIn item admission => cases admission <;> rfl
  | strays hnone =>
    cases hof
    exact absurd hnone (WorkItem.not_astray hissue)
  | @denies candidate robots _ hallowed =>
    cases hadmission : candidate.admission <;>
      simp [ItemPhase.stamp?, hostWait?, isPaid, paid?, lost?, hadmission, hallowed,
        CrawlTask.calling?]
  | pausesFor hallowed hbelow =>
    simp [ItemPhase.stamp?, hostWait?, isPaid, paid?, lost?, hbelow, CrawlTask.calling?,
      WaitPhase.granted]
  | goesOn hallowed hpassed =>
    simp [ItemPhase.stamp?, hostWait?, isPaid, paid?, lost?, hpassed, hallowed, CrawlTask.calling?]
  | paused candidate granted =>
    have hgranted : granted = true := hphase.1
    subst hgranted
    rfl
  | pauses hnext =>
    obtain ⟨hbefore, hafter⟩ := (WaitPhase.leads_of_step hnext).granted
    simp [ItemPhase.stamp?, hostWait?, isPaid, paid?, lost?, CrawlTask.calling?, hbefore, hafter]
  | requeues item entered => cases entered <;> rfl
  | _ => rfl

theorem Leads.isPast (h : Leads plan now task phase s phase' s') (hpast : phase.isPast = true) :
    phase'.isPast = true := by
  cases h with
  | answered | breaksOff | writes | succeeds | fails | retries | givesUp | leaves | frees => rfl
  | requeues item entered => cases entered <;> rfl
  | _ => cases hpast

theorem not_stamps_of_isPast (phase : ItemPhase ψ) (hpast : phase.isPast = true) :
    ¬ phase.stamp?.isSome = true := by
  intro hstamp
  cases phase with
  | entering | rejecting | targeting | looking | judging | pausing | calling => cases hpast
  | _ => cases hstamp

/-- Whoever has a grant or takes one has it or has called for its fetch after that. -/
theorem Leads.isPaid (h : Leads plan now task phase s phase' s') (hrule : plan.rule = .hosts)
    (hpaid : (phase.stamp?.isSome || phase.isPaid || phase.isPast) = true) :
    (phase'.isPaid || phase'.isPast) = true := by
  cases h with
  | @enters item entry s next hstep =>
    have hstamp := EntryPhase.step_isPaid hrule hstep
    change ((entry.hostWait?.bind (·.stamp?)).isSome || entry.isPaid || false) = true at hpaid
    change (next.phase.isPaid || false) = true
    rw [Bool.or_false] at hpaid ⊢
    cases hafter : next.phase.isPaid with
    | true => rfl
    | false =>
      rw [hafter] at hstamp
      rcases Bool.or_eq_true_iff.mp hpaid with htrue | htrue <;> simp [htrue] at hstamp
  | letIn | targets | learns | looks => exact hpaid
  | pausesFor _ hbelow =>
    simp [ItemPhase.stamp?, hostWait?, ItemPhase.isPaid, paid?, ItemPhase.isPast, hbelow] at hpaid
  | pauses hnext =>
    obtain ⟨hbefore, hafter⟩ := (WaitPhase.leads_of_step hnext).granted
    simpa [ItemPhase.stamp?, hostWait?, ItemPhase.isPaid, paid?, ItemPhase.isPast, hbefore,
      hafter] using hpaid
  | requeues item entered => cases entered <;> rfl
  | turnedAway | rejects => cases hpaid
  | _ => rfl

end ItemPhase

namespace CrawlTask

def lost? (plan : CrawlPlan ψ ε) : CrawlTask ψ → Option Candidate
  | reader _ => none
  | item phase => phase.lost? plan

/-- The grants that tasks stamped, with the places of their items: on which record, and when. -/
def stamped (plan : CrawlPlan ψ ε) (items : List WorkItem)
    (events : List (Event (CrawlTask ψ) (CrawlState ε))) : List (Nat × Nat × Nat) :=
  noted (fun task _ => (stamp? task).toList) plan items events

/-- The candidates that the predicate of the valve let in and robots rules then denied, with the
places of their items. -/
def lost (plan : CrawlPlan ψ ε) (items : List WorkItem)
    (events : List (Event (CrawlTask ψ) (CrawlState ε))) : List (Nat × Candidate) :=
  noted (fun task _ => (lost? plan task).toList) plan items events

end CrawlTask

structure Spent (plan : CrawlPlan ψ ε) (items : List WorkItem)
    (events : List (Event (CrawlTask ψ) (CrawlState ε))) (crew : List (Errand ψ)) (t : HostTable) :
    Prop where
  places : ((CrawlTask.stamped plan items events).map (·.1)).Perm
    ((CrawlTask.fetched plan items events).map (·.1) ++
      (CrawlTask.lost plan items events).map (·.1) ++
        crew.flatMap fun e => if e.phase.isPaid then [e.place] else [])
  counts : ∀ record, (grantsOn CrawlState.hosts record events).length =
    (CrawlTask.stamped plan items events).countP (·.2.1 = record)
  hosts : ∀ x ∈ CrawlTask.stamped plan items events, ∃ item host, items[x.1]? = some item ∧
    item.hostKey? = some host ∧ t.hostAt? x.2.1 = some (HostTable.keyOf host)
  own : ∀ x ∈ CrawlTask.lost plan items events, ∃ item, items[x.1]? = some item ∧ x.2.Of item

namespace Spent

variable {items : List WorkItem} {done : List WorkItem} {reader reader' : ReaderPhase}
  {crew front back : List (Errand ψ)} {e : Errand ψ} {phase' : ItemPhase ψ}
  {events : List (Event (CrawlTask ψ) (CrawlState ε))}
  {c : Configuration (CrawlTask ψ) (CrawlState ε)} {turn : Turn (CrawlTask ψ) (CrawlState ε)}

theorem start (t : HostTable) : Spent (ψ := ψ) (ε := ε) plan items [] [] t := by
  refine ⟨.refl _, fun _ => rfl, ?_, ?_⟩
  · intro x hx
    cases hx
  · intro x hx
    cases hx

theorem reader_act {started : List WorkItem} (h : Spent plan items events crew c.shared.hosts)
    (hmuster : Muster plan items done reader crew c.tasks)
    (hleads : reader.Leads plan c.shared reader' turn.shared started) (place : Nat) :
    Spent plan items (events ++ [.act ⟨c, readerTask, turn⟩])
      (crew ++ started.map (.fresh · place)) turn.shared.hosts := by
  have hstamped : CrawlTask.stamped plan items (events ++ [.act ⟨c, readerTask, turn⟩]) =
      CrawlTask.stamped plan items events :=
    (CrawlTask.noted_reader hmuster).trans (List.append_nil _)
  have hfetched : CrawlTask.fetched plan items (events ++ [.act ⟨c, readerTask, turn⟩]) =
      CrawlTask.fetched plan items events :=
    (CrawlTask.noted_reader hmuster).trans (List.append_nil _)
  have hlost : CrawlTask.lost plan items (events ++ [.act ⟨c, readerTask, turn⟩]) =
      CrawlTask.lost plan items events :=
    (CrawlTask.noted_reader hmuster).trans (List.append_nil _)
  have hhosts : turn.shared.hosts = c.shared.hosts := hleads.leaves.1
  refine ⟨?_, ?_, ?_, ?_⟩
  · rw [hstamped, hfetched, hlost]
    exact Errand.perm_reader h.places (fun _ => rfl) place started
  · intro record
    rw [grantsOn_act, hstamped, hhosts, FetchGate.gained?_self]
    simpa using h.counts record
  · rw [hstamped, hhosts]
    exact h.hosts
  · rw [hlost]
    exact h.own

/-- The places that go in and out with a step are as many as the grants that do. -/
theorem places_step {α β γ : Type} (place : Nat) {stamp? : Option α} {fetch? : Option β}
    {lost? : Option γ} {before after : Bool}
    (h : stamp?.isSome.toNat + before.toNat =
      fetch?.isSome.toNat + lost?.isSome.toNat + after.toNat) :
    (stamp?.toList.map (place, ·)).map (·.1) ++ (if before then [place] else []) =
      ((fetch?.toList.map (place, ·)).map (·.1) ++ (lost?.toList.map (place, ·)).map (·.1)) ++
        (if after then [place] else []) := by
  have hoption : ∀ {δ : Type} (o : Option δ),
      (o.toList.map (place, ·)).map (·.1) = List.replicate o.isSome.toNat place := by
    intro δ o
    cases o <;> rfl
  have hbool : ∀ b : Bool, (if b then [place] else []) = List.replicate b.toNat place := by
    intro b
    cases b <;> rfl
  rw [hoption, hoption, hoption, hbool, hbool, List.replicate_append_replicate,
    List.replicate_append_replicate, List.replicate_append_replicate, h]

theorem countP_stamp (stamp? : Option (Nat × Nat)) (record place : Nat) :
    (if (HostTable.stampOn stamp? record).isSome then 1 else 0) =
      (stamp?.toList.map (place, ·)).countP (·.2.1 = record) := by
  cases stamp? with
  | none => rfl
  | some stamp => by_cases hrecord : stamp.1 = record <;> simp [HostTable.stampOn, hrecord]

theorem errand_act (h : Spent plan items events (front ++ e :: back) c.shared.hosts)
    (hmuster : Muster plan items done reader (front ++ e :: back) c.tasks)
    (hholds : (CrawlTask.discipline plan).Holds c) (hrule : plan.rule = .hosts)
    (hleads : e.phase.Leads plan c.now (front.length + 1) c.shared phase' turn.shared) :
    Spent plan items (events ++ [.act ⟨c, front.length + 1, turn⟩])
      (front ++ { e with phase := phase' } :: back) turn.shared.hosts := by
  have he : e ∈ front ++ e :: back := List.mem_append_cons_self
  obtain ⟨hplace, htakes⟩ := hmuster.origin_mem he
  have hof := hmuster.own e he
  have hget : (Act.mk c (front.length + 1) turn).phase? = some (.item e.phase) :=
    hmuster.phase?_errand
  have hphase : e.phase.Sound c.now (front.length + 1) c.shared.hosts := hholds.tasks _ _ hget
  obtain ⟨hadvance, -⟩ := hleads.sound hphase hholds.timely hholds.keyed
  have hstamped : CrawlTask.stamped plan items (events ++ [.act ⟨c, front.length + 1, turn⟩]) =
      CrawlTask.stamped plan items events ++ e.phase.stamp?.toList.map (e.place, ·) :=
    CrawlTask.noted_errand hmuster
  have hfetched : CrawlTask.fetched plan items (events ++ [.act ⟨c, front.length + 1, turn⟩]) =
      CrawlTask.fetched plan items events ++
        (CrawlTask.calling? (.item e.phase)).toList.map (e.place, ·) :=
    CrawlTask.noted_errand hmuster
  have hlost : CrawlTask.lost plan items (events ++ [.act ⟨c, front.length + 1, turn⟩]) =
      CrawlTask.lost plan items events ++ (e.phase.lost? plan).toList.map (e.place, ·) :=
    CrawlTask.noted_errand hmuster
  -- what a step adds to the grants it adds to what they were spent on, or to what is still paid
  refine ⟨?_, ?_, ?_, ?_⟩
  · rw [hstamped, hfetched, hlost, List.map_append, List.map_append, List.map_append]
    have hcharged := hleads.charged hrule (WorkItem.issue?_of_takes htakes) hof hphase
    apply (Errand.perm_errand h.places (places_step e.place hcharged)).trans
    apply List.perm_iff_count.mpr
    intro place
    simp only [List.count_append]
    omega
  · intro record
    have hgained : (FetchGate.gained? (front.length + 1) (c.shared.hosts.gate? record)
        (turn.shared.hosts.gate? record)).toList.length =
          (e.phase.stamp?.toList.map (e.place, ·)).countP (·.2.1 = record) := by
      rw [Option.length_toList, (hadvance.follows record).gained?_isSome (front.length + 1)]
      exact countP_stamp e.phase.stamp? record e.place
    rw [grantsOn_act, hstamped, List.length_append, List.countP_append, h.counts record]
    exact congrArg (_ + ·) hgained
  · rw [hstamped]
    intro x hx
    rcases List.mem_append.mp hx with hx | hx
    · obtain ⟨item, host, hitem, hhost, hrecord⟩ := h.hosts x hx
      exact ⟨item, host, hitem, hhost, hadvance.hosts _ _ hrecord⟩
    · obtain ⟨stamp, hstamp, rfl⟩ := List.mem_map.mp hx
      obtain ⟨-, host, hhost, hrecord⟩ := hphase.stamped (Option.mem_toList.mp hstamp)
      exact ⟨e.item, host, hplace, hof.host? hhost, hadvance.hosts _ _ hrecord⟩
  · rw [hlost]
    intro x hx
    rcases List.mem_append.mp hx with hx | hx
    · exact h.own x hx
    · obtain ⟨candidate, hcandidate, rfl⟩ := List.mem_map.mp hx
      exact ⟨e.item, hplace, hof.of_lost? (Option.mem_toList.mp hcandidate)⟩

end Spent

def Url.isOf (url : Url) (host : String) : Bool :=
  url.hostKey?.any (HostTable.keyOf · = HostTable.keyOf host)

def HostTable.grants (t : HostTable) (host : String) : Nat :=
  ((t.cache.peek (keyOf host)).bind t.gate?).elim 0 (·.grants)

/-- How the fetches of a run are paid for: each by a grant that its own task was given before, an item
that is turned away takes none, and if the table has dropped no record, the gate of a host has in the
end counted a grant for each fetch from the host, and one for each of its items that the predicate
of the valve let in and robots rules denied. -/
structure Crawler.PaidFor (c : Crawler ψ ε) (input : List UInt8)
    (events : List (Event (CrawlTask ψ) (CrawlState ε)))
    (last : Configuration (CrawlTask ψ) (CrawlState ε)) : Prop where
  calls : last.shared.fetches.calls = (CrawlTask.starts events).map (·.call)
  once : ((CrawlTask.starts events).map (·.task)).Nodup
  own : ∀ earlier a later x, events = earlier ++ .act a :: later → CrawlTask.start? a = some x →
    ∃ record host, x.candidate.target.hostKey? = some host ∧
      a.before.shared.hosts.hostAt? record = some (HostTable.keyOf host) ∧
        ∃ g ∈ grantsOn CrawlState.hosts record earlier, g.task = x.task
  turnedAway : ∀ a ∈ acts events, ∀ item, a.phase? = some (.item (.rejecting item)) →
    ∀ record, ∀ g ∈ grantsOn CrawlState.hosts record events, g.task ≠ a.task
  balance : (∀ key, last.shared.hosts.Keeps key) →
    ∀ result, last.tasks[readerTask]?.bind (·.result?) = some result →
      ∀ host, last.shared.hosts.grants host =
        last.shared.fetches.calls.countP (·.target.isOf host) +
          (CrawlTask.lost c.plan (Input.items c.plan.format input) events).countP
            (·.2.target.isOf host)

namespace Crawler

variable {c : Crawler ψ ε} {total : Nat} {input : List UInt8} {envelope : Envelope}
  {requeue : RequeueStream} {events : List (Event (CrawlTask ψ) (CrawlState ε))}
  {last : Configuration (CrawlTask ψ) (CrawlState ε)}

theorem kept_spent (hfresh : c.hosts.Fresh) (hrule : c.plan.rule = .hosts) :
    c.Kept input envelope requeue fun _ _ crew events s =>
      Spent c.plan (Input.items c.plan.format input) events crew s.hosts where
  start := .start _
  reader _ hmuster hspent hleads _ := hspent.reader_act hmuster hleads _
  errand h hmuster hspent hleads := by
    have hholds := (holds_start hfresh (Input.lines input) envelope requeue).history h
    exact hspent.errand_act hmuster hholds hrule hleads
  pass hspent := by
    refine ⟨?_, ?_, ?_, ?_⟩
    · rw [CrawlTask.stamped, CrawlTask.fetched, CrawlTask.lost, CrawlTask.noted_pass,
        CrawlTask.noted_pass, CrawlTask.noted_pass]
      exact hspent.places
    · intro record
      rw [grantsOn_pass, CrawlTask.stamped, CrawlTask.noted_pass]
      exact hspent.counts record
    · rw [CrawlTask.stamped, CrawlTask.noted_pass]
      exact hspent.hosts
    · rw [CrawlTask.lost, CrawlTask.noted_pass]
      exact hspent.own

/-- The task of an item that is turned away gets no grant, neither before nor after that. -/
theorem not_granted_of_rejecting (hfresh : c.hosts.Fresh) (hrule : c.plan.rule = .hosts)
    (h : (CrawlTask.machine c.plan).History (c.start (Input.lines input) envelope requeue) events
      last)
    {a : Act (CrawlTask ψ) (CrawlState ε)} {item : WorkItem} {record : Nat} {g : Grant}
    (ha : a ∈ acts events) (hphase : a.phase? = some (.item (.rejecting item)))
    (hg : g ∈ grantsOn CrawlState.hosts record events) : g.task ≠ a.task := by
  intro htask
  have hstart := holds_start hfresh (Input.lines input) envelope requeue
  obtain ⟨b, hb, hbtask, phase, hphase', instant, hstamp⟩ := hstart.act_of_mem_grantsOn h hg
  let start := c.start (Input.lines input) envelope requeue
  let rejects := CrawlTask.OnItem fun phase : ItemPhase ψ => ∃ item, phase = .rejecting item
  let stamps := CrawlTask.OnItem fun phase : ItemPhase ψ => phase.stamp?.isSome = true
  let past := CrawlTask.OnItem fun phase : ItemPhase ψ => phase.isPast = true
  let paid := CrawlTask.OnItem fun phase : ItemPhase ψ => (phase.isPaid || phase.isPast) = true
  have hrejects : (CrawlTask.machine c.plan).Brings start rejects past := by
    apply CrawlTask.brings_of_leads
    rintro now task phase phase' s s' hleads ⟨item, rfl⟩
    cases hleads with
    | rejects => rfl
  have hpast : (CrawlTask.machine c.plan).Brings start past past :=
    CrawlTask.brings_of_leads (fun hleads hpast => hleads.isPast hpast) start
  have hstamps : (CrawlTask.machine c.plan).Brings start stamps paid := by
    apply CrawlTask.brings_of_leads
    intro now task phase phase' s s' hleads hstamp
    exact hleads.isPaid hrule (by simp [hstamp])
  have hpaid : (CrawlTask.machine c.plan).Brings start paid paid := by
    apply CrawlTask.brings_of_leads
    intro now task phase phase' s s' hleads hpaid
    exact hleads.isPaid hrule (by rw [Bool.or_assoc, hpaid, Bool.or_true])
  -- A task that is turned away is past its fetch, where no grant is stamped; one that has a grant is
  -- not turned away any more.
  refine h.exclusive hrejects hpast hstamps hpaid (CrawlTask.OnItem.disjoint ?_)
    (CrawlTask.OnItem.disjoint ItemPhase.not_stamps_of_isPast) (CrawlTask.OnItem.disjoint ?_) ha hb
    (htask.symm.trans hbtask.symm) hphase hphase' ⟨item, rfl⟩ ?_
  · rintro phase ⟨item, rfl⟩ hstamp
    cases hstamp
  · rintro phase hphase ⟨item, rfl⟩
    cases hphase
  · cases phase with
    | reader reader => cases hstamp
    | item phase => exact Option.isSome_of_eq_some hstamp

/-- The task of a fetch has its grant before the fetch starts. -/
theorem granted_of_start? (hfresh : c.hosts.Fresh) (hrule : c.plan.rule = .hosts)
    (h : (CrawlTask.machine c.plan).History (c.start (Input.lines input) envelope requeue) events
      last)
    {a : Act (CrawlTask ψ) (CrawlState ε)} {x : FetchStart} (ha : a.before = last)
    (hx : CrawlTask.start? a = some x) :
    ∃ record host, x.candidate.target.hostKey? = some host ∧
      last.shared.hosts.hostAt? record = some (HostTable.keyOf host) ∧
        ∃ g ∈ grantsOn CrawlState.hosts record events, g.task = x.task := by
  have hof := hostKey?_of_start? h ha hx
  subst ha
  obtain ⟨hphase, htask, -⟩ := CrawlTask.start?_eq_some hx
  have htolled := tolled_of_history hfresh hrule h
  obtain ⟨record, instant, htoll⟩ := htolled.paid a.task _ x.candidate.host hphase rfl rfl
  obtain ⟨g, hg, hgtask, -⟩ := htoll.granted
  exact ⟨record, x.candidate.host, hof, htoll.host, g, hg, hgtask.trans htask.symm⟩

/-- The grants that a gate has counted are those of its record in the run. -/
theorem grants_eq_countP (hfresh : c.hosts.Fresh) {items : List WorkItem} {crew : List (Errand ψ)}
    (h : (CrawlTask.machine c.plan).History (c.start (Input.lines input) envelope requeue) events
      last)
    (hspent : Spent c.plan items events crew last.shared.hosts)
    (hkeeps : ∀ key, last.shared.hosts.Keeps key) (host : String) :
    last.shared.hosts.grants host = (CrawlTask.stamped c.plan items events).countP fun x =>
      (items[x.1]?.bind (·.hostKey?)).any (HostTable.keyOf · = HostTable.keyOf host) := by
  have hstart := holds_start hfresh (Input.lines input) envelope requeue
  have hkeyed := (hstart.history h).keyed
  -- A grant is of the host just if it is on the record that the table keeps of the host.
  have hsame : ∀ x ∈ CrawlTask.stamped c.plan items events,
      (items[x.1]?.bind (·.hostKey?)).any (HostTable.keyOf · = HostTable.keyOf host) =
        decide (last.shared.hosts.cache.peek (HostTable.keyOf host) = some x.2.1) := by
    intro x hx
    obtain ⟨item, host', hitem, hhost, hrecord⟩ := hspent.hosts x hx
    rw [hitem, Option.bind_some, hhost, Option.any_some, decide_eq_decide]
    constructor
    · intro heq
      rw [← heq]
      exact hkeeps _ _ hrecord
    · intro hpeek
      have hkept := hkeyed _ _ hpeek
      rw [hrecord] at hkept
      exact Option.some.inj hkept
  rw [List.countP_congr (q := fun x => decide
    (last.shared.hosts.cache.peek (HostTable.keyOf host) = some x.2.1)) fun x hx => by
      rw [hsame x hx]]
  cases hpeek : last.shared.hosts.cache.peek (HostTable.keyOf host) with
  | none => simp [HostTable.grants, hpeek]
  | some record =>
    obtain ⟨r, hr, -⟩ := Option.map_eq_some_iff.mp (hkeyed _ _ hpeek)
    have hgate : last.shared.hosts.gate? record = some r.gate := by
      rw [HostTable.gate?, hr]
      rfl
    have hcount := (hstart.log hfresh.records h record).count r.gate hgate
    rw [HostTable.grants, hpeek, Option.bind_some, hgate, Option.elim_some, hcount,
      hspent.counts record]
    congr 1
    funext x
    simp [eq_comm]

theorem balance_of_returned (hfresh : c.hosts.Fresh) (hrule : c.plan.rule = .hosts)
    (hslots : c.slots = { free := total }) (hfetches : c.fetches.calls = [])
    (h : (CrawlTask.machine c.plan).History (c.start (Input.lines input) envelope requeue) events
      last)
    (hkeeps : ∀ key, last.shared.hosts.Keeps key) {result : Except CrawlError CrawlSummary}
    (hreturned : last.tasks[readerTask]?.bind (·.result?) = some result) (host : String) :
    last.shared.hosts.grants host = last.shared.fetches.calls.countP (·.target.isOf host) +
      (CrawlTask.lost c.plan (Input.items c.plan.format input) events).countP
        (·.2.target.isOf host) := by
  obtain ⟨done, reader, crew, hmuster, hspent⟩ := (kept_spent hfresh hrule).of_history h
  obtain rfl := hmuster.reader_of_result hreturned
  have hfetched := kept_fetchedOnce.of_muster h hmuster
  have hfinished := (occupied_of_muster hslots h hmuster).finished_of_closed rfl
  have hnone : crew.flatMap (fun e => if e.phase.isPaid then [e.place] else []) = [] := by
    apply List.flatMap_eq_nil_iff.mpr
    intro e he
    rw [ItemPhase.eq_finished (hfinished e he)]
    rfl
  have hplaces := hspent.places
  rw [hnone, List.append_nil] at hplaces
  -- Each side is counted by the places of the items, as a place says which host it is.
  let items := Input.items c.plan.format input
  let ofHost (place : Nat) : Bool :=
    (items[place]?.bind (·.hostKey?)).any (HostTable.keyOf · = HostTable.keyOf host)
  have hown : ∀ x : Nat × Candidate, (∃ item, items[x.1]? = some item ∧ x.2.Of item) →
      ofHost x.1 = x.2.target.isOf host := by
    rintro x ⟨item, hitem, hof⟩
    show (items[x.1]?.bind (·.hostKey?)).any _ = _
    rw [hitem, Option.bind_some, Url.isOf, hof.hostKey?, hof.2.2]
  have hcalls : last.shared.fetches.calls.countP (·.target.isOf host) =
      (CrawlTask.fetched c.plan items events).countP fun x => ofHost x.1 := by
    have htargets := congrArg (List.countP (·.isOf host)) hfetched.calls
    rw [hfetches, List.map_nil, List.nil_append, List.countP_map, List.countP_map] at htargets
    refine Eq.trans htargets (List.countP_congr fun x hx => ?_)
    rw [hown x (hfetched.own x hx)]
    rfl
  have hlost : (CrawlTask.lost c.plan items events).countP (·.2.target.isOf host) =
      (CrawlTask.lost c.plan items events).countP fun x => ofHost x.1 := by
    refine List.countP_congr fun x hx => ?_
    rw [hown x (hspent.own x hx)]
  have hcount := hplaces.countP_eq ofHost
  rw [List.countP_append, List.countP_map, List.countP_map, List.countP_map] at hcount
  rw [grants_eq_countP hfresh h hspent hkeeps host, hcalls, hlost]
  exact hcount

/-- However the tasks of a new crawler run, each fetch is paid for by a grant of its own. -/
theorem paidFor_of_history {s : Settings} {robots : RobotsService} {service : FetchService}
    {hostJitter valveJitter : Jitter} {c : Crawler Unit Unit}
    {events : List (Event (CrawlTask Unit) (CrawlState Unit))}
    {last : Configuration (CrawlTask Unit) (CrawlState Unit)}
    (hc : Crawler.ofSettings s robots service hostJitter valveJitter = .ok c)
    (h : (CrawlTask.machine c.plan).History (c.start (Input.lines input) envelope requeue) events
      last) :
    c.PaidFor input events last := by
  have hmade := ofSettings_eq_ok hc
  have hfresh : c.hosts.Fresh := by
    rw [hmade.hosts]
    exact HostTable.fresh_ofSettings _ _ _ _
  have hfetches : c.fetches.calls = [] := by rw [hmade.fetches]
  have htolled := tolled_of_history hfresh hmade.rule h
  refine ⟨?_, htolled.once, ?_, ?_, ?_⟩
  · rw [calls_of_history h, hfetches, List.nil_append]
  · rintro earlier a later x rfl hx
    exact granted_of_start? hfresh hmade.rule h.split.1 rfl hx
  · intro a ha item hphase record g hg
    exact not_granted_of_rejecting hfresh hmade.rule h ha hphase hg
  · intro hkeeps result hreturned host
    exact balance_of_returned hfresh hmade.rule hmade.slots hfetches h hkeeps hreturned host

def blank : FetchService := fun _ call =>
  { result := .record {
      uri := call.target.text
      fetchedAt := { seconds := 0 }
      request := ""
      outcome := .response 200 "" [] } }

theorem paidFor_blank : ∃ (c : Crawler Unit Unit)
    (events : List (Event (CrawlTask Unit) (CrawlState Unit)))
    (last : Configuration (CrawlTask Unit) (CrawlState Unit)),
    Crawler.ofSettings (Passage.settings Lone.line 5 1) Passage.robots blank (.seeded 0)
      (.seeded 0) = .ok c ∧
    (CrawlTask.machine c.plan).History
      (c.start (Input.lines Lone.input) (.start {}) (.disabled .raw)) events last ∧
    last.tasks[readerTask]?.bind (·.result?) =
      some (.ok { read := 1, dispatched := 1, completed := 1 }) ∧
    (∀ key, last.shared.hosts.Keeps key) ∧
    last.shared.fetches.calls = [{ time := 0, target := Lone.target }] ∧
    c.PaidFor Lone.input events last := by
  have hmade := Passage.made Lone.line blank 5 1 0
  obtain ⟨events, last, hhistory, hreturned, hcalls, -⟩ :=
    Lone.exists_paged blank rfl
  have hfresh : (Passage.crawler blank 5 1 0).hosts.Fresh :=
    ⟨rfl, fun _ => Std.HashMap.getElem?_empty⟩
  have hroom : (Input.hostKeys (Passage.plan blank).format Lone.input).length ≤
      (Passage.crawler blank 5 1 0).hosts.cache.capacity := by
    decide +kernel
  have hroomy := roomy_of_history hfresh hroom hhistory
  exact ⟨_, events, last, hmade, hhistory, hreturned, hroomy.keeps, hcalls,
    paidFor_of_history hmade hhistory⟩

end Crawler

end PoliteCrawl

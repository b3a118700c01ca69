import PoliteCrawl.Proofs.Crawl.Slots
import PoliteCrawl.Proofs.Crawl.Starts
import PoliteCrawl.Proofs.Politeness.Locks

namespace PoliteCrawl

variable {ψ ε : Type} {plan : CrawlPlan ψ ε} {now task : Nat}

def Seats.ofWait : Option WaitPhase → Seats
  | some wait => wait.seats
  | none => .nowhere

namespace EntryPhase

variable {entry : EntryPhase WorkItem (PressureWait ψ)} {v : Valve} {t : HostTable} {own : ε}
  {next : Progress (EntryPhase WorkItem (PressureWait ψ)) (Valve × HostTable × ε)}

theorem ofWait_start (rule : PressureRule ψ ε) (item : WorkItem) (timeout cutoff : Nat) :
    Seats.ofWait (asking (rule.start item timeout) cutoff).hostWait? = .nowhere := by
  cases hwait : (asking (rule.start item timeout) cutoff).hostWait? with
  | none => rfl
  | some wait =>
    have hstart := hostWait?_start hwait
    rcases HostWait.start_eq item timeout with ⟨host, -, heq⟩ | heq
    · rw [heq] at hstart
      cases hstart
      rfl
    · rw [heq] at hstart
      cases hstart

/-- Once there is a verdict, the wait for it is not in line. -/
theorem ofWait_of_verdict? {rule : PressureRule ψ ε} {wait : PressureWait ψ} {verdict : Bool}
    (h : rule.verdict? wait = some verdict) (cutoff : Nat) :
    Seats.ofWait (asking wait cutoff).hostWait? = .nowhere := by
  cases wait with
  | inl wait =>
    cases wait with
    | hostless => rfl
    | waiting phase =>
      cases phase with
      | finished granted => rfl
      | _ => cases h
  | inr wait => rfl

/-- A wait that is given up is not in line any more. -/
theorem moves_cancel {rule : PressureRule ψ ε} {wait : PressureWait ψ} {cutoff : Nat}
    (hnone : rule.step now task wait (t, own) = none)
    (hsound : ∀ phase, (asking wait cutoff).hostWait? = some phase →
      ∃ key, phase.Sound now task key t) :
    t.Moves task (.ofWait (asking wait cutoff).hostWait?) (rule.cancel task wait (t, own)).1
      .nowhere := by
  cases wait with
  | inl wait =>
    cases wait with
    | hostless => exact t.moves_refl task .nowhere
    | waiting phase =>
      obtain ⟨key, hphase⟩ := hsound phase rfl
      exact WaitPhase.moves_cancel hphase
        (Option.map_eq_none_iff.mp (Option.map_eq_none_iff.mp hnone))
  | inr wait => cases rule <;> exact t.moves_refl task .nowhere

theorem moves (h : entry.step plan.rule.predicate now task v (t, own) = some next)
    (hsound : ∀ wait, entry.hostWait? = some wait → ∃ key, wait.Sound now task key t) :
    t.Moves task (.ofWait entry.hostWait?) next.shared.2.1 (.ofWait next.phase.hostWait?) := by
  cases entry with
  | start item =>
    simp only [step] at h
    split at h <;> cases h <;> exact t.moves_refl task .nowhere
  | pressed item =>
    rw [step_pressed] at h
    cases h
    rw [predicate_start, ofWait_start]
    exact t.moves_refl task .nowhere
  | asking wait cutoff =>
    rcases step_asking h with ⟨verdict, hverdict, hshared, hphase⟩ |
      ⟨-, ⟨progress, hprogress, hphase, hshared⟩ | ⟨hnone, hphase, hshared⟩⟩
    · rw [hphase, hshared, ofWait_of_verdict? hverdict]
      cases verdict <;> exact t.moves_refl task .nowhere
    · rw [hphase, hshared]
      rcases step_rule hprogress with ⟨phase, next, rfl, hnext, hwait, htable⟩ |
        ⟨own', next, rfl, hwait, htable⟩
      · obtain ⟨key, hkey⟩ := hsound phase rfl
        rw [hwait, htable]
        exact (WaitPhase.leads_of_step hnext).moves hkey
      · rw [hwait, htable]
        exact t.moves_refl task .nowhere
    · rw [hphase, hshared]
      exact moves_cancel hnone hsound
  | passing =>
    cases h
    exact t.moves_refl task .nowhere
  | settled admission => cases h

end EntryPhase

namespace ItemPhase

def seats : ItemPhase ψ → Seats
  | looking _ lookup => lookup.seats
  | phase => .ofWait phase.hostWait?

theorem Leads.moves {phase phase' : ItemPhase ψ} {s s' : CrawlState ε}
    (h : Leads plan now task phase s phase' s') (hsound : phase.Sound now task s.hosts) :
    s.hosts.Moves task phase.seats s'.hosts phase'.seats := by
  cases h with
  | enters hstep =>
    apply EntryPhase.moves hstep
    intro wait hwait
    obtain ⟨host, -, hkey⟩ := hsound.2 wait hwait
    exact ⟨_, hkey⟩
  | looks hnext => exact (LookupPhase.leads_of_step hnext).moves hsound
  | pauses hnext => exact (WaitPhase.leads_of_step hnext).moves hsound.2
  | requeues item entered => cases entered <;> exact s.hosts.moves_refl task .nowhere
  | _ => exact s.hosts.moves_refl task .nowhere

end ItemPhase

namespace CrawlTask

def seats : CrawlTask ψ → Seats
  | reader _ => .nowhere
  | item phase => phase.seats

variable {c start last : Configuration (CrawlTask ψ) (CrawlState ε)}
  {events : List (Event (CrawlTask ψ) (CrawlState ε))} {turn : Turn (CrawlTask ψ) (CrawlState ε)}

theorem moves {phase : CrawlTask ψ} {s : CrawlState ε}
    (hstep : (machine plan).step now task phase s = some turn)
    (hsound : phase.Sound now task s.hosts) :
    s.hosts.Moves task phase.seats turn.shared.hosts turn.phase.seats := by
  cases phase with
  | reader phase =>
    obtain ⟨⟨phase', s', started⟩, hreader, rfl⟩ := Option.map_eq_some_iff.mp hstep
    rw [(ReaderPhase.leads_of_step hreader).leaves.1]
    exact s.hosts.moves_refl task .nowhere
  | item phase =>
    obtain ⟨p, hp, rfl⟩ := Option.map_eq_some_iff.mp hstep
    exact (ItemPhase.leads_of_step hp).moves hsound

def seatAt (c : Configuration (CrawlTask ψ) (CrawlState ε)) (kind : LockKind) (record task : Nat) :
    Option Seat :=
  c.tasks[task]?.bind fun phase => phase.seats kind record

theorem seatAt_of_getElem? {phase : CrawlTask ψ} (h : c.tasks[task]? = some phase)
    (kind : LockKind) (record : Nat) : seatAt c kind record task = phase.seats kind record := by
  rw [seatAt, h]
  rfl

/-- The lines for all locks are as the tasks stand. -/
def Seated (c : Configuration (CrawlTask ψ) (CrawlState ε)) : Prop :=
  ∀ kind record, (c.shared.hosts.lockAt kind record).Seated (seatAt c kind record)

theorem Seated.act (h : Seated c) (hgates : (discipline plan).Holds c)
    (hstep : (machine plan).stepAt c task = some turn) : Seated (c.after task turn) := by
  obtain ⟨phase, hphase, hturn⟩ := (machine plan).stepAt_eq_some hstep
  have hmoves := moves hturn (hgates.tasks task phase hphase)
  intro kind record
  apply (h kind record).move
  · rw [seatAt_of_getElem? hphase, seatAt_of_getElem? (Configuration.tasks_after_self hphase)]
    exact hmoves kind record
  · intro other hother
    apply Configuration.bind_after_of_ne _ hother
    -- New tasks have yet to enter the valve.
    intro phase' hmem
    cases phase' with
    | reader phase' => rfl
    | item phase' =>
      obtain ⟨item, rfl⟩ := spawned_of_stepAt hstep hmem
      rfl

theorem Seated.history (hstart : Seated start) (hgates : (discipline plan).Holds start)
    (h : (machine plan).History start events last) : Seated last := by
  induction h with
  | refl => exact hstart
  | act h hstep ih => exact ih.act (hgates.history h) hstep
  | pass _ _ ih => exact ih

end CrawlTask

namespace Crawler

variable {c : Crawler ψ ε} {input : List UInt8} {envelope : Envelope} {requeue : RequeueStream}
  {events : List (Event (CrawlTask ψ) (CrawlState ε))}
  {last : Configuration (CrawlTask ψ) (CrawlState ε)}

theorem gates_of_history (hunlocked : c.hosts.Unlocked c.now)
    (h : (CrawlTask.machine c.plan).History (c.start (Input.lines input) envelope requeue) events
      last) : (CrawlTask.discipline c.plan).Holds last :=
  (holds_start_of_keyed hunlocked.timely hunlocked.keyed _ envelope requeue).history h

theorem seated_of_history (hunlocked : c.hosts.Unlocked c.now)
    (h : (CrawlTask.machine c.plan).History (c.start (Input.lines input) envelope requeue) events
      last) : CrawlTask.Seated last := by
  have hgates := holds_start_of_keyed hunlocked.timely hunlocked.keyed (Input.lines input) envelope
    requeue
  refine CrawlTask.Seated.history (fun kind record => ?_) hgates h
  have hnobody : CrawlTask.seatAt (c.start (Input.lines input) envelope requeue) kind record =
      fun _ => none := by
    funext task
    cases task <;> rfl
  rw [hnobody]
  exact Lock.seated_of_line (hunlocked.lines kind record)

/-- Between runs no task has to do with the table of hosts. -/
theorem Ready.unlocked {s : Settings} {ψ ε : Type} {c : Crawler ψ ε} (h : Ready s c) :
    c.hosts.Unlocked c.now := by
  induction h with
  | made hc =>
    rw [(ofSettings_eq_ok hc).hosts]
    exact (HostTable.fresh_ofSettings _ _ _ _).unlocked _
  | refitted _ _ _ _ ih => exact ih
  | @ran ψ ε c input envelope requeue last result h hsteps hreturned ih =>
    obtain ⟨events, hhistory⟩ := (CrawlTask.machine _).steps_iff_history.mp hsteps
    have hgates := gates_of_history ih hhistory
    refine ⟨hgates.timely, hgates.keyed, fun kind record => ?_⟩
    -- A task that has finished is in no line.
    apply List.eq_nil_iff_forall_not_mem.mpr
    intro task hmem
    have hseat := (seated_of_history ih hhistory kind record).mem task |>.mp hmem
    rw [CrawlTask.seatAt] at hseat
    cases hphase : last.tasks[task]? with
    | none => simp [hphase] at hseat
    | some phase =>
      rw [hphase, Option.bind_some] at hseat
      cases phase with
      | reader phase => cases hseat
      | item phase =>
        rw [finished_of_returned h.slots hhistory hreturned hphase] at hseat
        cases hseat

end Crawler

end PoliteCrawl

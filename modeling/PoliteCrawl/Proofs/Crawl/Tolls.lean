import PoliteCrawl.Proofs.Crawl.Gates

namespace PoliteCrawl

variable {ψ ε : Type} {now task : Nat} {t : HostTable} {plan : CrawlPlan ψ ε}

/-- A grant is stamped with the instant at which the gate was found open. -/
theorem WaitPhase.Leads.stamps_now {phase phase' : WaitPhase} {t' : HostTable}
    {record instant : Nat} (h : Leads now task t phase phase' t')
    (hstamp : phase'.stamp? = some (record, instant)) : instant = now := by
  cases h with
  | opens =>
    cases hstamp
    rfl
  | _ => cases hstamp

namespace EntryPhase

/-- Whether an entry has been granted the host of its item, as long as it may let the item in. -/
def paid? : EntryPhase WorkItem (PressureWait ψ) → Option Bool
  | start _ | pressed _ => some false
  | asking (.inl wait) _ => some wait.granted
  | passing => some true
  | settled (some admission) => some (admission = .passed)
  | asking (.inr _) _ | settled none => none

variable {entry : EntryPhase WorkItem (PressureWait ψ)} {v : Valve} {own : ε}
  {next : Progress (EntryPhase WorkItem (PressureWait ψ)) (Valve × HostTable × ε)}

theorem step_paid {after : Bool} (hrule : plan.rule = .hosts)
    (h : entry.step plan.rule.predicate now task v (t, own) = some next)
    (hafter : next.phase.paid? = some after) :
    ∃ before, entry.paid? = some before ∧
      after = (before || (entry.hostWait?.bind (·.stamp?)).isSome) := by
  cases entry with
  | start item =>
    simp only [step] at h
    split at h <;> cases h <;> cases hafter <;> exact ⟨false, rfl, rfl⟩
  | pressed item =>
    rw [step_pressed, hrule, predicate_start, PressureRule.start] at h
    refine ⟨false, rfl, ?_⟩
    rcases HostWait.start_eq item v.drawTimeout.1 with ⟨host, -, hstart⟩ | hstart
    · rw [hstart] at h
      cases h
      cases hafter
      rfl
    · rw [hstart] at h
      cases h
      cases hafter
      rfl
  | asking wait cutoff =>
    -- the wait has its verdict, goes on or is cut off; only one that goes on can stamp a grant
    rcases step_asking h with ⟨verdict, hverdict, hshared, hphase⟩ |
      ⟨-, ⟨progress, hprogress, hphase, hshared⟩ | ⟨hnone, hphase, hshared⟩⟩
    · rw [hphase] at hafter
      cases verdict with
      | false => cases hafter
      | true =>
        cases hafter
        rw [hrule] at hverdict
        cases wait with
        | inr wait => cases hverdict
        | inl wait =>
          obtain ⟨-, -, hgranted⟩ := HostWait.stamp?_of_verdict? hverdict
          exact ⟨true, congrArg some hgranted, rfl⟩
    · rw [hphase] at hafter
      rcases step_rule hprogress with ⟨phase, next, rfl, hnext, hwait, htable⟩ |
        ⟨own', next, rfl, hwait, htable⟩
      · rw [hwait] at hafter
        cases hafter
        obtain ⟨hbefore, hgranted⟩ := (WaitPhase.leads_of_step hnext).granted
        refine ⟨false, congrArg some hbefore, ?_⟩
        exact hgranted
      · rw [hwait] at hafter
        cases hafter
    · rw [hphase] at hafter
      cases hafter
  | passing =>
    cases h
    cases hafter
    exact ⟨true, rfl, rfl⟩
  | settled admission => cases h

end EntryPhase

namespace ItemPhase

def paid? : ItemPhase ψ → Option Bool
  | entering _ entry => entry.paid?
  | targeting _ admission => some (admission = .passed)
  | looking candidate _ | judging candidate _ => some (candidate.admission = .passed)
  | pausing _ wait => some wait.granted
  | calling _ => some true
  | _ => none

def candidate? : ItemPhase ψ → Option Candidate
  | looking candidate _ | judging candidate _ | pausing candidate _ | calling candidate =>
    some candidate
  | _ => none

variable {phase phase' : ItemPhase ψ} {s s' : CrawlState ε}

/-- A task takes its grant by the step that stamps it, or has it before. -/
theorem Leads.paid {after : Bool} (h : Leads plan now task phase s phase' s')
    (hrule : plan.rule = .hosts) (hphase : phase.Sound now task s.hosts)
    (hafter : phase'.paid? = some after) :
    ∃ before, phase.paid? = some before ∧ after = (before || phase.stamp?.isSome) := by
  cases h with
  | letIn item admission =>
    cases hafter
    exact ⟨_, rfl, (Bool.or_false _).symm⟩
  | enters hstep => exact EntryPhase.step_paid hrule hstep hafter
  | targets | learns | looks =>
    cases hafter
    exact ⟨_, rfl, (Bool.or_false _).symm⟩
  | pausesFor _ hbelow =>
    cases hafter
    refine ⟨false, ?_, rfl⟩
    rw [paid?, hbelow]
    rfl
  | goesOn _ hpassed =>
    cases hafter
    refine ⟨true, ?_, rfl⟩
    rw [paid?, hpassed]
    rfl
  | paused candidate granted =>
    cases hafter
    -- A wait without a deadline has not ended but with a grant.
    have hgranted : granted = true := hphase.1
    subst hgranted
    exact ⟨true, rfl, rfl⟩
  | pauses hnext =>
    cases hafter
    obtain ⟨hbefore, hgranted⟩ := (WaitPhase.leads_of_step hnext).granted
    exact ⟨false, congrArg some hbefore, hgranted⟩
  | requeues item entered => cases entered <;> cases hafter
  | _ => cases hafter

theorem Leads.paid?_of_calling {candidate : Candidate}
    (h : Leads plan now task (calling candidate) s phase' s') : phase'.paid? = none := by
  cases h with
  | calls => rfl

/-- Only the step that starts a fetch is logged. -/
theorem Leads.fetches (h : Leads plan now task phase s phase' s') :
    (∃ candidate, phase = calling candidate ∧ s'.fetches.calls =
      s.fetches.calls ++ [{ time := now, target := candidate.target }]) ∨
    (∀ candidate, phase ≠ calling candidate) ∧ s'.fetches.calls = s.fetches.calls := by
  cases h with
  | calls candidate => exact .inl ⟨candidate, rfl, rfl⟩
  | requeues item entered => exact .inr ⟨by simp, rfl⟩
  | _ => exact .inr ⟨by simp, rfl⟩

/-- The host of a task stays the same, and so does its candidate. -/
theorem Leads.host? {host : String} (h : Leads plan now task phase s phase' s')
    (hhost : phase'.host? = some host) : phase.host? = some host := by
  cases h with
  | targets hurl hkey =>
    cases hhost
    exact hkey
  | requeues item entered => cases entered <;> cases hhost
  | turnedAway | rejects | strays | denies | calls | answered | breaksOff | writes | succeeds
  | fails | retries | givesUp | leaves | frees => cases hhost
  | _ => exact hhost

theorem Leads.candidate? {after : Bool} {candidate : Candidate}
    (h : Leads plan now task phase s phase' s') (hafter : phase'.paid? = some after)
    (hcandidate : phase.candidate? = some candidate) : phase'.candidate? = some candidate := by
  cases h with
  | learns | looks | pausesFor | goesOn | paused | pauses => exact hcandidate
  | denies | calls => cases hafter
  | requeues item entered => cases entered <;> cases hafter
  | _ => cases hcandidate

theorem Leads.stamp? {record instant : Nat} (h : Leads plan now task phase s phase' s')
    (hphase : phase.Sound now task s.hosts) (hstamp : phase'.stamp? = some (record, instant)) :
    instant = now := by
  obtain ⟨wait, hwait, hstamped⟩ := Option.bind_eq_some_iff.mp hstamp
  cases h with
  | @enters item entry s next hstep =>
    have hentry : next.phase.hostWait? = some wait := hwait
    rcases EntryPhase.step_hosts hstep hphase.1 with ⟨_, progress, -, hnext, hwait', -⟩ |
      ⟨-, -, hstart⟩
    · rw [hentry] at hwait'
      cases hwait'
      exact (WaitPhase.leads_of_step hnext).stamps_now hstamped
    · obtain ⟨timeout, hwaiting⟩ := hstart wait hentry
      rcases HostWait.start_eq item timeout with ⟨host, -, heq⟩ | heq
      · rw [heq] at hwaiting
        cases hwaiting
        cases hstamped
      · rw [heq] at hwaiting
        cases hwaiting
  | pauses hnext =>
    cases hwait
    exact (WaitPhase.leads_of_step hnext).stamps_now hstamped
  | pausesFor =>
    cases hwait
    cases hstamped
  | requeues item entered => cases entered <;> cases hwait
  | _ => cases hwait

/-- A task that has its grant only ever waits for the robots file of its host. -/
theorem looking_of_paid (hpaid : phase.paid? = some true)
    (hstep : phase.step plan now task s = none) :
    ∃ candidate lookup, phase = looking candidate lookup ∧ candidate.admission = .passed := by
  -- wherever else a task can have its grant, it has a next step
  cases phase with
  | entering item entry =>
    cases entry with
    | asking wait cutoff =>
      cases wait with
      | inr wait => cases hpaid
      | inl wait =>
        cases wait with
        | hostless => cases hpaid
        | waiting wait =>
          cases wait with
          | finished granted =>
            cases hpaid
            cases hstep
          | _ => cases hpaid
    | passing => cases hstep
    | settled admission => cases admission <;> cases hstep
    | _ => cases hpaid
  | targeting item admission =>
    simp only [step] at hstep
    split at hstep <;> cases hstep
  | looking candidate lookup =>
    exact ⟨candidate, lookup, rfl, of_decide_eq_true (Option.some.inj hpaid)⟩
  | judging candidate robots =>
    simp only [step] at hstep
    split at hstep <;> cases hstep
  | pausing candidate wait =>
    cases wait with
    | finished granted => cases hstep
    | _ => cases hpaid
  | calling candidate => cases hstep
  | _ => cases hpaid

theorem stamp?_of_step_eq_none (hstep : phase.step plan now task s = none) :
    phase.stamp? = none := by
  cases hstamp : phase.stamp? with
  | none => rfl
  | some stamp =>
    obtain ⟨wait, hwait, hstamped⟩ := Option.bind_eq_some_iff.mp hstamp
    obtain ⟨record, instant, rfl⟩ : ∃ record instant, wait = .granting record instant := by
      cases wait with
      | granting record instant => exact ⟨record, instant, rfl⟩
      | _ => cases hstamped
    cases phase with
    | entering item entry =>
      obtain ⟨cutoff, rfl⟩ := EntryPhase.eq_of_hostWait? hwait
      cases hstep
    | pausing candidate wait =>
      cases hwait
      cases hstep
    | _ => cases hwait

end ItemPhase

end PoliteCrawl

import PoliteCrawl.Proofs.Politeness.CallLocks
import PoliteCrawl.Proofs.Schedule.Punctual

namespace PoliteCrawl

variable {now task : Nat} {t : HostTable}

theorem FetchGate.pos_of_untilOpen {g : FetchGate} {wait : Nat}
    (h : g.untilOpen now = some wait) : 0 < wait := by
  obtain ⟨-, -, hpos, -⟩ := untilOpen_eq_some_iff.mp h
  exact hpos

namespace WaitPhase

variable {pause : Nat} {deadline : Option Nat}

theorem le_pauseUntil (hdeadline : ∀ d ∈ deadline, now ≤ d) :
    now ≤ pauseUntil now pause deadline := by
  cases deadline with
  | none => exact Nat.le_add_right _ _
  | some d => exact Nat.le_min.mpr ⟨Nat.le_add_right _ _, hdeadline d rfl⟩

theorem pauseUntil_le (now pause : Nat) (deadline : Option Nat) :
    pauseUntil now pause deadline ≤ now + pause ∧
      ∀ d ∈ deadline, pauseUntil now pause deadline ≤ d := by
  cases deadline with
  | none => exact ⟨Nat.le_refl _, nofun⟩
  | some d =>
    refine ⟨Nat.min_le_left _ _, fun d' hd' => ?_⟩
    cases hd'
    exact Nat.min_le_right _ _

/-- A pause that is not cut off by a deadline that has come takes some time. -/
theorem lt_pauseUntil (hpause : 0 < pause)
    (hdeadline : ¬ deadline.any (· ≤ now) = true) : now < pauseUntil now pause deadline := by
  cases deadline with
  | none =>
    simp only [pauseUntil]
    omega
  | some instant =>
    simp only [Option.any_some, decide_eq_true_eq] at hdeadline
    simp only [pauseUntil]
    omega

/-- How many steps a wait can still take at an instant, at most. -/
def effort (now : Nat) : WaitPhase → Nat
  | start _ _ => 20
  -- A sleep that is over leads back to the lock, but the next one is not over at this instant.
  | shut _ _ wait _ => if wait = 0 then 18 else 3
  | asleep _ _ waking => if waking ≤ now then 16 else 2
  | inLine _ _ report => if report ≤ now then 15 else 12
  | atGate _ _ => 14
  | holding _ _ => 10
  | granting _ _ => 9
  | finished _ => 0

theorem Leads.effort_lt {phase phase' : WaitPhase} {t t' : HostTable}
    (h : Leads now task t phase phase' t') : phase'.effort now < phase.effort now := by
  have hreport : ¬ now + reportInterval ≤ now := Time.not_add_ofSeconds_le now (by decide)
  cases h with
  | finds | locks | opens | grants => simp [effort]
  | queues => simp [effort, hreport]
  | served =>
    simp only [effort]
    split <;> omega
  | reports _ hle | wakes hle => simp [effort, hle]
  | shuts _ hwait =>
    have hpos := FetchGate.pos_of_untilOpen hwait
    simp only [effort]
    split <;> omega
  | givesUp =>
    simp only [effort]
    split <;> omega
  | @sleeps _ wait interval _ hdeadline =>
    simp only [effort]
    by_cases hwait : wait = 0
    · rw [if_pos hwait]
      split <;> omega
    · -- There is something to wait for, so that the sleep takes some time.
      have hpause : 0 < (t.jitter.around wait (interval / 8)).1 := by
        have hlongest : 0 < Time.longest := by decide
        refine Nat.lt_min.mpr ⟨?_, hlongest⟩
        omega
      have hlater := lt_pauseUntil hpause hdeadline
      rw [if_neg hwait, if_neg (Nat.not_le_of_lt hlater)]
      omega

end WaitPhase

namespace LookupPhase

def effort (now : Nat) : LookupPhase → Nat
  | start _ => 20
  | found _ => 19
  | atLock _ => 18
  | inLine _ report => if report ≤ now then 19 else 16
  | holding _ => 14
  | asking _ => 13
  | awaiting _ _ _ => 12
  | inGateLine _ _ _ report => if report ≤ now then 11 else 8
  | atGate _ _ _ => 10
  | raising _ _ _ => 6
  | storing _ _ => 4
  | leaving _ _ => 2
  | finished _ => 0

theorem Leads.effort_lt {phase phase' : LookupPhase} {t' : HostTable}
    (h : Leads now task t phase phase' t') : phase'.effort now < phase.effort now := by
  have hreport : ¬ now + reportInterval ≤ now := Time.not_add_ofSeconds_le now (by decide)
  have hgateReport : ¬ now + gateReportInterval ≤ now :=
    Time.not_add_ofSeconds_le now (by decide)
  cases h with
  | queues => simp [effort, hreport]
  | queuesAtGate => simp [effort, hgateReport]
  | served | servedAtGate =>
    simp only [effort]
    split <;> omega
  | reports _ hle | reportsAtGate _ hle => simp [effort, hle]
  | _ => simp [effort]

end LookupPhase

namespace CallPhase

def effort (now : Nat) : CallPhase → Nat
  | coming _ _ => 40
  | looking lookup => lookup.effort now + 2
  | waiting wait _ | entering (.waiting wait) => wait.effort now + 2
  | entering .hostless => 2
  | inLine _ _ report => if report ≤ now then 15 else 12
  | atGate _ _ => 14
  | atHand _ _ => 10
  | gripping _ _ | resting _ => 5
  | answering _ => 1
  | finished _ _ => 0

variable {phase : CallPhase} {d : HostDesk} {turn : Turn CallPhase HostDesk}

theorem effort_begin (now : Nat) (d : HostDesk) (call : HostCall) :
    (begin now d call).1.effort now < 40 := by
  cases call with
  | enter item timeout =>
    rcases HostWait.start_eq item timeout with ⟨host, -, hstart⟩ | hstart <;>
      simp [begin, hstart, effort, WaitPhase.effort]
  | viewKept name =>
    simp only [begin]
    split <;> simp [effort]
  | _ => simp [begin, effort, LookupPhase.effort, WaitPhase.effort]

theorem Leads.effort_lt {phase' : CallPhase} {d' : HostDesk}
    (h : Leads now task d phase phase' d') : phase'.effort now < phase.effort now := by
  have hreport : ¬ now + WaitPhase.reportInterval ≤ now :=
    Time.not_add_ofSeconds_le now (by decide)
  cases h with
  | begins due call => exact effort_begin now d call
  | queues => simp [effort, hreport]
  | served =>
    simp only [effort]
    split <;> omega
  | reports _ hle => simp [effort, hle]
  | looks hnext => exact Nat.add_lt_add_right (LookupPhase.leads_of_step hnext).effort_lt 2
  | waits hleads | enters hleads => exact Nat.add_lt_add_right hleads.effort_lt 2
  | @entered wait => cases wait <;> simp [effort]
  | locks | views | grips | loosens | found | decided | cutsOff | rests | tells => simp [effort]

theorem effort_lt (hturn : machine.step now task phase d = some turn) :
    turn.phase.effort now < phase.effort now ∧ turn.spawned = [] := by
  obtain ⟨h, hspawned⟩ := step_machine hturn
  exact ⟨(leads_of_step h).effort_lt, hspawned⟩

end CallPhase

end PoliteCrawl

import PoliteCrawl.Proofs.Crawl.Muster
import PoliteCrawl.Proofs.Politeness.Grants

namespace PoliteCrawl

variable {ψ ε : Type} {now task other : Nat} {t t' : HostTable} {plan : CrawlPlan ψ ε}

namespace WaitPhase

def Untimed : WaitPhase → Prop
  | start _ deadline | atGate _ deadline | inLine _ deadline _ | holding _ deadline
  | shut _ deadline _ _ | asleep _ deadline _ => deadline = none
  | granting .. => True
  | finished granted => granted = true

theorem Leads.untimed {phase phase' : WaitPhase} (h : Leads now task t phase phase' t')
    (huntimed : phase.Untimed) : phase'.Untimed := by
  cases h with
  | finds | sleeps =>
    cases huntimed
    rfl
  | opens => trivial
  | grants => rfl
  | givesUp hdue =>
    cases huntimed
    cases hdue
  | locks | queues | served | reports | shuts | wakes => exact huntimed

end WaitPhase

namespace EntryPhase

def hostWait? : EntryPhase WorkItem (PressureWait ψ) → Option WaitPhase
  | asking (.inl (.waiting wait)) _ => some wait
  | _ => none

variable {entry : EntryPhase WorkItem (PressureWait ψ)} {v : Valve} {own : ε}
  {next : Progress (EntryPhase WorkItem (PressureWait ψ)) (Valve × HostTable × ε)}

theorem predicate_start (rule : PressureRule ψ ε) : rule.predicate.start = rule.start := rfl

theorem step_pressed (item : WorkItem) :
    (pressed item).step plan.rule.predicate now task v (t, own) =
      some {
        phase := asking (plan.rule.predicate.start item v.drawTimeout.1) (now + v.drawTimeout.1)
        shared := (v.drawTimeout.2, t, own) } := by
  rw [step]

/-- What the predicate makes of a wait. -/
theorem step_asking {wait : PressureWait ψ} {cutoff : Nat}
    (h : (asking wait cutoff).step plan.rule.predicate now task v (t, own) = some next) :
    (∃ verdict, plan.rule.verdict? wait = some verdict ∧ next.shared = (v, t, own) ∧
      next.phase = if verdict then passing else settled none) ∨
    plan.rule.verdict? wait = none ∧
      ((∃ progress, plan.rule.step now task wait (t, own) = some progress ∧
        next.phase = asking progress.phase cutoff ∧ next.shared = (v, progress.shared)) ∨
      plan.rule.step now task wait (t, own) = none ∧ next.phase = settled none ∧
        next.shared = (v, plan.rule.cancel task wait (t, own))) := by
  simp only [step] at h
  split at h
  · rename_i hverdict
    cases h
    exact .inl ⟨true, hverdict, rfl, rfl⟩
  · rename_i hverdict
    cases h
    exact .inl ⟨false, hverdict, rfl, rfl⟩
  · rename_i hverdict
    refine .inr ⟨hverdict, ?_⟩
    split at h
    · rename_i progress hprogress
      cases h
      exact .inl ⟨progress, hprogress, rfl, rfl⟩
    · rename_i hnone
      split at h <;> cases h
      exact .inr ⟨hnone, rfl, rfl⟩

/-- A step of a wait in the valve is one of a wait for a host, or leaves the hosts alone. -/
theorem step_rule {rule : PressureRule ψ ε} {wait : PressureWait ψ}
    {progress : Progress (PressureWait ψ) (HostTable × ε)}
    (h : rule.step now task wait (t, own) = some progress) :
    (∃ phase next, wait = .inl (.waiting phase) ∧ phase.step now task t = some next ∧
      progress.phase = .inl (.waiting next.phase) ∧ progress.shared.1 = next.shared) ∨
    ∃ own' next, wait = .inr own' ∧ progress.phase = .inr next ∧ progress.shared.1 = t := by
  cases wait with
  | inl wait =>
    obtain ⟨next, hnext, rfl⟩ := Option.map_eq_some_iff.mp h
    obtain ⟨phase, next, rfl, hphase, rfl⟩ := HostWait.step_waiting hnext
    exact .inl ⟨phase, next, rfl, hphase, rfl, rfl⟩
  | inr wait =>
    cases rule with
    | hosts => cases h
    | own p =>
      obtain ⟨next, -, rfl⟩ := Option.map_eq_some_iff.mp h
      exact .inr ⟨wait, next.phase, rfl, rfl, rfl⟩

theorem hostWait?_start {rule : PressureRule ψ ε} {item : WorkItem} {timeout cutoff : Nat}
    {wait : WaitPhase} (h : (asking (rule.start item timeout) cutoff).hostWait? = some wait) :
    hostPredicate.start item timeout = .waiting wait := by
  cases rule with
  | hosts =>
    rw [PressureRule.start] at h
    cases hstart : hostPredicate.start item timeout with
    | hostless =>
      rw [hstart] at h
      cases h
    | waiting phase =>
      rw [hstart] at h
      cases h
      rfl
  | own p => cases h

theorem eq_of_hostWait? {wait : WaitPhase} (h : entry.hostWait? = some wait) :
    ∃ cutoff, entry = asking (.inl (.waiting wait)) cutoff := by
  unfold hostWait? at h
  split at h
  · cases h
    exact ⟨_, rfl⟩
  · cases h

theorem advance_cancel (rule : PressureRule ψ ε) (task : Nat) (wait : PressureWait ψ)
    (t : HostTable) (own : ε) : t.Advance task none none (rule.cancel task wait (t, own)).1 := by
  cases wait with
  | inl wait =>
    cases wait with
    | hostless => exact t.advance_refl task
    | waiting phase => exact WaitPhase.advance_cancel task phase t
  | inr wait =>
    cases rule with
    | hosts => exact t.advance_refl task
    | own p => exact t.advance_refl task

/-- An entry begins to wait for the host of its item, goes on with the wait, or leaves the hosts and
their gates alone. -/
theorem step_hosts {item : WorkItem}
    (h : entry.step plan.rule.predicate now task v (t, own) = some next) (hof : entry.Of item) :
    (∃ wait progress, entry.hostWait? = some wait ∧ wait.step now task t = some progress ∧
      next.phase.hostWait? = some progress.phase ∧ next.shared.2.1 = progress.shared) ∨
    (∀ wait, entry.hostWait? = some wait → wait.stamp? = none ∧ wait.named? = none) ∧
      t.Advance task none none next.shared.2.1 ∧
      ∀ wait, next.phase.hostWait? = some wait →
        ∃ timeout, hostPredicate.start item timeout = .waiting wait := by
  cases entry with
  | start item' =>
    simp only [step] at h
    split at h <;> cases h
    · exact .inr ⟨by simp [hostWait?], t.advance_refl task, by simp [hostWait?]⟩
    · exact .inr ⟨by simp [hostWait?], t.advance_refl task, by simp [hostWait?]⟩
  | pressed item' =>
    cases hof
    rw [step_pressed] at h
    cases h
    refine .inr ⟨by simp [hostWait?], t.advance_refl task, ?_⟩
    intro wait hwait
    rw [predicate_start] at hwait
    exact ⟨v.drawTimeout.1, hostWait?_start hwait⟩
  | asking wait cutoff =>
    rcases step_asking h with ⟨verdict, hverdict, hshared, hphase⟩ |
      ⟨-, ⟨progress, hprogress, hphase, hshared⟩ | ⟨hnone, hphase, hshared⟩⟩
    · rw [hphase, hshared]
      refine .inr ⟨?_, t.advance_refl task, ?_⟩
      · intro phase hwait
        obtain ⟨_, heq⟩ := eq_of_hostWait? hwait
        cases heq
        obtain ⟨hstamp, hnamed, -⟩ := HostWait.stamp?_of_verdict? hverdict
        exact ⟨hstamp, hnamed⟩
      · cases verdict <;> simp [hostWait?]
    · rw [hphase, hshared]
      rcases step_rule hprogress with ⟨phase, next, rfl, hnext, hwait, htable⟩ |
        ⟨own', next, rfl, hwait, htable⟩
      · rw [hwait, htable]
        exact .inl ⟨phase, next, rfl, hnext, rfl, rfl⟩
      · rw [hwait, htable]
        exact .inr ⟨by simp [hostWait?], t.advance_refl task, by simp [hostWait?]⟩
    · rw [hphase, hshared]
      refine .inr ⟨?_, advance_cancel plan.rule task wait t own, by simp [hostWait?]⟩
      intro phase hwait
      obtain ⟨_, heq⟩ := eq_of_hostWait? hwait
      cases heq
      exact WaitPhase.stamp?_of_step_eq_none
        (Option.map_eq_none_iff.mp (Option.map_eq_none_iff.mp hnone))
  | passing =>
    cases h
    exact .inr ⟨by simp [hostWait?], t.advance_refl task, by simp [hostWait?]⟩
  | settled admission => cases h

end EntryPhase

namespace ItemPhase

def hostWait? : ItemPhase ψ → Option WaitPhase
  | entering _ entry => entry.hostWait?
  | pausing _ wait => some wait
  | _ => none

/-- The record that the next step stamps a grant on, and its instant. -/
def stamp? (phase : ItemPhase ψ) : Option (Nat × Nat) := phase.hostWait?.bind (·.stamp?)

def named? : ItemPhase ψ → Option String
  | looking _ lookup => lookup.named?
  | phase => phase.hostWait?.bind (·.named?)

def host? : ItemPhase ψ → Option String
  | entering item _ | targeting item _ => item.hostKey?
  | looking candidate _ | judging candidate _ | pausing candidate _ | calling candidate =>
    some candidate.host
  | _ => none

def Sound (now task : Nat) (t : HostTable) : ItemPhase ψ → Prop
  | entering item entry => entry.Of item ∧ ∀ wait, entry.hostWait? = some wait →
    ∃ host, item.hostKey? = some host ∧ wait.Sound now task (HostTable.keyOf host) t
  | looking candidate lookup => lookup.Sound task (HostTable.keyOf candidate.host) t
  | pausing candidate wait =>
    wait.Untimed ∧ wait.Sound now task (HostTable.keyOf candidate.host) t
  | _ => True

variable {phase phase' : ItemPhase ψ} {s s' : CrawlState ε}

theorem Sound.later {later : Nat} (h : phase.Sound now task t) (hle : now ≤ later) :
    phase.Sound later task t := by
  cases phase with
  | entering item entry =>
    refine ⟨h.1, fun wait hwait => ?_⟩
    obtain ⟨host, hhost, hsound⟩ := h.2 wait hwait
    exact ⟨host, hhost, hsound.later hle⟩
  | pausing candidate wait => exact ⟨h.1, h.2.later hle⟩
  | _ => exact h

theorem Sound.advance {stamp? : Option (Nat × Nat)} {named? : Option String}
    (h : phase.Sound now other t) (hadvance : t.Advance task stamp? named? t')
    (hne : other ≠ task) : phase.Sound now other t' := by
  cases phase with
  | entering item entry =>
    refine ⟨h.1, fun wait hwait => ?_⟩
    obtain ⟨host, hhost, hsound⟩ := h.2 wait hwait
    exact ⟨host, hhost, hsound.advance hadvance hne⟩
  | looking candidate lookup => exact LookupPhase.Sound.advance h hadvance hne
  | pausing candidate wait => exact ⟨h.1, h.2.advance hadvance hne⟩
  | _ => trivial

/-- A wait of a task is for its host. -/
theorem Sound.wait {wait : WaitPhase} (h : phase.Sound now task t)
    (hwait : phase.hostWait? = some wait) :
    ∃ host, phase.host? = some host ∧ wait.Sound now task (HostTable.keyOf host) t := by
  cases phase with
  | entering item entry => exact h.2 wait hwait
  | pausing candidate wait =>
    cases hwait
    exact ⟨candidate.host, rfl, h.2⟩
  | _ => cases hwait

theorem Sound.stamped {record instant : Nat} (h : phase.Sound now task t)
    (hstamp : phase.stamp? = some (record, instant)) :
    instant ≤ now ∧
      ∃ host, phase.host? = some host ∧ t.hostAt? record = some (HostTable.keyOf host) := by
  obtain ⟨wait, hwait, hstamped⟩ := Option.bind_eq_some_iff.mp hstamp
  obtain ⟨host, hhost, hsound⟩ := h.wait hwait
  obtain ⟨hinstant, hrecord⟩ := hsound.stamped hstamped
  exact ⟨hinstant, host, hhost, hrecord⟩

theorem Sound.named {name : String} (h : phase.Sound now task t)
    (hname : phase.named? = some name) :
    ∃ host, phase.host? = some host ∧ name = HostTable.keyOf host := by
  have hwaits : phase.hostWait?.bind (·.named?) = some name →
      ∃ host, phase.host? = some host ∧ name = HostTable.keyOf host := by
    intro hname
    obtain ⟨wait, hwait, hnamed⟩ := Option.bind_eq_some_iff.mp hname
    obtain ⟨host, hhost, hsound⟩ := h.wait hwait
    exact ⟨host, hhost, hsound.named name hnamed⟩
  cases phase with
  | looking candidate lookup => exact ⟨candidate.host, rfl, LookupPhase.Sound.named h name hname⟩
  | _ => exact hwaits hname

theorem enters_sound {item : WorkItem} {entry : EntryPhase WorkItem (PressureWait ψ)} {v : Valve}
    {own : ε} {next : Progress (EntryPhase WorkItem (PressureWait ψ)) (Valve × HostTable × ε)}
    (h : entry.step plan.rule.predicate now task v (t, own) = some next)
    (hphase : (entering item entry).Sound now task t) (htimely : t.Timely now) (hkeyed : t.Keyed) :
    t.Advance task (entering item entry).stamp? (entering item entry).named? next.shared.2.1 ∧
      (entering item next.phase).Sound now task next.shared.2.1 := by
  obtain ⟨hof, hwaits⟩ := hphase
  rcases EntryPhase.step_hosts h hof with ⟨wait, progress, hwait, hnext, hwait', htable⟩ |
    ⟨hnone, hadvance, hstart⟩
  · obtain ⟨host, hhost, hsound⟩ := hwaits wait hwait
    obtain ⟨hadvance, hsound'⟩ := (WaitPhase.leads_of_step hnext).sound hsound htimely hkeyed
    rw [stamp?, named?, hostWait?, hwait, htable]
    · refine ⟨hadvance, (EntryPhase.leads_of_step h).of hof, fun wait' hnext' => ?_⟩
      rw [hwait'] at hnext'
      cases hnext'
      exact ⟨host, hhost, hsound'⟩
    · simp
  · -- A wait that does not go on stamps no grant and looks up no host.
    have hstamp : (entering item entry).stamp? = none ∧ (entering item entry).named? = none := by
      cases hwait : entry.hostWait? with
      | none => simp [stamp?, named?, hostWait?, hwait]
      | some wait =>
        obtain ⟨hstamp, hnamed⟩ := hnone wait hwait
        simp [stamp?, named?, hostWait?, hwait, hstamp, hnamed]
    rw [hstamp.1, hstamp.2]
    refine ⟨hadvance, (EntryPhase.leads_of_step h).of hof, fun wait hwait => ?_⟩
    obtain ⟨timeout, hwait⟩ := hstart wait hwait
    exact HostWait.start_sound hwait now task _

theorem Leads.sound (h : Leads plan now task phase s phase' s')
    (hphase : phase.Sound now task s.hosts) (htimely : s.hosts.Timely now)
    (hkeyed : s.hosts.Keyed) :
    s.hosts.Advance task phase.stamp? phase.named? s'.hosts ∧ phase'.Sound now task s'.hosts := by
  cases h with
  | enters hstep => exact enters_sound hstep hphase htimely hkeyed
  | targets hurl hhost => exact ⟨s.hosts.advance_refl task, rfl⟩
  | looks hnext => exact (LookupPhase.leads_of_step hnext).sound hphase hkeyed
  | pausesFor => exact ⟨s.hosts.advance_refl task, rfl, rfl⟩
  | pauses hnext =>
    obtain ⟨hadvance, hsound⟩ := (WaitPhase.leads_of_step hnext).sound hphase.2 htimely hkeyed
    exact ⟨hadvance, (WaitPhase.leads_of_step hnext).untimed hphase.1, hsound⟩
  | requeues item entered =>
    refine ⟨s.hosts.advance_refl task, ?_⟩
    cases entered <;> trivial
  | _ => exact ⟨s.hosts.advance_refl task, trivial⟩

end ItemPhase

namespace CrawlTask

def stamp? : CrawlTask ψ → Option (Nat × Nat)
  | reader _ => none
  | item phase => phase.stamp?

def named? : CrawlTask ψ → Option String
  | reader _ => none
  | item phase => phase.named?

def Sound (now task : Nat) (t : HostTable) : CrawlTask ψ → Prop
  | reader _ => True
  | item phase => phase.Sound now task t

/-- Why the tasks of a crawl may share a table of hosts. -/
def discipline (plan : CrawlPlan ψ ε) : GateDiscipline (machine plan) CrawlState.hosts where
  stamp? := stamp?
  named? := named?
  Sound now task phase t := Sound now task t phase
  later := by
    intro now later task phase t h hle
    cases phase with
    | reader phase => trivial
    | item phase => exact ItemPhase.Sound.later h hle
  advance := by
    intro now task other phase t t' stamp? named? h hadvance hne
    cases phase with
    | reader phase => trivial
    | item phase => exact ItemPhase.Sound.advance h hadvance hne
  stamp_le := by
    intro now task phase t record instant h hstamp
    cases phase with
    | reader phase => cases hstamp
    | item phase => exact (ItemPhase.Sound.stamped h hstamp).1
  step := by
    intro now task phase s turn hstep h htimely hkeyed
    cases phase with
    | reader phase =>
      obtain ⟨⟨phase', s', started⟩, hreader, rfl⟩ := Option.map_eq_some_iff.mp hstep
      refine ⟨?_, trivial⟩
      rw [(ReaderPhase.leads_of_step hreader).leaves.1]
      exact s.hosts.advance_refl task
    | item phase =>
      obtain ⟨p, hp, rfl⟩ := Option.map_eq_some_iff.mp hstep
      exact (ItemPhase.leads_of_step hp).sound h htimely hkeyed
  spawned := by
    intro now task phase s turn hstep phase' hmem other
    cases phase with
    | reader phase =>
      obtain ⟨⟨phase', s', started⟩, -, rfl⟩ := Option.map_eq_some_iff.mp hstep
      obtain ⟨item, -, rfl⟩ := List.mem_map.mp hmem
      exact ⟨rfl, by simp [EntryPhase.hostWait?]⟩
    | item phase =>
      obtain ⟨p, -, rfl⟩ := Option.map_eq_some_iff.mp hstep
      cases hmem

end CrawlTask

end PoliteCrawl

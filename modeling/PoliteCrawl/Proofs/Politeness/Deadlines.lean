import PoliteCrawl.Proofs.Politeness.Openings

namespace PoliteCrawl

namespace CallPhase

def StampedBy (i record : Nat) (g : FetchGate) (time : Nat)
    (events : List (Event CallPhase HostDesk)) : Prop :=
  ∃ a ∈ actsOf i events, a.before.now = time ∧ a.before.shared.table.gate? record = some g ∧
    a.turn.shared.table.gate? record = some (g.grant time)

def Returned (i : Nat) (c : Configuration CallPhase HostDesk) : Prop :=
  ∃ answer time, c.tasks[i]? = some (.finished answer time)

/-- Until a call comes to its end, nobody else changes the gate of a record, nor keeps the lock of
the gate while time passes. -/
structure Undisturbed (i record : Nat) (events : List (Event CallPhase HostDesk)) : Prop where
  gates : ∀ a ∈ acts events, a.task ≠ i → ¬ Returned i a.before →
    a.turn.shared.table.gate? record = a.before.shared.table.gate? record
  locks : ∀ c later, Event.pass c later ∈ events → ¬ Returned i c → ∀ phase ∈ c.tasks,
    ∀ waking, phase ≠ .gripping record waking

/-- A call that has its verdict from an instant on, up to when it tells. -/
inductive Tells (granted : Bool) (time : Nat) : Nat → CallPhase → Prop where
  | settled : Tells granted time time (.waiting (.finished granted) none)
  | answering : Tells granted time time (.answering (.verdict granted))
  | finished {now : Nat} (hle : time ≤ now) :
    Tells granted time now (.finished (.verdict granted) time)

/-- A call that waits for a host, up to when it tells that it was refused at its deadline or later,
or that it was granted the host. -/
inductive Abides (deadline : Option Nat) (now : Nat) : CallPhase → Prop where
  | waits {wait : WaitPhase} (huntil : wait.Until deadline) :
    Abides deadline now (.waiting wait none)
  | tells {phase : CallPhase} {granted : Bool} {time : Nat}
    (hlate : granted = false → ∃ d ∈ deadline, d ≤ time) (htells : Tells granted time now phase) :
    Abides deadline now phase

variable {now later task i record time start : Nat} {granted : Bool} {deadline : Option Nat}
  {g : FetchGate} {phase : CallPhase} {wait : WaitPhase} {d : HostDesk}
  {p : Progress CallPhase HostDesk} {calls : List (Option Nat × HostCall)}
  {c first last : Configuration CallPhase HostDesk} {turn : Turn CallPhase HostDesk}
  {events more : List (Event CallPhase HostDesk)}

/-- A wait without a limit is not given up from outside. -/
theorem step_unlimited (h : (waiting wait none).step now task d = some p)
    (hgoes : ¬ ∃ granted, wait = .finished granted) :
    ∃ next, wait.step now task d.table = some next ∧
      p = next.within (waiting · none) ({ d with table := · }) := by
  rcases step_waiting h hgoes with hnext | ⟨-, hover, -⟩
  · exact hnext
  · cases hover

theorem step_wait_eq_none {cutoff : Option Nat} (h : (waiting wait cutoff).step now task d = none) :
    wait.step now task d.table = none := by
  cases hnext : wait.step now task d.table with
  | none => rfl
  | some next =>
    cases wait with
    | finished granted => cases hnext
    | _ => simp [step, hnext] at h

theorem Tells.step (h : Tells granted time now phase) (hstep : phase.step now task d = some p) :
    Tells granted time now p.phase := by
  cases h with
  | settled =>
    cases hstep
    exact .answering
  | answering =>
    cases hstep
    exact .finished (Nat.le_refl _)
  | finished => cases hstep

theorem Tells.pass (h : Tells granted time now phase) (hnone : phase.step now task d = none)
    (hle : now ≤ later) : Tells granted time later phase := by
  cases h with
  | settled | answering => cases hnone
  | finished htime => exact .finished (Nat.le_trans htime hle)

theorem Abides.step (h : Abides deadline now phase) (hstep : phase.step now task d = some p) :
    Abides deadline now p.phase := by
  cases h with
  | @waits wait huntil =>
    have hgoes : ¬ ∃ granted, wait = .finished granted := by
      rintro ⟨granted, rfl⟩
      exact huntil
    obtain ⟨next, hnext, rfl⟩ := step_unlimited hstep hgoes
    rcases huntil.leads (WaitPhase.leads_of_step hnext) with huntil' | ⟨granted, hfinished, hlate⟩
    · exact .waits huntil'
    · refine .tells hlate ?_
      show Tells granted now now (.waiting next.phase none)
      rw [hfinished]
      exact .settled
  | tells hlate htells => exact .tells hlate (htells.step hstep)

theorem Abides.pass (h : Abides deadline now phase) (hnone : phase.step now task d = none)
    (hle : now ≤ later) : Abides deadline later phase := by
  cases h with
  | waits huntil => exact .waits huntil
  | tells hlate htells => exact .tells hlate (htells.pass hnone hle)

theorem Abides.answer {answer : HostAnswer} (h : Abides deadline now (.finished answer time)) :
    ∃ granted, answer = .verdict granted ∧ (granted = false → ∃ d ∈ deadline, d ≤ time) := by
  cases h with
  | tells hlate htells =>
    cases htells
    exact ⟨_, rfl, hlate⟩

theorem Abides.not_gripping {waking : Nat} : ¬ Abides deadline now (.gripping record waking) := by
  intro h
  cases h with
  | tells _ htells => cases htells

/-- A call abides by its deadline, whatever other calls do. -/
theorem abides_of_history (h : machine.History first events last)
    (hpunctual : machine.Punctual events) (hphase : first.tasks[i]? = some phase)
    (habides : Abides deadline first.now phase) :
    ∃ phase, last.tasks[i]? = some phase ∧ Abides deadline last.now phase := by
  refine h.follows (P := fun now phase _ => Abides deadline now phase) hpunctual hphase habides
    ?_ ?_
  · intro earlier c phase own turn _ hturn habides
    exact habides.step (step_machine hturn).1
  · intro c phase own later hnone hle _ habides
    exact habides.pass (Option.map_eq_none_iff.mp hnone) hle

theorem actsOf_append (i : Nat) (events more : List (Event CallPhase HostDesk)) :
    actsOf i (events ++ more) = actsOf i events ++ actsOf i more := by
  rw [actsOf, acts_append, List.filter_append]
  rfl

inductive Stage (i record : Nat) (g : FetchGate) (start : Nat) (deadline : Option Nat)
    (events : List (Event CallPhase HostDesk)) (c : Configuration CallPhase HostDesk) : Prop where
  | nears {wait : WaitPhase} (hphase : c.tasks[i]? = some (.waiting wait none))
    (hgate : c.shared.table.gate? record = some g) (hallows : g.Allows start deadline c.now)
    (hnears : wait.Nears record g start deadline c.now)
  | tells {phase : CallPhase} {granted : Bool} {time : Nat} (hphase : c.tasks[i]? = some phase)
    (hanswers : g.Answers start deadline granted time)
    (hstamped : granted = true → StampedBy i record g time events)
    (htells : Tells granted time c.now phase)

theorem StampedBy.append (h : StampedBy i record g time events)
    (more : List (Event CallPhase HostDesk)) : StampedBy i record g time (events ++ more) := by
  obtain ⟨a, ha, hstamped⟩ := h
  refine ⟨a, ?_, hstamped⟩
  rw [actsOf_append]
  exact List.mem_append_left _ ha

theorem stampedBy_act (hgate : c.shared.table.gate? record = some g)
    (hgate' : turn.shared.table.gate? record = some (g.grant c.now)) :
    StampedBy i record g c.now (events ++ [.act ⟨c, i, turn⟩]) := by
  refine ⟨⟨c, i, turn⟩, ?_, rfl, hgate, hgate'⟩
  rw [actsOf_append]
  simp [actsOf]

theorem Stage.act_self (h : Stage i record g start deadline events c)
    (hpast : ∀ last ∈ g.lastGrant, last ≤ start) (hturn : machine.stepAt c i = some turn) :
    Stage i record g start deadline (events ++ [.act ⟨c, i, turn⟩]) (c.after i turn) := by
  obtain ⟨phase', hphase', hstep⟩ := machine.stepAt_eq_some hturn
  obtain ⟨hp, -⟩ := step_machine hstep
  cases h with
  | @nears wait hphase hgate hallows hnears =>
    cases hphase.symm.trans hphase'
    have hgoes : ¬ ∃ granted, wait = .finished granted := by
      rintro ⟨granted, rfl⟩
      exact hnears
    obtain ⟨next, hnext, hturn'⟩ := step_unlimited hp hgoes
    have hafter : (c.after i turn).tasks[i]? = some (.waiting next.phase none) := by
      rw [Configuration.tasks_after_self hphase, show turn.phase = _ from congrArg (·.phase) hturn']
      rfl
    have htable : turn.shared.table = next.shared := by
      rw [show turn.shared = _ from congrArg (·.shared) hturn']
      rfl
    -- The gate is as it was, or the step has stamped a grant on it or refused.
    rcases hnears.leads hallows hpast hgate (WaitPhase.leads_of_step hnext) with
      ⟨hnears', hgate'⟩ | ⟨granted, hfinished, hanswers, hstamp⟩
    · exact .nears hafter (htable ▸ hgate') hallows hnears'
    · rw [hfinished] at hafter
      refine .tells hafter hanswers (fun hgranted => ?_) .settled
      exact stampedBy_act hgate (htable ▸ hstamp hgranted)
  | tells hphase hanswers hstamped htells =>
    cases hphase.symm.trans hphase'
    exact .tells (Configuration.tasks_after_self hphase) hanswers
      (fun hgranted => (hstamped hgranted).append _) (htells.step hp)

theorem not_returned_of_waiting {cutoff : Option Nat}
    (h : c.tasks[i]? = some (.waiting wait cutoff)) : ¬ Returned i c := by
  rintro ⟨answer, time, hphase⟩
  rw [h] at hphase
  cases hphase

theorem Stage.act_other (h : Stage i record g start deadline events c) (hne : i ≠ task)
    (hgate : ¬ Returned i c → turn.shared.table.gate? record = c.shared.table.gate? record) :
    Stage i record g start deadline (events ++ [.act ⟨c, task, turn⟩]) (c.after task turn) := by
  cases h with
  | nears hphase hgate' hallows hnears =>
    refine .nears (Configuration.tasks_after_of_ne hphase hne) ?_ hallows hnears
    exact (hgate (not_returned_of_waiting hphase)).trans hgate'
  | tells hphase hanswers hstamped htells =>
    exact .tells (Configuration.tasks_after_of_ne hphase hne) hanswers
      (fun hgranted => (hstamped hgranted).append _) htells

theorem Stage.pass (h : Stage i record g start deadline events c) (hlined : Lined calls c)
    (hwhole : ∀ d ∈ deadline, Time.IsWhole d) (hle : c.now ≤ later)
    (hpunctual : machine.Punctual [.pass c later])
    (hlocks : ¬ Returned i c → ∀ phase ∈ c.tasks, ∀ waking, phase ≠ .gripping record waking) :
    Stage i record g start deadline (events ++ [.pass c later]) { c with now := later } := by
  obtain ⟨hidle, -, halarms⟩ := hpunctual c later List.mem_cons_self
  have hstuck : ∀ phase, c.tasks[i]? = some phase → phase.step c.now i c.shared = none :=
    fun phase hphase => Option.map_eq_none_iff.mp (hidle.step_eq_none hphase)
  cases h with
  | @nears wait hphase hgate hallows hnears =>
    have hnone := step_wait_eq_none (hstuck _ hphase)
    rcases hnears.waits hgate hnone with ⟨report, rfl⟩ | ⟨waking, rfl, hlt⟩
    · -- Nobody would be in line for the lock.
      have hfree := hlined.free hidle (hlocks (not_returned_of_waiting hphase)) i
      rw [seatAt_of_getElem? hphase] at hfree
      simp [seats, WaitPhase.seats] at hfree
    · have halarm : waking ∈ machine.alarms (.waiting (.asleep record deadline waking) none) := by
        simp [machine, alarms, WaitPhase.alarms]
      have hrings := halarms _ (List.mem_of_getElem? hphase) waking halarm hlt
      obtain ⟨hnears', hallows'⟩ := hnears.allows hallows hwhole hle hrings
      exact .nears hphase hgate hallows' hnears'
  | tells hphase hanswers hstamped htells =>
    exact .tells hphase hanswers (fun hgranted => (hstamped hgranted).append _)
      (htells.pass (hstuck _ hphase) hle)

theorem Undisturbed.of_append (h : Undisturbed i record (events ++ more)) :
    Undisturbed i record events where
  gates a ha := h.gates a (by rw [acts_append]; exact List.mem_append_left _ ha)
  locks c later hmem := h.locks c later (List.mem_append_left _ hmem)

theorem stage_of_history (hlined : Lined calls first) (hpast : ∀ last ∈ g.lastGrant, last ≤ start)
    (hwhole : ∀ d ∈ deadline, Time.IsWhole d) (hfirst : Stage i record g start deadline [] first)
    (h : machine.History first events last) (hpunctual : machine.Punctual events)
    (hundisturbed : Undisturbed i record events) : Stage i record g start deadline events last := by
  induction h with
  | refl => exact hfirst
  | @act c events task turn h hturn ih =>
    have hstage := ih hpunctual.of_append hundisturbed.of_append
    by_cases htask : task = i
    · subst htask
      exact hstage.act_self hpast hturn
    · refine hstage.act_other (Ne.symm htask) fun hreturned => ?_
      exact hundisturbed.gates ⟨c, task, turn⟩ (by simp) htask hreturned
  | @pass c events later h hle ih =>
    have hstage := ih hpunctual.of_append hundisturbed.of_append
    refine hstage.pass (hlined.history h) hwhole hle ?_ ?_
    · intro c' later' hmem
      exact hpunctual c' later' (List.mem_append_right _ hmem)
    · exact hundisturbed.locks c later (by simp)

/-- A wait that is undisturbed does not last beyond its deadline, nor for long after the gate
opens. -/
theorem Stage.returned (h : Stage i record g start deadline events c)
    (hlate : g.foundBy start < c.now ∨ ∃ d ∈ deadline, d < c.now) : Returned i c := by
  have hover : ¬ g.Allows start deadline c.now := by
    intro hallows
    rcases hlate with hlate | ⟨d, hd, hlate⟩
    · exact Nat.not_le_of_lt hlate hallows.found
    · exact Nat.not_le_of_lt hlate (hallows.due d hd)
  cases h with
  | nears _ _ hallows => exact absurd hallows hover
  | tells hphase hanswers _ htells =>
    generalize hnow : c.now = now at htells
    cases htells with
    | settled | answering => exact absurd hanswers.allowed (hnow ▸ hover)
    | finished => exact ⟨_, _, hphase⟩

theorem Stage.answered (h : Stage i record g start deadline events c)
    (hphase : c.tasks[i]? = some (.finished (.verdict granted) time)) :
    g.Answers start deadline granted time ∧
      (granted = true → StampedBy i record g time events) := by
  cases h with
  | nears hphase' =>
    rw [hphase] at hphase'
    cases hphase'
  | tells hphase' hanswers hstamped htells =>
    rw [hphase] at hphase'
    cases hphase'
    cases htells
    exact ⟨hanswers, hstamped⟩

def Alone (i : Nat) (c : Configuration CallPhase HostDesk) : Prop :=
  ∀ j, j ≠ i → ∀ phase, c.tasks[j]? = some phase → ∃ answer time, phase = .finished answer time

theorem undisturbed_nil (i record : Nat) : Undisturbed i record [] where
  gates a ha := by
    rw [acts_nil] at ha
    cases ha
  locks c later hmem := by cases hmem

/-- A step of the call itself does not disturb it. -/
theorem undisturbed_act (c : Configuration CallPhase HostDesk) (i : Nat)
    (turn : Turn CallPhase HostDesk) (record : Nat) :
    Undisturbed i record [.act ⟨c, i, turn⟩] where
  gates a ha hne := by
    rw [acts_act] at ha
    cases List.mem_singleton.mp ha
    exact absurd rfl hne
  locks c' later hmem := by cases List.mem_singleton.mp hmem

theorem undisturbed_pass
    (h : ∀ phase ∈ c.tasks, ∀ waking, phase ≠ .gripping record waking) (later : Nat) :
    Undisturbed i record [.pass c later] where
  gates a ha := by
    rw [acts_pass] at ha
    cases ha
  locks c' later' hmem _ := by
    cases List.mem_singleton.mp hmem
    exact h

theorem Undisturbed.append (h : Undisturbed i record events) (h' : Undisturbed i record more) :
    Undisturbed i record (events ++ more) where
  gates a ha := by
    rw [acts_append] at ha
    rcases List.mem_append.mp ha with ha | ha
    · exact h.gates a ha
    · exact h'.gates a ha
  locks c later hmem := by
    rcases List.mem_append.mp hmem with hmem | hmem
    · exact h.locks c later hmem
    · exact h'.locks c later hmem

/-- A call that is alone is left undisturbed. -/
theorem Alone.undisturbed (halone : Alone i first) (hphase : first.tasks[i]? = some phase)
    (habides : Abides deadline first.now phase) (h : machine.History first events last)
    (hpunctual : machine.Punctual events) (record : Nat) :
    Undisturbed i record events ∧ Alone i last := by
  induction h with
  | refl => exact ⟨undisturbed_nil i record, halone⟩
  | @act c events task turn h hturn ih =>
    obtain ⟨hundisturbed, halone'⟩ := ih hpunctual.of_append
    obtain ⟨phase', hphase', hstep⟩ := machine.stepAt_eq_some hturn
    -- A call that has come to its end takes no step.
    have htask : task = i := by
      by_contra hne
      obtain ⟨answer, time, rfl⟩ := halone' task hne phase' hphase'
      cases hstep
    subst htask
    refine ⟨hundisturbed.append (undisturbed_act c task turn record), fun j hj phase => ?_⟩
    rw [Configuration.tasks_after_eq (step_machine hstep).2 hj]
    exact halone' j hj phase
  | @pass c events later h hle ih =>
    obtain ⟨hundisturbed, halone'⟩ := ih hpunctual.of_append
    obtain ⟨phase', hphase', habides'⟩ := abides_of_history h hpunctual.of_append hphase habides
    refine ⟨hundisturbed.append (undisturbed_pass ?_ later), halone'⟩
    rintro phase hmem waking rfl
    obtain ⟨j, hj⟩ := List.mem_iff_getElem?.mp hmem
    by_cases hsame : j = i
    · subst hsame
      cases hphase'.symm.trans hj
      exact habides'.not_gripping
    · obtain ⟨answer, time, hfinished⟩ := halone' j hsame _ hj
      cases hfinished

/-- What comes of a wait for the host of a record after its first step, by which it finds the
record. -/
structure Waited (i record : Nat) (g : FetchGate) (start : Nat) (deadline : Option Nat)
    (events : List (Event CallPhase HostDesk)) (last : Configuration CallPhase HostDesk) :
    Prop where
  /-- Whatever other calls do, it comes to a verdict, and not to a refusal before the deadline. -/
  notEarly : ∀ answer time, last.tasks[i]? = some (.finished answer time) →
    ∃ granted, answer = .verdict granted ∧ (granted = false → ∃ d ∈ deadline, d ≤ time)
  /-- Undisturbed, it comes to the verdict that the gate and the deadline decide on, on time. -/
  answered : Undisturbed i record events → ∀ granted time,
    last.tasks[i]? = some (.finished (.verdict granted) time) →
      g.Answers start deadline granted time ∧
        (granted = true → StampedBy i record g time events)
  returned : Undisturbed i record events →
    (g.foundBy start < last.now ∨ ∃ d ∈ deadline, d < last.now) → Returned i last
  /-- Time can go on, so that the wait can come to its end. -/
  goesOn : ∀ instant, ∃ more later, machine.History last more later ∧
    machine.Punctual (events ++ more) ∧ instant < later.now
  /-- A wait that has been left alone does so, undisturbed. -/
  alone : Undisturbed i record events → Alone i last → ∃ more later,
    machine.History last more later ∧ machine.Punctual (events ++ more) ∧
      Undisturbed i record (events ++ more) ∧ Returned i later

theorem waited_of_history {host : String} {timeout : Option Nat}
    {earlier : List (Event CallPhase HostDesk)} (hunlocked : d.table.Unlocked now)
    (hkept : d.Kept) (hnow : Time.IsWhole now)
    (hearlier : machine.History (d.opening now calls) earlier c)
    (hbefore : machine.Punctual earlier)
    (hwait : c.tasks[i]? = some (.waiting (.start host timeout) none))
    (htimeout : ∀ t ∈ timeout, Time.IsWhole t) (hturn : machine.stepAt c i = some turn)
    (hgate : turn.shared.table.gate? (c.shared.table.find host).1 = some g)
    (h : machine.History (c.after i turn) events last) (hpunctual : machine.Punctual events) :
    Waited i (c.shared.table.find host).1 g c.now (timeout.map (c.now + ·)) events last := by
  have hstart : Time.IsWhole c.now := hearlier.isWhole_now hbefore hnow
  have hlined : Lined calls (c.after i turn) :=
    ((lined_opening hunlocked hkept calls).history hearlier).act hturn
  have hpast : ∀ last ∈ g.lastGrant, last ≤ c.now := hlined.holds.timely _ g hgate
  have hwhole : ∀ d ∈ timeout.map (c.now + ·), Time.IsWhole d := by
    intro d hd
    obtain ⟨t, ht, rfl⟩ := Option.map_eq_some_iff.mp hd
    exact hstart.add (htimeout t ht)
  have hdeadline : ∀ d ∈ timeout.map (c.now + ·), c.now ≤ d := by
    intro d hd
    obtain ⟨t, -, rfl⟩ := Option.map_eq_some_iff.mp hd
    exact Nat.le_add_right _ _
  have hphase : (c.after i turn).tasks[i]? = some
      (.waiting (.atGate (c.shared.table.find host).1 (timeout.map (c.now + ·))) none) := by
    rw [(HostDesk.Finds.wait timeout).stepAt hwait rfl] at hturn
    cases hturn
    exact Configuration.tasks_after_self hwait
  have hfirst : Stage i (c.shared.table.find host).1 g c.now (timeout.map (c.now + ·)) []
      (c.after i turn) := .nears hphase hgate (FetchGate.allows_start hdeadline) ⟨rfl, rfl⟩
  have hstage : ∀ {more later}, machine.History (c.after i turn) more later →
      machine.Punctual more → Undisturbed i (c.shared.table.find host).1 more →
        Stage i (c.shared.table.find host).1 g c.now (timeout.map (c.now + ·)) more later :=
    stage_of_history hlined hpast hwhole hfirst
  have hgoes : ∀ instant, ∃ more later, machine.History last more later ∧
      machine.Punctual (events ++ more) ∧ instant < later.now := by
    intro instant
    obtain ⟨more, later, hmore, hpunctual', hlater⟩ :=
      Machine.exists_later effort_lt (h.isWhole_now hpunctual hstart) instant
    exact ⟨more, later, hmore, hpunctual.append hpunctual', hlater⟩
  -- That it abides by its deadline does not depend on others, what it gets does.
  obtain ⟨phase, hlast, habides⟩ := abides_of_history h hpunctual hphase (.waits rfl)
  refine ⟨fun answer time hfinished => ?_, fun hundisturbed granted time hfinished => ?_,
    fun hundisturbed hlate => ?_, hgoes, fun hundisturbed halone => ?_⟩
  · cases hlast.symm.trans hfinished
    exact habides.answer
  · exact (hstage h hpunctual hundisturbed).answered hfinished
  · exact (hstage h hpunctual hundisturbed).returned hlate
  · obtain ⟨more, later, hmore, hpunctual', hlater⟩ := hgoes (g.foundBy c.now)
    have hmore' : machine.Punctual more :=
      fun c' later' hmem => hpunctual' c' later' (List.mem_append_right _ hmem)
    have hundisturbed' := hundisturbed.append
      (halone.undisturbed hlast habides hmore hmore' _).1
    exact ⟨more, later, hmore, hpunctual', hundisturbed',
      (hstage (h.trans hmore) hpunctual' hundisturbed').returned (.inl hlater)⟩

end CallPhase

namespace HostDesk

open CallPhase

def booth (interval : Nat) : HostDesk where
  table := { single.table with minInterval := interval }

def rivals : List (Option Nat × HostCall) :=
  [(none, .wait "a" none none), (none, .wait "a" (some (Time.ofMillis 6)) none)]

/-- A call that keeps the gate's lock for ten milliseconds, and one that waits for the host with a
timeout of five. -/
def hindered : List (Option Nat × HostCall) :=
  [(none, .holdGate "a" (Time.ofMillis 10)), (none, .wait "a" (some (Time.ofMillis 5)) none)]

namespace Booth

def made : LruCache String Nat := (single.table.cache.getOrCreate (HostTable.keyOf "a") 0).2

def touched : LruCache String Nat :=
  { made with policy := EvictionPolicy.touch made.policy (HostTable.keyOf "a") }

def table (interval : Nat) (cache : LruCache String Nat) (records : List HostRecord) : HostTable :=
  { (booth interval).table with cache, records }

def record (interval : Nat) (lastGrant : Option Nat) (grants : Nat) : HostRecord :=
  { host := HostTable.keyOf "a", gate := { minInterval := interval, lastGrant, grants } }

def locked : HostRecord := { record 0 none 0 with gateLock := { holder := some 0 } }

theorem unlocked (interval now : Nat) : (booth interval).table.Unlocked now :=
  HostTable.Fresh.unlocked ⟨rfl, fun _ => Std.HashMap.getElem?_empty⟩ now

theorem kept (interval : Nat) : (booth interval).Kept := nofun

theorem peek_empty : single.table.cache.peek (HostTable.keyOf "a") = none :=
  Std.HashMap.getElem?_empty

theorem find_first (interval : Nat) :
    (booth interval).table.find "a" = (0, table interval made [record interval none 0]) :=
  HostTable.find_of_none peek_empty

theorem find_again (interval : Nat) (records : List HostRecord) :
    (table interval made records).find "a" = (0, table interval touched records) := by
  apply HostTable.find_of_peek
  have hroom : single.table.cache.size < single.table.cache.capacity := by decide
  show made.entries[HostTable.keyOf "a"]? = some 0
  rw [made, BoundedCache.entries_getOrCreate peek_empty hroom]
  exact Std.HashMap.getElem?_insert_self

end Booth

/-- The first call has been granted the host, and the second begins. -/
def rivalry : Configuration CallPhase HostDesk :=
  config 0 [.finished (.verdict true) 0, .waiting (.start "a" (some (Time.ofMillis 6))) none]
    (Booth.table (Time.ofMillis 4) Booth.made [Booth.record (Time.ofMillis 4) (some 0) 1])

def rivalTurn : Turn CallPhase HostDesk where
  phase := .waiting (.atGate 0 (some (0 + Time.ofMillis 6))) none
  shared := { table :=
    Booth.table (Time.ofMillis 4) Booth.touched [Booth.record (Time.ofMillis 4) (some 0) 1] }

def rivalRun : List (Event CallPhase HostDesk) × Configuration CallPhase HostDesk :=
  machine.follow (rivalry.after 1 rivalTurn) []
    (List.replicate 3 (.inl 1) ++ .inr (Time.ofMillis 4) :: List.replicate 6 (.inl 1))

theorem exists_rivalry : ∃ earlier,
    machine.History ((booth (Time.ofMillis 4)).opening 0 rivals) earlier rivalry ∧
      machine.Punctual earlier := by
  have hcomes : machine.History ((booth (Time.ofMillis 4)).opening 0 rivals) _
      (config 0 [.waiting (.start "a" none) none,
        .coming none (.wait "a" (some (Time.ofMillis 6)) none)] (booth (Time.ofMillis 4)).table) :=
    machine.history_follow (.refl _) [.inl 0]
  have hfirst := hcomes.act ((Finds.wait none).stepAt (i := 0) rfl (Booth.find_first _))
  have hgranted : machine.History _ _ rivalry :=
    machine.history_follow hfirst (List.replicate 5 (.inl 0) ++ [.inl 1])
  exact ⟨_, hgranted, machine.punctual_of_isPunctual rfl⟩

theorem undisturbed_rivalRun : Undisturbed 1 0 rivalRun.1 := by
  have halone : Alone 1 (rivalry.after 1 rivalTurn) := by
    intro j hj phase hphase
    match j, hj with
    | 0, _ =>
      cases hphase
      exact ⟨_, _, rfl⟩
    | j + 2, _ => cases hphase
  have habides : Abides (some (0 + Time.ofMillis 6)) 0 rivalTurn.phase := .waits rfl
  exact (halone.undisturbed rfl habides (machine.history_follow (.refl _) _)
    (machine.punctual_of_isPunctual (by decide +kernel)) 0).1

/-- The host has just been granted when the second call comes, which gets it when the gate opens,
before its deadline. -/
theorem waited_rival : ∃ earlier,
    (booth (Time.ofMillis 4)).table.Unlocked 0 ∧ (booth (Time.ofMillis 4)).Kept ∧ Time.IsWhole 0 ∧
      machine.History ((booth (Time.ofMillis 4)).opening 0 rivals) earlier rivalry ∧
      machine.Punctual earlier ∧
      rivalry.tasks[1]? = some (.waiting (.start "a" (some (Time.ofMillis 6))) none) ∧
      (∀ t ∈ some (Time.ofMillis 6), Time.IsWhole t) ∧
      machine.stepAt rivalry 1 = some rivalTurn ∧
      rivalTurn.shared.table.gate? (rivalry.shared.table.find "a").1 =
        some { minInterval := Time.ofMillis 4, lastGrant := some 0, grants := 1 } ∧
      machine.History (rivalry.after 1 rivalTurn) rivalRun.1 rivalRun.2 ∧
      machine.Punctual rivalRun.1 ∧ Undisturbed 1 0 rivalRun.1 ∧
      rivalRun.2.tasks[1]? = some (.finished (.verdict true) (Time.ofMillis 4)) ∧
      Waited 1 (rivalry.shared.table.find "a").1
        { minInterval := Time.ofMillis 4, lastGrant := some 0, grants := 1 } rivalry.now
        ((some (Time.ofMillis 6)).map (rivalry.now + ·)) rivalRun.1 rivalRun.2 := by
  obtain ⟨earlier, hearlier, hbefore⟩ := exists_rivalry
  have hunlocked := Booth.unlocked (Time.ofMillis 4) 0
  have hkept := Booth.kept (Time.ofMillis 4)
  have hwhole : ∀ t ∈ some (Time.ofMillis 6), Time.IsWhole t := by
    intro t ht
    cases ht
    exact Time.isWhole_ofMillis 6
  have hfind : rivalry.shared.table.find "a" = (0, rivalTurn.shared.table) :=
    Booth.find_again _ _
  have hwait : rivalry.tasks[1]? =
      some (.waiting (.start "a" (some (Time.ofMillis 6))) none) := rfl
  have hturn : machine.stepAt rivalry 1 = some rivalTurn := (Finds.wait _).stepAt hwait hfind
  have hgate : rivalTurn.shared.table.gate? (rivalry.shared.table.find "a").1 =
      some { minInterval := Time.ofMillis 4, lastGrant := some 0, grants := 1 } := by
    rw [hfind]
    rfl
  have hhistory := machine.history_follow (.refl (rivalry.after 1 rivalTurn))
    (List.replicate 3 (.inl 1) ++ .inr (Time.ofMillis 4) :: List.replicate 6 (.inl 1))
  have hpunctual : machine.Punctual rivalRun.1 :=
    machine.punctual_of_isPunctual (by decide +kernel)
  exact ⟨earlier, hunlocked, hkept, ⟨0, rfl⟩, hearlier, hbefore, hwait, hwhole, hturn, hgate,
    hhistory, hpunctual, undisturbed_rivalRun, rfl,
    waited_of_history hunlocked hkept ⟨0, rfl⟩ hearlier hbefore hwait hwhole hturn hgate hhistory
      hpunctual⟩

/-- The first call keeps the lock of the gate, and the second begins. -/
def hindrance : Configuration CallPhase HostDesk :=
  config 0 [.gripping 0 (0 + Time.ofMillis 10),
      .waiting (.start "a" (some (Time.ofMillis 5))) none]
    (Booth.table 0 Booth.made [Booth.locked])

def hinderedTurn : Turn CallPhase HostDesk where
  phase := .waiting (.atGate 0 (some (0 + Time.ofMillis 5))) none
  shared := { table := Booth.table 0 Booth.touched [Booth.locked] }

def hinderedRun : List (Event CallPhase HostDesk) × Configuration CallPhase HostDesk :=
  machine.follow (hindrance.after 1 hinderedTurn) []
    ([.inl 1, .inr (Time.ofMillis 10)] ++ List.replicate 2 (.inl 0) ++ List.replicate 5 (.inl 1))

theorem exists_hindrance : ∃ earlier,
    machine.History ((booth 0).opening 0 hindered) earlier hindrance ∧
      machine.Punctual earlier := by
  have hstep : machine.stepAt ((booth 0).opening 0 hindered) 0 = some
      { phase := .atGate ((booth 0).table.find "a").1 (.hold (Time.ofMillis 10))
        shared := { table := ((booth 0).table.find "a").2 } } := rfl
  rw [Booth.find_first] at hstep
  have hkeeps : machine.History _ _ hindrance :=
    machine.history_follow ((Machine.History.refl _).act hstep) [.inl 0, .inl 0, .inl 1]
  exact ⟨_, hkeeps, machine.punctual_of_isPunctual rfl⟩

/-- While the lock of an open gate is kept, a wait for it is not over, not even at its deadline,
though nobody else is granted the host. -/
theorem granted_late_of_hindrance : ∃ earlier,
    (booth 0).table.Unlocked 0 ∧ (booth 0).Kept ∧ Time.IsWhole 0 ∧
      machine.History ((booth 0).opening 0 hindered) earlier hindrance ∧
      machine.Punctual earlier ∧
      hindrance.tasks[1]? = some (.waiting (.start "a" (some (Time.ofMillis 5))) none) ∧
      machine.stepAt hindrance 1 = some hinderedTurn ∧
      hinderedTurn.shared.table.gate? (hindrance.shared.table.find "a").1 =
        some { minInterval := 0 } ∧
      machine.History (hindrance.after 1 hinderedTurn) hinderedRun.1 hinderedRun.2 ∧
      machine.Punctual hinderedRun.1 ∧
      (∀ a ∈ acts hinderedRun.1, a.task ≠ 1 →
        a.turn.shared.table.gate? 0 = a.before.shared.table.gate? 0) ∧
      FetchGate.opensAt { minInterval := 0 } hindrance.now = hindrance.now ∧
      hinderedRun.2.tasks[1]? = some (.finished (.verdict true) (Time.ofMillis 10)) ∧
      ¬ FetchGate.Answers { minInterval := 0 } hindrance.now
        (some (hindrance.now + Time.ofMillis 5)) true (Time.ofMillis 10) := by
  obtain ⟨earlier, hearlier, hbefore⟩ := exists_hindrance
  have hfind : hindrance.shared.table.find "a" = (0, hinderedTurn.shared.table) :=
    Booth.find_again _ _
  have hwait : hindrance.tasks[1]? =
      some (.waiting (.start "a" (some (Time.ofMillis 5))) none) := rfl
  have hgate : hinderedTurn.shared.table.gate? (hindrance.shared.table.find "a").1 =
      some { minInterval := 0 } := by
    rw [hfind]
    rfl
  have hlate : ¬ FetchGate.Answers { minInterval := 0 } hindrance.now
      (some (hindrance.now + Time.ofMillis 5)) true (Time.ofMillis 10) := by
    intro h
    have hdue := h.allowed.due _ rfl
    exact absurd hdue (by decide)
  exact ⟨earlier, Booth.unlocked 0 0, Booth.kept 0, ⟨0, rfl⟩, hearlier, hbefore, hwait,
    (Finds.wait _).stepAt hwait hfind, hgate, machine.history_follow (.refl _) _,
    machine.punctual_of_isPunctual (by decide +kernel), by decide +kernel, rfl, rfl, hlate⟩

end HostDesk

end PoliteCrawl

import PoliteCrawl.Proofs.Schedule.Punctual
import PoliteCrawl.Proofs.Valve.Hall

namespace PoliteCrawl

open HallPhase

def Visitor.outcome (x : Visitor) (timeout : Nat) : Option Admission :=
  if x.verdict && x.delay.any (· ≤ timeout) then some .passed else none

def Visitor.span (x : Visitor) (timeout : Nat) : Nat := x.delay.elim timeout (min · timeout)

namespace Visitor

variable {x : Visitor} {timeout d : Nat}

theorem le_span {n : Nat} (htimeout : n ≤ timeout) (hdelay : ∀ d ∈ x.delay, n ≤ d) :
    n ≤ x.span timeout := by
  unfold span
  cases hd : x.delay with
  | none => exact htimeout
  | some d => exact Nat.le_min.mpr ⟨hdelay d hd, htimeout⟩

theorem span_of_le (hdelay : x.delay = some d) (hle : d ≤ timeout) : x.span timeout = d := by
  rw [span, hdelay]
  exact Nat.min_eq_left hle

theorem outcome_of_le (hdelay : x.delay = some d) (hle : d ≤ timeout) :
    x.outcome timeout = if x.verdict then some .passed else none := by
  simp [outcome, hdelay, hle]

/-- Too late an answer is none. -/
theorem of_lt (hlate : ∀ d ∈ x.delay, timeout < d) :
    x.span timeout = timeout ∧ x.outcome timeout = none := by
  unfold span outcome
  cases hdelay : x.delay with
  | none => simp
  | some d =>
    have hlt := hlate d hdelay
    simp [Nat.min_eq_right (Nat.le_of_lt hlt), Nat.not_le_of_lt hlt]

end Visitor

namespace ValveHall

variable {x : Visitor} {keeps : Bool} {admission : Option Admission} {t timeout now later task : Nat}
  {phase : VisitPhase} {h : ValveHall} {next : Progress VisitPhase ValveHall}
  {c start last : Configuration VisitPhase ValveHall} {events : List (Event VisitPhase ValveHall)}

abbrev visits : Machine VisitPhase ValveHall := machine Visitor.predicate (·.number)

def questions (a : Act VisitPhase ValveHall) : Consultations :=
  a.turn.shared.asked.drop a.before.shared.asked.length

/-- A task whose entry has come to its end at an instant, up to when it tells. -/
inductive Closing (x : Visitor) (keeps : Bool) (admission : Option Admission) (time : Nat) :
    Nat → VisitPhase → Prop where
  | settled : Closing x keeps admission time time (.entering x keeps (.settled admission))
  | arriving (a : Admission) (ha : admission = some a) :
    Closing x keeps admission time time (.arriving x keeps a)
  | looking : Closing x keeps admission time time (.looking (.entered admission))
  | finished (inside : Nat) {now : Nat} (hle : time ≤ now) :
    Closing x keeps admission time now (.finished (.entered admission) inside time)

theorem Closing.step (hclosing : Closing x keeps admission t now phase)
    (hstep : phase.step Visitor.predicate (·.number) now task h = some next) :
    Closing x keeps admission t now next.phase ∧ next.shared.asked = h.asked ∧
      next.shared.valve.jitter = h.valve.jitter := by
  cases hclosing with
  | settled =>
    cases admission with
    | none =>
      cases hstep
      exact ⟨.looking, rfl, rfl⟩
    | some a =>
      cases hstep
      exact ⟨.arriving a rfl, rfl, rfl⟩
  | arriving a ha =>
    cases hstep
    subst ha
    refine ⟨.looking, ?_⟩
    cases keeps with
    | false => exact ⟨rfl, rfl⟩
    | true =>
      show (h.keep x.number a).asked = _ ∧ (h.keep x.number a).valve.jitter = _
      unfold Hall.keep Hall.drop
      split <;> exact ⟨rfl, rfl⟩
  | looking =>
    cases hstep
    exact ⟨.finished _ (Nat.le_refl _), rfl, rfl⟩
  | finished => cases hstep

theorem Closing.waits (hclosing : Closing x keeps admission t now phase)
    (hnone : phase.step Visitor.predicate (·.number) now task h = none) :
    ∃ inside, t ≤ now ∧ phase = .finished (.entered admission) inside t := by
  cases hclosing with
  | settled => cases admission <;> cases hnone
  | arriving | looking => cases hnone
  | finished inside hle => exact ⟨inside, hle, rfl⟩

theorem Closing.pass (hclosing : Closing x keeps admission t now phase)
    (hnone : phase.step Visitor.predicate (·.number) now task h = none) (hle : now ≤ later) :
    Closing x keeps admission t later phase := by
  obtain ⟨inside, ht, rfl⟩ := hclosing.waits hnone
  exact .finished inside (Nat.le_trans ht hle)

/-- A task that has asked the predicate, or is about to, at an instant and with a timeout, and what
it has asked. -/
inductive Asking (x : Visitor) (keeps : Bool) (t timeout : Nat) :
    Nat → VisitPhase → Consultations → Prop where
  | asks : Asking x keeps t timeout t
      (.entering x keeps (.asking (.start x timeout) (t + timeout))) []
  | awaits {now : Nat} (hdue : ∀ d ∈ x.delay, now ≤ t + d) (hcutoff : now ≤ t + timeout) :
    Asking x keeps t timeout now
      (.entering x keeps (.asking (.awaiting (x.delay.map (t + ·)) x.verdict) (t + timeout)))
      [(x.number, timeout)]
  | knows {d : Nat} (hdelay : x.delay = some d) (hle : d ≤ timeout) :
    Asking x keeps t timeout (t + d)
      (.entering x keeps (.asking (.done x.verdict) (t + timeout))) [(x.number, timeout)]
  | passes {d : Nat} (hdelay : x.delay = some d) (hle : d ≤ timeout) (hverdict : x.verdict = true) :
    Asking x keeps t timeout (t + d) (.entering x keeps .passing) [(x.number, timeout)]
  | closes {now : Nat} {phase : VisitPhase}
    (hclosing : Closing x keeps (x.outcome timeout) (t + x.span timeout) now phase) :
    Asking x keeps t timeout now phase [(x.number, timeout)]

theorem step_awaiting {due : Option Nat} {verdict : Bool} {cutoff : Nat} :
    HallPhase.step Visitor.predicate (·.number) now task
        (.entering x keeps (.asking (.awaiting due verdict) cutoff)) h =
      if due.any (· ≤ now) then
        some { phase := .entering x keeps (.asking (.done verdict) cutoff), shared := h }
      else if cutoff ≤ now then some { phase := .entering x keeps (.settled none), shared := h }
      else none := by
  simp only [HallPhase.step, EntryPhase.step, Visitor.predicate]
  by_cases hcomes : due.any (· ≤ now) = true
  · simp only [if_pos hcomes]
    rfl
  · simp only [if_neg hcomes]
    split <;> rfl

theorem any_due_iff : (x.delay.map (t + ·)).any (· ≤ now) = true ↔
    ∃ d, x.delay = some d ∧ t + d ≤ now := by
  cases x.delay <;> simp

theorem Asking.step {asked : Consultations} (hasking : Asking x keeps t timeout now phase asked)
    (hstep : phase.step Visitor.predicate (·.number) now task h = some next) :
    ∃ more, Asking x keeps t timeout now next.phase (asked ++ more) ∧
      next.shared.asked = h.asked ++ more := by
  cases hasking with
  | asks =>
    cases hstep
    exact ⟨_, .awaits (fun d _ => Nat.le_add_right t d) (Nat.le_add_right t timeout), rfl⟩
  | awaits hdue hcutoff =>
    refine ⟨[], ?_⟩
    rw [step_awaiting] at hstep
    split at hstep
    · rename_i hcomes
      cases hstep
      obtain ⟨d, hdelay, hle⟩ := any_due_iff.mp hcomes
      -- The answer is taken on time, as time did not pass beyond it.
      have hge := hdue d hdelay
      obtain rfl : now = t + d := by omega
      exact ⟨.knows hdelay (by omega), (List.append_nil _).symm⟩
    · rename_i hcomes
      split at hstep <;> cases hstep
      obtain rfl : now = t + timeout := by omega
      have hlate : ∀ d ∈ x.delay, timeout < d := by
        intro d hdelay
        by_contra hle
        exact hcomes (any_due_iff.mpr ⟨d, hdelay, by omega⟩)
      obtain ⟨hspan, houtcome⟩ := x.of_lt hlate
      refine ⟨.closes ?_, (List.append_nil _).symm⟩
      rw [hspan, houtcome]
      exact .settled
  | knows hdelay hle =>
    refine ⟨[], ?_⟩
    cases hverdict : x.verdict with
    | true =>
      rw [hverdict] at hstep
      cases hstep
      exact ⟨.passes hdelay hle hverdict, (List.append_nil _).symm⟩
    | false =>
      rw [hverdict] at hstep
      cases hstep
      refine ⟨.closes ?_, (List.append_nil _).symm⟩
      rw [Visitor.outcome_of_le hdelay hle, Visitor.span_of_le hdelay hle, hverdict]
      exact .settled
  | passes hdelay hle hverdict =>
    cases hstep
    refine ⟨[], .closes ?_, (List.append_nil _).symm⟩
    rw [Visitor.outcome_of_le hdelay hle, Visitor.span_of_le hdelay hle, hverdict]
    exact .settled
  | closes hclosing =>
    obtain ⟨hnext, hasked, -⟩ := hclosing.step hstep
    exact ⟨[], .closes hnext, by rw [hasked, List.append_nil]⟩

/-- While the answer and the end of the timeout are still to come, time does not pass beyond
either. -/
theorem Asking.pass {asked : Consultations} (hasking : Asking x keeps t timeout now phase asked)
    (ht : Time.IsWhole t) (htimeout : Time.IsWhole timeout)
    (hdelay : ∀ d ∈ x.delay, Time.IsWhole d)
    (hnone : phase.step Visitor.predicate (·.number) now task h = none) (hle : now ≤ later)
    (halarms : ∀ alarm ∈ visits.alarms phase, now < alarm →
      later ≤ Time.ofMillis (Time.ringing alarm)) :
    Asking x keeps t timeout later phase asked := by
  cases hasking with
  | asks | passes => cases hnone
  | knows => cases hverdict : x.verdict <;> rw [hverdict] at hnone <;> cases hnone
  | closes hclosing => exact .closes (hclosing.pass hnone hle)
  | awaits hdue hcutoff =>
    rw [step_awaiting] at hnone
    split at hnone
    · cases hnone
    · rename_i hcomes
      split at hnone
      · cases hnone
      · rename_i hcut
        -- Both alarms are set, each for a whole millisecond.
        refine .awaits (fun d hd => ?_) ?_
        · have hlt : now < t + d := by
            by_contra hge
            exact hcomes (any_due_iff.mpr ⟨d, hd, by omega⟩)
          rw [← (ht.add (hdelay d hd)).ofMillis_ringing]
          refine halarms _ (List.mem_append_left _ ?_) hlt
          simpa [Visitor.predicate] using hd
        · rw [← (ht.add htimeout).ofMillis_ringing]
          exact halarms _ (List.mem_append_right _ List.mem_cons_self) (by omega)

structure Settles (i : Nat) (events : List (Event VisitPhase ValveHall))
    (last : Configuration VisitPhase ValveHall) (asked : Consultations)
    (admission : Option Admission) (time : Nat) : Prop where
  consulted : (actsOf i events).flatMap questions <+: asked
  answered : ∀ answer inside instant, last.tasks[i]? = some (.finished answer inside instant) →
    answer = .entered admission ∧ instant = time ∧ (actsOf i events).flatMap questions = asked
  returned : time < last.now →
    ∃ inside, last.tasks[i]? = some (.finished (.entered admission) inside time)

variable {i : Nat} {asked : Consultations} {time : Nat}

theorem Closing.settles (hclosing : Closing x keeps admission time last.now phase)
    (hphase : last.tasks[i]? = some phase) (hasked : (actsOf i events).flatMap questions = asked) :
    Settles i events last asked admission time where
  consulted := hasked ▸ List.prefix_rfl
  answered answer inside instant hfinished := by
    rw [hphase] at hfinished
    cases hfinished
    cases hclosing
    exact ⟨rfl, rfl, hasked⟩
  returned hlater := by
    cases hclosing with
    | settled | arriving | looking => exact absurd hlater (Nat.lt_irrefl _)
    | finished inside => exact ⟨inside, hphase⟩

/-- An entry that is under way owes nothing yet. -/
theorem settles_of_entering {entry : EntryPhase Visitor VisitorWait}
    (hphase : last.tasks[i]? = some (.entering x keeps entry))
    (hasked : (actsOf i events).flatMap questions <+: asked) (hnow : last.now ≤ time) :
    Settles i events last asked admission time where
  consulted := hasked
  answered answer inside instant hfinished := by
    rw [hphase] at hfinished
    cases hfinished
  returned hlater := absurd hnow (Nat.not_le_of_lt hlater)

theorem Asking.settles (hasking : Asking x keeps t timeout last.now phase asked)
    (hphase : last.tasks[i]? = some phase) (hasked : (actsOf i events).flatMap questions = asked) :
    Settles i events last [(x.number, timeout)] (x.outcome timeout) (t + x.span timeout) := by
  generalize hnow : last.now = now at hasking
  cases hasking with
  | asks =>
    exact settles_of_entering hphase (hasked ▸ List.nil_prefix) (by omega)
  | awaits hdue hcutoff =>
    refine settles_of_entering hphase (hasked ▸ List.prefix_rfl) ?_
    have hle : now - t ≤ x.span timeout := x.le_span (by omega) fun d hd => by
      have hge := hdue d hd
      omega
    omega
  | knows hdelay hle | passes hdelay hle hverdict =>
    refine settles_of_entering hphase (hasked ▸ List.prefix_rfl) ?_
    exact Nat.le_of_eq (by rw [hnow, Visitor.span_of_le hdelay hle])
  | closes hclosing =>
    subst hnow
    exact hclosing.settles hphase hasked

theorem baseWait_of_history (h : visits.History start events last) :
    last.shared.valve.baseWait = start.shared.valve.baseWait := by
  induction h with
  | refl => rfl
  | act h hstep ih =>
    obtain ⟨phase, hphase, -⟩ := visits.stepAt_eq_some hstep
    exact (leads_of_stepAt hphase hstep).1.baseWait.trans ih
  | pass h hle ih => exact ih

/-- An entry under pressure, from when that is found out on. The timeout is drawn by its next
step. -/
inductive Pressed (x : Visitor) (keeps : Bool) (t base : Nat) :
    Nat → VisitPhase → Consultations → Prop where
  | draws : Pressed x keeps t base t (.entering x keeps (.pressed x)) []
  | asks (timeout : Nat) {now : Nat} {phase : VisitPhase} {asked : Consultations}
    (hle : base ≤ timeout) (hge : timeout ≤ base + base / 2) (hwhole : Time.IsWhole timeout)
    (hasking : Asking x keeps t timeout now phase asked) : Pressed x keeps t base now phase asked

theorem Pressed.step {base : Nat} (hpressed : Pressed x keeps t base now phase asked)
    (hbase : h.valve.baseWait = base) (hwhole : Time.IsWhole base)
    (hlongest : base + base / 2 ≤ Time.longest)
    (hstep : phase.step Visitor.predicate (·.number) now task h = some next) :
    ∃ more, Pressed x keeps t base now next.phase (asked ++ more) ∧
      next.shared.asked = h.asked ++ more := by
  cases hpressed with
  | draws =>
    cases hstep
    subst hbase
    have hlongest' : h.valve.baseWait ≤ Time.longest := by omega
    have hle := h.valve.jitter.le_around hlongest' (h.valve.baseWait / 2)
    have hge := h.valve.jitter.around_le h.valve.baseWait (h.valve.baseWait / 2)
    have hdrawn := h.valve.jitter.isWhole_around hwhole hlongest
    exact ⟨[], .asks _ hle hge hdrawn .asks, (List.append_nil _).symm⟩
  | asks timeout hle hge hdrawn hasking =>
    obtain ⟨more, hnext, hasked⟩ := hasking.step hstep
    exact ⟨more, .asks timeout hle hge hdrawn hnext, hasked⟩

theorem Pressed.pass {base : Nat} (hpressed : Pressed x keeps t base now phase asked)
    (ht : Time.IsWhole t) (hdelay : ∀ d ∈ x.delay, Time.IsWhole d)
    (hnone : phase.step Visitor.predicate (·.number) now task h = none) (hle : now ≤ later)
    (halarms : ∀ alarm ∈ visits.alarms phase, now < alarm →
      later ≤ Time.ofMillis (Time.ringing alarm)) :
    Pressed x keeps t base later phase asked := by
  cases hpressed with
  | draws => cases hnone
  | asks timeout hle' hge hdrawn hasking =>
    exact .asks timeout hle' hge hdrawn (hasking.pass ht hdrawn hdelay hnone hle halarms)

theorem Pressed.settles {base : Nat} (hpressed : Pressed x keeps t base last.now phase asked)
    (hwhole : Time.IsWhole base) (hphase : last.tasks[i]? = some phase)
    (hasked : (actsOf i events).flatMap questions = asked) :
    ∃ timeout, base ≤ timeout ∧ timeout ≤ base + base / 2 ∧ Time.IsWhole timeout ∧
      Settles i events last [(x.number, timeout)] (x.outcome timeout) (t + x.span timeout) := by
  generalize hnow : last.now = now at hpressed
  cases hpressed with
  | draws =>
    -- Whatever will be drawn, nothing is late yet.
    exact ⟨base, Nat.le_refl _, Nat.le_add_right _ _, hwhole,
      settles_of_entering hphase (hasked ▸ List.nil_prefix) (by omega)⟩
  | asks timeout hle hge hdrawn hasking =>
    subst hnow
    exact ⟨timeout, hle, hge, hdrawn, hasking.settles hphase hasked⟩

theorem questions_of_append {a : Act VisitPhase ValveHall} {more : Consultations}
    (hasked : a.turn.shared.asked = a.before.shared.asked ++ more) : questions a = more := by
  rw [questions, hasked, List.drop_left]

theorem pressed_of_history {base : Nat} (h : visits.History start events last)
    (hpunctual : visits.Punctual events)
    (hphase : start.tasks[i]? = some (.entering x keeps (.pressed x))) (ht : Time.IsWhole start.now)
    (hdelay : ∀ d ∈ x.delay, Time.IsWhole d) (hbase : start.shared.valve.baseWait = base)
    (hwhole : Time.IsWhole base) (hlongest : base + base / 2 ≤ Time.longest) :
    ∃ phase, last.tasks[i]? = some phase ∧
      Pressed x keeps start.now base last.now phase ((actsOf i events).flatMap questions) := by
  refine h.follows (P := fun now phase own =>
    Pressed x keeps start.now base now phase (own.flatMap questions)) hpunctual hphase .draws ?_ ?_
  · intro earlier c phase own turn hearlier hturn hpressed
    obtain ⟨next, hstep, rfl⟩ := Option.map_eq_some_iff.mp hturn
    have hbase' := (baseWait_of_history hearlier).trans hbase
    obtain ⟨more, hnext, hasked⟩ := hpressed.step hbase' hwhole hlongest hstep
    rw [List.flatMap_append, List.flatMap_singleton, questions_of_append hasked]
    exact hnext
  · intro c phase own later hnone hle halarms hpressed
    exact hpressed.pass ht hdelay (Option.map_eq_none_iff.mp hnone) hle halarms

theorem closing_of_history (h : visits.History start events last)
    (hpunctual : visits.Punctual events)
    (hphase : start.tasks[i]? = some (.entering x keeps (.settled admission))) :
    ∃ phase, last.tasks[i]? = some phase ∧ Closing x keeps admission start.now last.now phase ∧
      (∀ a ∈ actsOf i events, a.turn.shared.valve.jitter = a.before.shared.valve.jitter) ∧
      (actsOf i events).flatMap questions = [] := by
  refine h.follows (P := fun now phase own => Closing x keeps admission start.now now phase ∧
    (∀ a ∈ own, a.turn.shared.valve.jitter = a.before.shared.valve.jitter) ∧
      own.flatMap questions = []) hpunctual hphase ⟨.settled, nofun, rfl⟩ ?_ ?_
  · rintro earlier c phase own turn - hturn ⟨hclosing, hjitters, hquestions⟩
    obtain ⟨next, hstep, rfl⟩ := Option.map_eq_some_iff.mp hturn
    obtain ⟨hnext, hasked, hjitter⟩ := hclosing.step hstep
    refine ⟨hnext, fun a ha => ?_, ?_⟩
    · rcases List.mem_append.mp ha with ha | ha
      · exact hjitters a ha
      · cases List.mem_singleton.mp ha
        exact hjitter
    · have hnone : next.shared.asked = c.shared.asked ++ [] := by rw [hasked, List.append_nil]
      rw [List.flatMap_append, List.flatMap_singleton, hquestions, questions_of_append hnone]
      rfl
  · rintro c phase own later hnone hle - ⟨hclosing, hrest⟩
    exact ⟨hclosing.pass (Option.map_eq_none_iff.mp hnone) hle, hrest⟩

def effort : VisitPhase → Nat
  | .coming _ _ => 10
  | .entering _ _ (.start _) => 9
  | .entering _ _ (.pressed _) => 8
  | .entering _ _ (.asking (.start _ _) _) => 7
  | .entering _ _ (.asking (.awaiting _ _) _) => 6
  | .entering _ _ (.asking (.done _) _) => 5
  | .entering _ _ .passing => 4
  | .entering _ _ (.settled _) => 3
  | .arriving _ _ _ => 2
  | .looking _ => 1
  | .finished _ _ _ => 0

theorem effort_lt {turn : Turn VisitPhase ValveHall}
    (hturn : visits.step now task phase h = some turn) :
    effort turn.phase < effort phase ∧ turn.spawned = [] := by
  obtain ⟨next, hstep, rfl⟩ := Option.map_eq_some_iff.mp hturn
  refine ⟨?_, rfl⟩
  cases phase with
  | coming due visit =>
    simp only [HallPhase.step] at hstep
    split at hstep <;> cases hstep
    cases visit <;> simp [begin, effort]
  | entering x keeps entry =>
    cases entry with
    | start y =>
      simp only [HallPhase.step, EntryPhase.step] at hstep
      split at hstep <;> cases hstep <;> simp [effort, Progress.within]
    | pressed y =>
      cases hstep
      simp [effort, Progress.within, Visitor.predicate]
    | asking wait cutoff =>
      cases wait with
      | start y timeout =>
        cases hstep
        simp [effort, Progress.within]
      | awaiting due verdict =>
        rw [step_awaiting] at hstep
        split at hstep
        · cases hstep
          simp [effort]
        · split at hstep <;> cases hstep
          simp [effort]
      | done verdict =>
        cases verdict <;> cases hstep <;> simp [effort, Progress.within]
    | passing =>
      cases hstep
      simp [effort, Progress.within]
    | settled admission =>
      cases admission <;> cases hstep <;> simp [effort]
  | arriving x keeps admission =>
    cases hstep
    simp [effort]
  | looking answer =>
    cases hstep
    simp [effort]
  | finished => cases hstep

/-- What comes of an entry after its first step, by which it looks for room. -/
structure Decided (x : Visitor) (keeps : Bool) (i : Nat) (c : Configuration VisitPhase ValveHall)
    (turn : Turn VisitPhase ValveHall) (events : List (Event VisitPhase ValveHall))
    (last : Configuration VisitPhase ValveHall) : Prop where
  below : c.shared.valve.inside < c.shared.valve.threshold →
    turn.phase = .entering x keeps (.settled (some .below)) ∧
      turn.shared = { c.shared with valve := c.shared.valve.count } ∧
      Settles i events last [] (some .below) c.now ∧
      ∀ a ∈ actsOf i events, a.turn.shared.valve.jitter = a.before.shared.valve.jitter
  pressed : c.shared.valve.threshold ≤ c.shared.valve.inside →
    ∃ timeout, c.shared.valve.baseWait ≤ timeout ∧
      timeout ≤ c.shared.valve.baseWait + c.shared.valve.baseWait / 2 ∧
      Settles i events last [(x.number, timeout)] (x.outcome timeout) (c.now + x.span timeout)
  /-- Time can go on, so that the entry can come to its end. -/
  goesOn : ∀ instant, ∃ more later, visits.History last more later ∧
    visits.Punctual (events ++ more) ∧ instant < later.now

theorem decided_of_history {turn : Turn VisitPhase ValveHall}
    (hentry : c.tasks[i]? = some (.entering x keeps (.start x))) (hnow : Time.IsWhole c.now)
    (hbase : Time.IsWhole c.shared.valve.baseWait)
    (hlongest : c.shared.valve.baseWait + c.shared.valve.baseWait / 2 ≤ Time.longest)
    (hdelay : ∀ d ∈ x.delay, Time.IsWhole d) (hturn : visits.stepAt c i = some turn)
    (h : visits.History (c.after i turn) events last) (hpunctual : visits.Punctual events) :
    Decided x keeps i c turn events last := by
  have hafter : (c.after i turn).tasks[i]? = some turn.phase :=
    Configuration.tasks_after_self hentry
  obtain ⟨phase, hphase, hstep⟩ := visits.stepAt_eq_some hturn
  cases hentry.symm.trans hphase
  obtain ⟨next, hnext, rfl⟩ := Option.map_eq_some_iff.mp hstep
  simp only [HallPhase.step, EntryPhase.step, Valve.enterBelow?] at hnext
  -- the first step decides on which way to go; what follows it is a run from there
  refine ⟨fun hroom => ?_, fun hfull => ?_, fun instant => ?_⟩
  · rw [if_pos hroom] at hnext
    cases hnext
    obtain ⟨phase, hlast, hclosing, hjitters, hquestions⟩ :=
      closing_of_history h hpunctual hafter
    exact ⟨rfl, rfl, hclosing.settles hlast hquestions, hjitters⟩
  · rw [if_neg (Nat.not_lt_of_le hfull)] at hnext
    cases hnext
    obtain ⟨phase, hlast, hpressed⟩ :=
      pressed_of_history h hpunctual hafter hnow hdelay rfl hbase hlongest
    obtain ⟨timeout, hle, hge, -, hsettles⟩ := hpressed.settles hbase hlast rfl
    exact ⟨timeout, hle, hge, hsettles⟩
  · obtain ⟨more, later, hmore, hpunctual', hlater⟩ :=
      Machine.exists_later effort_lt (h.isWhole_now hpunctual hnow) instant
    exact ⟨more, later, hmore, hpunctual.append hpunctual', hlater⟩

/-- A visitor comes under pressure, and a guest leaves while the predicate is asked. -/
def latecomer : Visitor := { number := 7, delay := some (Time.ofMillis 8) }

def queue : Configuration VisitPhase ValveHall where
  now := Time.ofMillis 20
  tasks := [.entering latecomer true (.start latecomer), .coming (some (Time.ofMillis 23)) (.exit 5)]
  shared :=
    { valve := { threshold := 1, baseWait := Time.ofMillis 10, jitter := { state := 1 }, inside := 1 }
      guests := [(5, .below)] }

def queueTurn : Turn VisitPhase ValveHall :=
  { phase := .entering latecomer true (.pressed latecomer), shared := queue.shared }

def queueRun : List (Event VisitPhase ValveHall) × Configuration VisitPhase ValveHall :=
  visits.follow (queue.after 0 queueTurn) []
    ([.inl 0, .inl 0, .inr (Time.ofMillis 3), .inl 1, .inl 1, .inr (Time.ofMillis 5)] ++
      List.replicate 6 (.inl 0))

theorem decided_latecomer :
    queue.tasks[0]? = some (.entering latecomer true (.start latecomer)) ∧
      Time.IsWhole queue.now ∧ Time.IsWhole queue.shared.valve.baseWait ∧
      queue.shared.valve.baseWait + queue.shared.valve.baseWait / 2 ≤ Time.longest ∧
      (∀ d ∈ latecomer.delay, Time.IsWhole d) ∧ visits.stepAt queue 0 = some queueTurn ∧
      visits.History (queue.after 0 queueTurn) queueRun.1 queueRun.2 ∧
      visits.Punctual queueRun.1 ∧
      queueRun.2.tasks[0]?.bind HallPhase.result? =
        some (.entered (some .passed), 1, Time.ofMillis 28) ∧
      Decided latecomer true 0 queue queueTurn queueRun.1 queueRun.2 :=
  have hhistory := visits.history_follow (.refl (queue.after 0 queueTurn)) _
  have hpunctual : visits.Punctual queueRun.1 := visits.punctual_of_isPunctual (by decide +kernel)
  have hdelay : ∀ d ∈ latecomer.delay, Time.IsWhole d := by
    intro d hd
    cases hd
    exact ⟨8, rfl⟩
  ⟨rfl, ⟨20, rfl⟩, ⟨10, rfl⟩, by decide, hdelay, rfl, hhistory, hpunctual, by decide +kernel,
    decided_of_history rfl ⟨20, rfl⟩ ⟨10, rfl⟩ (by decide) hdelay rfl hhistory hpunctual⟩

end ValveHall

end PoliteCrawl

import PoliteCrawl.Proofs.Politeness.Raises
import PoliteCrawl.Proofs.Unicode.Ascii

namespace PoliteCrawl

open CallPhase (robotsDiscipline machine)

namespace HostDesk

variable {d : HostDesk} {now : Nat} {calls : List (Option Nat × HostCall)}
  {events : List (Event CallPhase HostDesk)} {start last c : Configuration CallPhase HostDesk}
  {known : List Inquiry} {task record : Nat} {turn : Turn CallPhase HostDesk}
  {outcome : Option Robots}

/-- No call is on a look-up at first. -/
theorem lookupAt?_opening (d : HostDesk) (now : Nat) (calls : List (Option Nat × HostCall))
    (task : Nat) : robotsDiscipline.lookupAt? (d.opening now calls) task = none := by
  rw [RobotsDiscipline.lookupAt?, opening, List.getElem?_map]
  cases calls[task]? with
  | none => rfl
  | some call => rfl

def Settled (c : Configuration CallPhase HostDesk) (record : Nat) (outcome : Option Robots) :
    Prop :=
  c.shared.table.outcome record = some outcome ∨
    ∃ task, LookupMove.stores (robotsDiscipline.lookupAt? c task) record = some outcome

theorem Settled.after (h : Settled c record outcome) (hknown : robotsDiscipline.Holds c known)
    (hstep : machine.stepAt c task = some turn) : Settled (c.after task turn) record outcome := by
  rcases h with houtcome | ⟨other, hstores⟩
  · exact .inl ((hknown.heeds hstep).outcome houtcome)
  · by_cases hother : other = task
    · subst hother
      exact .inl ((RobotsDiscipline.moves hstep).stored (hknown.sure other) hstores)
    · refine .inr ⟨other, ?_⟩
      rw [RobotsDiscipline.lookupAt?_after hstep, if_neg hother]
      exact hstores

theorem Settled.of_after (h : Settled (c.after task turn) record outcome)
    (hknown : robotsDiscipline.Holds c known) (hstep : machine.stepAt c task = some turn) :
    Settled c record outcome ∨ LookupMove.stores turn.phase.lookup? record = some outcome := by
  rcases h with houtcome | ⟨other, hstores⟩
  · rcases (hknown.heeds hstep).outcome_or houtcome with hold | hstores
    · exact .inl (.inl hold)
    · exact .inl (.inr ⟨task, hstores⟩)
  · rw [RobotsDiscipline.lookupAt?_after hstep] at hstores
    split at hstores
    · exact .inr hstores
    · exact .inl (.inr ⟨other, hstores⟩)

/-- What is settled is the answer to a question that was asked about the record. -/
theorem Settled.exists_inquiry (h : Settled c record outcome)
    (hknown : robotsDiscipline.Holds c known) :
    ∃ q ∈ known, q.record = record ∧ q.outcome = outcome := by
  rcases h with houtcome | ⟨task, hstores⟩
  · exact hknown.stored record outcome houtcome
  · obtain ⟨lookup, hlookup, hstored⟩ := Option.bind_eq_some_iff.mp hstores
    apply hknown.pending task record outcome
    rw [RobotsDiscipline.pendingAt?, hlookup]
    exact LookupPhase.pending?_of_stores hstored

def shifts (record : Nat) (a : Act CallPhase HostDesk) : Bool :=
  (a.before.shared.table.interval? record).any fun i =>
    a.turn.shared.table.interval? record ≠ some i

theorem shifts_eq_false {a : Act CallPhase HostDesk} {lift : Nat → Nat}
    (hpaces : a.before.shared.table.Paces lift a.turn.shared.table) (hlift : lift record = 0) :
    shifts record a = false := by
  unfold shifts
  cases hinterval : a.before.shared.table.interval? record with
  | none => rfl
  | some i =>
    rw [Option.any_some, hpaces.kept record i hinterval, hlift, Nat.max_zero]
    simp

theorem countP_shifts_act (events : List (Event CallPhase HostDesk)) (record : Nat)
    (a : Act CallPhase HostDesk) :
    (acts (events ++ [.act a])).countP (shifts record) =
      (acts events).countP (shifts record) + if shifts record a then 1 else 0 := by
  rw [acts_append, acts_act, List.countP_append, List.countP_singleton]

/-- What the intervals are in a configuration, and how often they were changed on the way to it. -/
structure Measured (d : HostDesk) (c : Configuration CallPhase HostDesk)
    (events : List (Event CallPhase HostDesk)) : Prop where
  terms : d.table.SameTerms c.shared.table
  backed : ∀ task, ∀ lookup ∈ robotsDiscipline.lookupAt? c task, lookup.Backed d.table
  settled : ∀ record outcome, Settled c record outcome →
    c.shared.table.interval? record = some (d.table.intervalFor outcome)
  unsettled : ∀ record, (∀ outcome, ¬ Settled c record outcome) →
    (∀ i ∈ c.shared.table.interval? record, i = d.table.minInterval) ∧
      (acts events).countP (shifts record) = 0
  once : ∀ record, (acts events).countP (shifts record) ≤ 1

theorem paces_of_stepAt (hstep : machine.stepAt c task = some turn) :
    c.shared.table.Paces (LookupMove.lift (robotsDiscipline.lookupAt? c task))
      turn.shared.table := by
  obtain ⟨phase, hphase, hturn⟩ := machine.stepAt_eq_some hstep
  rw [RobotsDiscipline.lookupAt?, hphase]
  exact (CallPhase.leads_of_step (CallPhase.step_machine hturn).1).paces

namespace Measured

/-- Whoever comes to an outcome holds the lock of the record, where nothing was settled. -/
theorem fresh (h : Measured d c events) (hknown : robotsDiscipline.Holds c known)
    (hstep : machine.stepAt c task = some turn)
    (hstores : LookupMove.stores turn.phase.lookup? record = some outcome) :
    c.shared.table.Locked task record none ∧ ∀ outcome', ¬ Settled c record outcome' := by
  obtain ⟨hpending, hnone, -⟩ :=
    (RobotsDiscipline.moves hstep).resolves h.terms (h.backed task) hstores
  obtain ⟨lookup, hlookup, hpending⟩ := Option.bind_eq_some_iff.mp hpending
  have hlocked := (hknown.sure task lookup hlookup).pending hpending
  refine ⟨hlocked, ?_⟩
  rintro outcome' (houtcome | ⟨other, hstores'⟩)
  · rw [hlocked.outcome_eq] at houtcome
    cases houtcome
  · -- Another task that is about to store an outcome would hold the lock too.
    obtain ⟨lookup', hlookup', hstored⟩ := Option.bind_eq_some_iff.mp hstores'
    have hlocked' :=
      (hknown.sure other lookup' hlookup').pending (LookupPhase.pending?_of_stores hstored)
    rw [hlocked.unique hlocked', hnone] at hstores'
    cases hstores'

/-- The interval of a record is as it should be once it is settled what came of its file. -/
theorem settled_after (h : Measured d c events) (hknown : robotsDiscipline.Holds c known)
    (hstep : machine.stepAt c task = some turn)
    (hsettled : Settled (c.after task turn) record outcome) :
    turn.shared.table.interval? record = some (d.table.intervalFor outcome) := by
  have hmove := RobotsDiscipline.moves (D := robotsDiscipline) hstep
  have hpaces := paces_of_stepAt hstep
  cases hstores : LookupMove.stores turn.phase.lookup? record with
  | some outcome' =>
    obtain ⟨hlocked, hunsettled⟩ := h.fresh hknown hstep hstores
    rcases hsettled.of_after hknown hstep with hold | hsame
    · exact absurd hold (hunsettled outcome)
    · obtain ⟨-, -, hlift⟩ := hmove.resolves h.terms (h.backed task) hsame
      obtain ⟨i, hinterval⟩ := hlocked.exists_interval
      obtain rfl := (h.unsettled record hunsettled).1 i hinterval
      rw [hpaces.kept record _ hinterval, hlift]
  | none =>
    rcases hsettled.of_after hknown hstep with hold | hnew
    · rw [hpaces.kept record _ (h.settled record outcome hold), hmove.lift_eq_zero hstores,
        Nat.max_zero]
    · rw [hstores] at hnew
      cases hnew

/-- The interval of a record is that of the settings until then. -/
theorem unsettled_after (h : Measured d c events) (hknown : robotsDiscipline.Holds c known)
    (hstep : machine.stepAt c task = some turn)
    (hunsettled : ∀ outcome, ¬ Settled (c.after task turn) record outcome) :
    (∀ i ∈ turn.shared.table.interval? record, i = d.table.minInterval) ∧
      shifts record ⟨c, task, turn⟩ = false ∧ ∀ outcome, ¬ Settled c record outcome := by
  have hpaces := paces_of_stepAt hstep
  have hbefore : ∀ outcome, ¬ Settled c record outcome := fun outcome hsettled =>
    hunsettled outcome (hsettled.after hknown hstep)
  have hstores : LookupMove.stores turn.phase.lookup? record = none := by
    refine Option.eq_none_iff_forall_ne_some.mpr fun outcome hstores => ?_
    refine hunsettled outcome (.inr ⟨task, ?_⟩)
    rw [RobotsDiscipline.lookupAt?_after hstep, if_pos rfl]
    exact hstores
  have hlift := (RobotsDiscipline.moves (D := robotsDiscipline) hstep).lift_eq_zero hstores
  refine ⟨fun i hi => ?_, shifts_eq_false hpaces hlift, hbefore⟩
  cases hinterval : c.shared.table.interval? record with
  | none => rw [hpaces.made record hinterval i hi, h.terms.base]
  | some i' =>
    rw [hpaces.kept record i' hinterval, hlift, Nat.max_zero] at hi
    cases hi
    exact (h.unsettled record hbefore).1 i hinterval

/-- An interval that a step changes was not changed before. -/
theorem countP_of_shifts (h : Measured d c events) (hknown : robotsDiscipline.Holds c known)
    (hstep : machine.stepAt c task = some turn) (hshifts : shifts record ⟨c, task, turn⟩ = true) :
    (acts events).countP (shifts record) = 0 := by
  cases hstores : LookupMove.stores turn.phase.lookup? record with
  | none =>
    have hlift := (RobotsDiscipline.moves (D := robotsDiscipline) hstep).lift_eq_zero hstores
    rw [shifts_eq_false (paces_of_stepAt hstep) hlift] at hshifts
    cases hshifts
  | some outcome => exact (h.unsettled record (h.fresh hknown hstep hstores).2).2

theorem act (h : Measured d c events) (hknown : robotsDiscipline.Holds c known)
    (hstep : machine.stepAt c task = some turn) :
    Measured d (c.after task turn) (events ++ [.act ⟨c, task, turn⟩]) where
  terms := h.terms.trans (paces_of_stepAt hstep).terms
  backed other lookup hlookup := by
    rw [RobotsDiscipline.lookupAt?_after hstep] at hlookup
    split at hlookup
    · exact (RobotsDiscipline.moves hstep).backed h.terms (h.backed task) lookup hlookup
    · exact h.backed other lookup hlookup
  settled record outcome hsettled := h.settled_after hknown hstep hsettled
  unsettled record hunsettled := by
    obtain ⟨hinterval, hshifts, hbefore⟩ := h.unsettled_after hknown hstep hunsettled
    refine ⟨hinterval, ?_⟩
    rw [countP_shifts_act, (h.unsettled record hbefore).2, hshifts]
    rfl
  once record := by
    rw [countP_shifts_act]
    split
    · rename_i hshifts
      rw [h.countP_of_shifts hknown hstep hshifts]
    · exact h.once record

theorem pass (h : Measured d c events) (later : Nat) :
    Measured d { c with now := later } (events ++ [.pass c later]) := by
  have hacts : acts (events ++ [.pass c later]) = acts events := by
    rw [acts_append, acts_pass, List.append_nil]
  refine ⟨h.terms, h.backed, h.settled, ?_, ?_⟩
  · rw [hacts]
    exact h.unsettled
  · rw [hacts]
    exact h.once

theorem opening (hfresh : d.table.Fresh) (now : Nat) (calls : List (Option Nat × HostCall)) :
    Measured d (d.opening now calls) [] := by
  refine ⟨.refl _, ?_, ?_, fun record _ => ⟨?_, rfl⟩, fun _ => Nat.zero_le 1⟩
  · intro task lookup hmem
    rw [lookupAt?_opening] at hmem
    cases hmem
  · rintro record outcome (houtcome | ⟨task, hstores⟩)
    · rw [HostTable.outcome, HostDesk.opening, hfresh.records] at houtcome
      cases houtcome
    · rw [lookupAt?_opening] at hstores
      cases hstores
  · intro i hi
    rw [HostTable.interval?, HostTable.gate?, HostDesk.opening, hfresh.records] at hi
    cases hi

end Measured

theorem measured_of_history (hfresh : d.table.Fresh)
    (h : machine.History (d.opening now calls) events last) : Measured d last events := by
  induction h with
  | refl => exact .opening hfresh now calls
  | act h hstep ih => exact ih.act (known_of_history hfresh h) hstep
  | pass _ _ ih => exact ih.pass _

/-- An interval is never lowered. -/
theorem interval_le_of_mem (h : machine.History start events last) {a : Act CallPhase HostDesk}
    (ha : a ∈ acts events) {i : Nat} (hinterval : a.before.shared.table.interval? record = some i) :
    ∃ i', last.shared.table.interval? record = some i' ∧ i ≤ i' := by
  induction h with
  | refl => cases ha
  | act h hstep ih =>
    have hkept := (paces_of_stepAt hstep).kept record
    rw [acts_append, List.mem_append, acts_act, List.mem_singleton] at ha
    rcases ha with ha | rfl
    · obtain ⟨i', hinterval', hle⟩ := ih ha
      exact ⟨_, hkept i' hinterval', Nat.le_trans hle (Nat.le_max_left _ _)⟩
    · exact ⟨_, hkept i hinterval, Nat.le_max_left _ _⟩
  | pass _ _ ih =>
    rw [acts_append, acts_pass, List.append_nil] at ha
    exact ih ha

structure Returns (a : Act CallPhase HostDesk) (record : Nat) (outcome : Option Robots) : Prop where
  before : (robotsDiscipline.lookupAt? a.before a.task).bind (·.record?) = some record
  after : a.turn.phase.lookup? = some (.finished outcome)

theorem Returns.outcome_eq {a : Act CallPhase HostDesk} (h : Returns a record outcome)
    (hknown : robotsDiscipline.Holds a.before known)
    (hstep : machine.stepAt a.before a.task = some a.turn) :
    a.before.shared.table.outcome record = some outcome := by
  obtain ⟨lookup, hlookup, hrecord⟩ := Option.bind_eq_some_iff.mp h.before
  have hmove := RobotsDiscipline.moves (D := robotsDiscipline) hstep
  have hsure := hknown.sure a.task lookup hlookup
  rw [hlookup] at hmove
  exact hmove.returned hsure hrecord h.after

/-- A look-up that is over has returned what was known of a record. -/
theorem exists_returns (hfresh : d.table.Fresh)
    (h : machine.History (d.opening now calls) events last)
    (hlookup : robotsDiscipline.lookupAt? last task = some (.finished outcome)) :
    ∃ a ∈ acts events, a.task = task ∧ ∃ record, Returns a record outcome := by
  -- on the run: the step by which the look-up came to its end is among those so far, or the last
  induction h with
  | refl =>
    rw [lookupAt?_opening] at hlookup
    cases hlookup
  | @act c events other turn h hstep ih =>
    rw [acts_append, acts_act]
    rw [RobotsDiscipline.lookupAt?_after hstep] at hlookup
    split at hlookup
    · rename_i heq
      subst heq
      have hsure := (known_of_history hfresh h).sure task
      rcases (RobotsDiscipline.moves hstep).returns hsure hlookup with hold | ⟨record, hrecord⟩
      · obtain ⟨a, ha, hreturns⟩ := ih hold
        exact ⟨a, List.mem_append_left _ ha, hreturns⟩
      · have hself := List.mem_append_right (acts events)
          (List.mem_singleton_self (⟨c, task, turn⟩ : Act CallPhase HostDesk))
        exact ⟨_, hself, rfl, record, hrecord, hlookup⟩
    · obtain ⟨a, ha, hreturns⟩ := ih hlookup
      exact ⟨a, List.mem_append_left _ ha, hreturns⟩
  | pass _ _ ih =>
    rw [acts_append, acts_pass, List.append_nil]
    exact ih hlookup

/-- A call for a robots file ends with one. -/
theorem exists_file_of_finished (hfresh : d.table.Fresh)
    (h : machine.History (d.opening now calls) events last) {due : Option Nat} {host : String}
    {answer : HostAnswer} {time : Nat} (hcall : calls[task]? = some (due, .robots host))
    (hphase : last.tasks[task]? = some (.finished answer time)) :
    ∃ file, answer = .robots file ∧
      robotsDiscipline.lookupAt? last task = some (.finished file) := by
  obtain ⟨due', call, hcall', hof⟩ := (trail_of_history hfresh h).of task _ hphase
  rw [hcall] at hcall'
  cases hcall'
  cases answer with
  | robots file =>
    refine ⟨file, rfl, ?_⟩
    rw [RobotsDiscipline.lookupAt?, hphase]
    rfl
  | _ => cases hof

/-- How the intervals of gates come out in a run of calls. -/
structure Paced (d : HostDesk) (calls : List (Option Nat × HostCall))
    (events : List (Event CallPhase HostDesk)) (last : Configuration CallPhase HostDesk) :
    Prop where
  valued : ∀ record i, last.shared.table.interval? record = some i → i = d.table.minInterval ∨
    ∃ q ∈ inquiries events, ∃ file delay, q.record = record ∧ q.answer = .ok (some file) ∧
      file.crawlDelay? d.table.agent = some delay ∧ d.table.maxCrawlDelay ≠ 0 ∧
        i = max d.table.minInterval (min delay d.table.maxCrawlDelay)
  bounded : ∀ record i, last.shared.table.interval? record = some i →
    d.table.minInterval ≤ i ∧ i ≤ max d.table.minInterval d.table.maxCrawlDelay
  rising : ∀ a ∈ acts events, ∀ record i, a.before.shared.table.interval? record = some i →
    ∃ i', last.shared.table.interval? record = some i' ∧ i ≤ i'
  once : ∀ record, (acts events).countP (shifts record) ≤ 1
  known : ∀ record outcome, last.shared.table.outcome record = some outcome →
    last.shared.table.interval? record = some (d.table.intervalFor outcome)
  returns : ∀ a ∈ acts events, ∀ record outcome, Returns a record outcome →
    a.before.shared.table.interval? record = some (d.table.intervalFor outcome) ∧
      last.shared.table.interval? record = some (d.table.intervalFor outcome)
  returned : ∀ task due host answer time, calls[task]? = some (due, .robots host) →
    last.tasks[task]? = some (.finished answer time) →
      ∃ a ∈ acts events, a.task = task ∧ ∃ record file, answer = .robots file ∧
        Returns a record file

/-- An interval is that of the settings, or what it is for an outcome that is settled. -/
theorem Measured.interval_eq (h : Measured d c events) {i : Nat}
    (hinterval : c.shared.table.interval? record = some i) :
    i = d.table.minInterval ∨ ∃ outcome, Settled c record outcome ∧
      i = d.table.intervalFor outcome := by
  by_cases hsettled : ∃ outcome, Settled c record outcome
  · obtain ⟨outcome, hsettled⟩ := hsettled
    rw [h.settled record outcome hsettled] at hinterval
    exact .inr ⟨outcome, hsettled, (Option.some.inj hinterval).symm⟩
  · rw [not_exists] at hsettled
    exact .inl ((h.unsettled record hsettled).1 i hinterval)

theorem paced_of_history (hfresh : d.table.Fresh)
    (h : machine.History (d.opening now calls) events last) : Paced d calls events last := by
  have hmeasured := measured_of_history hfresh h
  have hopening := known_opening hfresh now calls
  refine ⟨?_, ?_, fun a ha record i => interval_le_of_mem h ha, hmeasured.once, ?_, ?_, ?_⟩
  · intro record i hinterval
    rcases hmeasured.interval_eq hinterval with hbase | ⟨outcome, hsettled, rfl⟩
    · exact .inl hbase
    · rcases d.table.intervalFor_eq outcome with hbase | ⟨file, delay, rfl, hdelay, hcap, hraised⟩
      · exact .inl hbase
      · obtain ⟨q, hq, hrecord, houtcome⟩ := hsettled.exists_inquiry (known_of_history hfresh h)
        refine .inr ⟨q, hq, file, delay, hrecord, ?_, hdelay, hcap, hraised⟩
        exact LookupPhase.eq_ok_of_outcomeOf houtcome
  · intro record i hinterval
    rcases hmeasured.interval_eq hinterval with rfl | ⟨outcome, -, rfl⟩
    · exact ⟨Nat.le_refl _, Nat.le_max_left _ _⟩
    · exact ⟨d.table.le_intervalFor outcome, d.table.intervalFor_le outcome⟩
  · intro record outcome houtcome
    exact hmeasured.settled record outcome (.inl houtcome)
  · intro a ha record outcome hreturns
    obtain ⟨_, hearlier, hstep⟩ := h.before_of_mem ha
    have hknown := hreturns.outcome_eq (known_of_history hfresh hearlier) hstep
    refine ⟨(measured_of_history hfresh hearlier).settled record outcome (.inl hknown), ?_⟩
    -- What is known of a record stays known.
    obtain ⟨r, hget, houtcome⟩ := Option.bind_eq_some_iff.mp hknown
    obtain ⟨r', hget', hgoes⟩ := hopening.forward h ha hget
    refine hmeasured.settled record outcome (.inl ?_)
    exact Option.bind_eq_some_iff.mpr ⟨r', hget', hgoes.outcome outcome houtcome⟩
  · intro task due host answer time hcall hphase
    obtain ⟨file, rfl, hlookup⟩ := exists_file_of_finished hfresh h hcall hphase
    obtain ⟨a, ha, htask, record, hreturns⟩ := exists_returns hfresh h hlookup
    exact ⟨a, ha, htask, record, file, rfl, hreturns⟩

def slowFile : Robots := ⟨"User-agent: *\nCrawl-delay: 3"⟩

/-- A table of one host with that file, of whose wish two seconds count. -/
def slowed : HostDesk where
  table := {
    minInterval := 8
    maxCrawlDelay := Time.ofSeconds 2
    service := fun _ _ => { answer := .ok (some slowFile) }
    jitter := .seeded 0
    cache := .empty 1 }

namespace Slowed

open Robots in
theorem crawlDelay?_slowFile : slowFile.crawlDelay? "*" = some (Time.ofSeconds 3) := by
  have hagent : Unicode.lower (String.ofList "User-agent".toList) = "user-agent" :=
    (Unicode.lower_of_all (by decide)).trans (by decide)
  have hdelay : Unicode.lower (String.ofList "Crawl-delay".toList) = "crawl-delay" :=
    (Unicode.lower_of_all (by decide)).trans (by decide)
  have heveryone : Unicode.lower "*" = "*" := (Unicode.lower_of_all (by decide)).trans (by decide)
  have hlines : slowFile.keyedLines =
      [⟨Unicode.lower (String.ofList "User-agent".toList), "*"⟩,
        ⟨Unicode.lower (String.ofList "Crawl-delay".toList), "3"⟩] := rfl
  have hread : readDelay? "3" = some (Time.ofSeconds 3) := by decide +kernel
  rw [crawlDelay?, hlines, hagent, hdelay, heveryone]
  simp [DelaySearch.step, heveryone, hread]

def table (cache : LruCache String Nat) (records : List HostRecord)
    (asked : List (Nat × String)) : HostTable :=
  { slowed.table with cache, records, asked }

def hostRecord (minInterval : Nat) (robotsLock : Lock) (outcome : Option (Option Robots)) :
    HostRecord :=
  { slowed.table.fresh "a" with gate := { minInterval }, robotsLock, outcome }

def note : Nat × String := (0, (slowed.table.fresh "a").host)

theorem asks (cache : LruCache String Nat) :
    ∃ events, machine.History
      (config 0 [.looking (.found 0)] (table cache [slowed.table.fresh "a"] [])) events
      (config 0 [.looking (.awaiting 0 (some slowFile) (some 0))]
        (table cache [hostRecord 8 { holder := some 0 } none] [note])) :=
  ⟨_, machine.history_follow (.refl _) (List.replicate 4 (.inl 0))⟩

theorem wishes (cache : LruCache String Nat) (records : List HostRecord) :
    ∃ events, machine.History
      (config 0 [.looking (.awaiting 0 (some slowFile) (some 0))]
        (table cache records [note])) events
      (config 0 [.looking (.atGate 0 (some slowFile) (Time.ofSeconds 2))]
        (table cache records [note])) := by
  have hwish : LookupPhase.wishedInterval? (table cache records [note]) (some slowFile) =
      some (Time.ofSeconds 2) := by
    have hcap : (table cache records [note]).maxCrawlDelay = Time.ofSeconds 2 := rfl
    have hagent : (table cache records [note]).agent = "*" := rfl
    have hpos : Time.ofSeconds 2 ≠ 0 := by decide
    have hleast : min (Time.ofSeconds 3) (Time.ofSeconds 2) = Time.ofSeconds 2 := by decide
    rw [LookupPhase.wishedInterval?, hcap, hagent, if_neg hpos, Option.bind_some,
      crawlDelay?_slowFile, Option.map_some, hleast]
  have hstep : machine.stepAt
      (config 0 [.looking (.awaiting 0 (some slowFile) (some 0))]
        (table cache records [note])) 0 =
      some { phase := .looking (.atGate 0 (some slowFile) (Time.ofSeconds 2))
             shared := { table := table cache records [note] } } := by
    simp [Machine.stepAt, config, machine, CallPhase.step, LookupPhase.step, hwish,
      Progress.within]
  have hhistory := (Machine.History.refl _).act hstep
  rw [Configuration.after, List.append_nil] at hhistory
  exact ⟨_, hhistory⟩

theorem returns (cache : LruCache String Nat) :
    ∃ events, machine.History
      (config 0 [.looking (.atGate 0 (some slowFile) (Time.ofSeconds 2))]
        (table cache [hostRecord 8 { holder := some 0 } none] [note])) events
      (config 0 [.finished (.robots (some slowFile)) 0]
        (table cache [hostRecord (Time.ofSeconds 2) {} (some (some slowFile))] [note])) :=
  ⟨_, machine.history_follow (.refl _) (List.replicate 6 (.inl 0))⟩

theorem history : ∃ events cache,
    machine.History (slowed.opening 0 [(none, .robots "a")]) events
      (config 0 [.finished (.robots (some slowFile)) 0]
        (table cache [hostRecord (Time.ofSeconds 2) {} (some (some slowFile))] [note])) := by
  have hpeek : slowed.table.cache.peek (HostTable.keyOf "a") = none := Std.HashMap.getElem?_empty
  let cache := (slowed.table.cache.getOrCreate (HostTable.keyOf "a") 0).2
  have hmade : (table slowed.table.cache [] []).find "a" =
      (0, table cache [slowed.table.fresh "a"] []) := HostTable.find_of_none hpeek
  have hcomes : machine.History (slowed.opening 0 [(none, .robots "a")]) _
      (config 0 [.looking (.start "a")] (table slowed.table.cache [] [])) :=
    machine.history_follow (.refl _) [.inl 0]
  obtain ⟨_, hfinds⟩ := Finds.lookUp.history [.looking (.start "a")] 0 rfl hmade
  obtain ⟨_, hasks⟩ := asks cache
  obtain ⟨_, hwishes⟩ := wishes cache [hostRecord 8 { holder := some 0 } none]
  obtain ⟨_, hreturns⟩ := returns cache
  exact ⟨_, cache, (((hcomes.trans hfinds).trans hasks).trans hwishes).trans hreturns⟩

end Slowed

/-- A file that asks for three seconds raises the interval of its host to the two that count. -/
theorem paced_slowed : ∃ events last, slowed.table.Fresh ∧
    machine.History (slowed.opening 0 [(none, .robots "a")]) events last ∧
      last.tasks = [.finished (.robots (some slowFile)) 0] ∧
        last.shared.table.interval? 0 = some (Time.ofSeconds 2) ∧
          Paced slowed [(none, .robots "a")] events last := by
  obtain ⟨events, cache, h⟩ := Slowed.history
  have hfresh : slowed.table.Fresh := ⟨rfl, fun _ => Std.HashMap.getElem?_empty⟩
  exact ⟨events, _, hfresh, h, rfl, rfl, paced_of_history hfresh h⟩

end HostDesk

end PoliteCrawl

import PoliteCrawl.Proofs.Politeness.Inquiries
import PoliteCrawl.Proofs.Politeness.Spacing

namespace PoliteCrawl

def HostCall.asksFor? : HostCall → Option String
  | .robots host => some (HostTable.keyOf host)
  | _ => none

theorem HostCall.names?_of_asksFor? {call : HostCall} {key : String}
    (h : call.asksFor? = some key) : call.names? = some key := by
  cases call with
  | robots => exact h
  | _ => cases h

namespace LookupMove

variable {now task : Nat} {t t' : HostTable} {lookup? lookup?' : Option LookupPhase}
  {lookup : LookupPhase}

/-- A look-up goes on with its record until it returns what is known of it. -/
theorem record {record : Nat} (h : LookupMove now task t t' (some lookup) lookup?')
    (hsure : lookup.Sure task t) (hrecord : lookup.record? = some record) :
    ∃ lookup', lookup?' = some lookup' ∧ (lookup'.record? = some record ∨
      ∃ outcome, lookup' = .finished outcome ∧ t'.outcome record = some outcome) := by
  cases h with
  | looks h ht =>
    subst ht
    exact ⟨_, rfl, (LookupPhase.leads_of_step h).record hsure hrecord⟩
  | keeps | ends => cases hrecord

end LookupMove

namespace CallPhase

def lookup? : CallPhase → Option LookupPhase
  | looking lookup => some lookup
  | answering (.robots file) | finished (.robots file) _ => some (.finished file)
  | _ => none

def Of (call : HostCall) : CallPhase → Prop
  | coming _ call' => call' = call
  | phase => phase.lookup?.isSome = call.asksFor?.isSome

variable {now task : Nat} {phase phase' : CallPhase} {d d' : HostDesk} {call : HostCall}

theorem begin_lookup (now task : Nat) (d : HostDesk) (call : HostCall) :
    LookupMove now task d.table (begin now d call).2.table none (begin now d call).1.lookup? ∧
      (begin now d call).1.Of call := by
  unfold begin
  cases call with
  | view host | status host | keep host | holdGate host =>
    exact ⟨.idles (d.table.heeds_find task host), rfl⟩
  | robots host => exact ⟨.begins host (d.table.heeds_refl task), rfl⟩
  | wait | enter | rest => exact ⟨.idles (d.table.heeds_refl task), rfl⟩
  | contains host => exact ⟨.idles (d.table.heeds_refl task), rfl⟩
  | viewKept name =>
    dsimp only
    split <;> exact ⟨.idles (d.table.heeds_refl task), rfl⟩

/-- What a step of a call does about look-ups. -/
theorem Leads.lookup (h : Leads now task d phase phase' d') :
    LookupMove now task d.table d'.table phase.lookup? phase'.lookup? := by
  cases h with
  | begins due call => exact (begin_lookup now task d call).1
  | locks | queues => exact .idles (d.table.heeds_requestGate task _)
  | reports => exact .idles (d.table.heeds_leaveGate task _)
  | views | loosens => exact .idles (d.table.heeds_releaseGate task _)
  | looks hnext => exact .looks hnext rfl
  | found outcome => exact .keeps outcome (d.table.heeds_refl task)
  | waits hleads | enters hleads => exact .idles hleads.heeds
  | @cutsOff wait => exact .idles (WaitPhase.heeds_cancel task wait d.table)
  | tells answer =>
    cases answer with
    | robots file => exact .keeps file (d.table.heeds_refl task)
    | _ => exact .idles (d.table.heeds_refl task)
  | served | grips | decided | entered | rests => exact .idles (d.table.heeds_refl task)

theorem Leads.of (h : Leads now task d phase phase' d') (hof : phase.Of call) :
    phase'.Of call := by
  cases h with
  | begins due call' =>
    cases hof
    exact (begin_lookup now task d _).2
  | tells answer => cases answer <;> exact hof
  | _ => exact hof

/-- A call that has begun to look up a robots file does nothing else. -/
theorem Leads.isSome_lookup? (h : Leads now task d phase phase' d')
    (hlookup : phase.lookup?.isSome = true) : phase'.lookup?.isSome = true := by
  cases h with
  | looks | found => rfl
  | tells answer => cases answer <;> exact hlookup
  | _ => cases hlookup

def robotsDiscipline : RobotsDiscipline machine HostDesk.table where
  lookup? := lookup?
  step h := (leads_of_step (step_machine h).1).lookup
  spawned := by
    intro now task phase d turn hstep phase' hmem
    rw [(step_machine hstep).2] at hmem
    cases hmem

end CallPhase

namespace HostDesk

variable {d : HostDesk} {now : Nat} {events : List (Event CallPhase HostDesk)}
  {last c : Configuration CallPhase HostDesk} {task : Nat} {turn : Turn CallPhase HostDesk}

def inquiries (events : List (Event CallPhase HostDesk)) : List Inquiry :=
  CallPhase.robotsDiscipline.inquiries events

def Uses (events : List (Event CallPhase HostDesk)) (task record : Nat) : Prop :=
  ∃ a ∈ acts events, a.task = task ∧ a.turn.phase.lookup?.bind (·.record?) = some record

theorem uses_act {a : Act CallPhase HostDesk} {record : Nat} :
    Uses (events ++ [.act a]) task record ↔ Uses events task record ∨
      a.task = task ∧ a.turn.phase.lookup?.bind (·.record?) = some record := by
  simp only [Uses, acts_append, acts_act, List.mem_append, List.mem_singleton]
  constructor
  · rintro ⟨b, hb | rfl, htask, hrecord⟩
    · exact .inl ⟨b, hb, htask, hrecord⟩
    · exact .inr ⟨htask, hrecord⟩
  · rintro (⟨b, hb, htask, hrecord⟩ | ⟨htask, hrecord⟩)
    · exact ⟨b, .inl hb, htask, hrecord⟩
    · exact ⟨a, .inr rfl, htask, hrecord⟩

theorem uses_pass {later record : Nat} :
    Uses (events ++ [.pass c later]) task record ↔ Uses events task record := by
  simp only [Uses, acts_append, acts_pass, List.append_nil]

/-- The records that calls use are of the hosts that they name, and each call that is done with its
record returned what is known of it. -/
structure Trail (calls : List (Option Nat × HostCall)) (c : Configuration CallPhase HostDesk)
    (events : List (Event CallPhase HostDesk)) : Prop where
  of : ∀ (task : Nat) (phase : CallPhase), c.tasks[task]? = some phase →
    ∃ (due : Option Nat) (call : HostCall), calls[task]? = some (due, call) ∧ phase.Of call
  hosts : ∀ task record, Uses events task record →
    ∃ (due : Option Nat) (call : HostCall) (key : String), calls[task]? = some (due, call) ∧
      call.asksFor? = some key ∧ c.shared.table.hostAt? record = some key
  uses : ∀ task record, Uses events task record →
    ∃ lookup, CallPhase.robotsDiscipline.lookupAt? c task = some lookup ∧
      (lookup.record? = some record ∨
        ∃ outcome, lookup = .finished outcome ∧ c.shared.table.outcome record = some outcome)
  used : ∀ task lookup, CallPhase.robotsDiscipline.lookupAt? c task = some lookup →
    (∃ host, lookup = .start host) ∨ ∃ record, Uses events task record

theorem Trail.of_after {calls : List (Option Nat × HostCall)} (h : Trail calls c events)
    (hstep : CallPhase.machine.stepAt c task = some turn) {other : Nat} {phase : CallPhase}
    (hphase : (c.after task turn).tasks[other]? = some phase) :
    ∃ due call, calls[other]? = some (due, call) ∧ phase.Of call := by
  obtain ⟨before, hbefore, hturn⟩ := CallPhase.machine.stepAt_eq_some hstep
  obtain ⟨hprogress, hspawned⟩ := CallPhase.step_machine hturn
  rcases Configuration.tasks_after hphase with ⟨rfl, rfl⟩ | ⟨-, hsame⟩ | ⟨-, hmem⟩
  · obtain ⟨due, call, hcall, hof⟩ := h.of other before hbefore
    exact ⟨due, call, hcall, (CallPhase.leads_of_step hprogress).of hof⟩
  · exact h.of other phase hsame
  · rw [hspawned] at hmem
    cases hmem

/-- The record that a look-up is on is that of the host that the call names. -/
theorem Trail.host_after {calls : List (Option Nat × HostCall)} (h : Trail calls c events)
    (hholds : (CallPhase.discipline calls).Holds (c.after task turn))
    (hstep : CallPhase.machine.stepAt c task = some turn) {record : Nat}
    (hrecord : turn.phase.lookup?.bind (·.record?) = some record) :
    ∃ due call key, calls[task]? = some (due, call) ∧ call.asksFor? = some key ∧
      turn.shared.table.hostAt? record = some key := by
  obtain ⟨before, hbefore, -⟩ := CallPhase.machine.stepAt_eq_some hstep
  have hself : (c.after task turn).tasks[task]? = some turn.phase :=
    Configuration.tasks_after_self hbefore
  obtain ⟨due, call, hcall, hof⟩ := h.of_after hstep hself
  obtain ⟨due', call', hcall', hsound⟩ := hholds.tasks task turn.phase hself
  rw [hcall] at hcall'
  cases hcall'
  cases hphase : turn.phase with
  | looking lookup =>
    rw [hphase] at hof hsound hrecord
    obtain ⟨-, key, hkey, hlookup⟩ := hsound
    obtain ⟨key', hkey'⟩ := Option.isSome_iff_exists.mp hof.symm
    have hsame := HostCall.names?_of_asksFor? hkey'
    rw [hkey] at hsame
    cases hsame
    exact ⟨due, call, key, hcall, hkey', hlookup.record hrecord⟩
  | answering answer =>
    rw [hphase] at hrecord
    cases answer <;> cases hrecord
  | finished answer time =>
    rw [hphase] at hrecord
    cases answer <;> cases hrecord
  | _ =>
    rw [hphase] at hrecord
    cases hrecord

/-- A call goes on with the record that it uses, or has returned what is known of it. -/
theorem Trail.uses_after {calls : List (Option Nat × HostCall)} {known : List Inquiry}
    (h : Trail calls c events) (hknown : CallPhase.robotsDiscipline.Holds c known)
    (hstep : CallPhase.machine.stepAt c task = some turn) {record : Nat}
    (huses : Uses events task record) :
    ∃ lookup, turn.phase.lookup? = some lookup ∧ (lookup.record? = some record ∨
      ∃ outcome, lookup = .finished outcome ∧ turn.shared.table.outcome record = some outcome) := by
  obtain ⟨before, hbefore, hturn⟩ := CallPhase.machine.stepAt_eq_some hstep
  have hmove := RobotsDiscipline.moves (D := CallPhase.robotsDiscipline) hstep
  have hheeds := hknown.heeds hstep
  obtain ⟨lookup, hlookup, hrecord | ⟨outcome, rfl, houtcome⟩⟩ := h.uses task record huses
  · rw [hlookup] at hmove
    exact hmove.record (hknown.sure task lookup hlookup) hrecord
  -- a look-up that is over stays with its call up to the answer
  · have hstays : turn.phase.lookup?.isSome = true := by
      apply (CallPhase.leads_of_step (CallPhase.step_machine hturn).1).isSome_lookup?
      rw [RobotsDiscipline.lookupAt?, hbefore] at hlookup
      rw [show before.lookup? = some (.finished outcome) from hlookup]
      rfl
    rw [hlookup] at hmove
    change LookupMove c.now task c.shared.table turn.shared.table (some (.finished outcome))
      turn.phase.lookup? at hmove
    generalize turn.phase.lookup? = lookup? at hmove hstays
    cases hmove with
    | looks hnext => cases hnext
    | keeps => exact ⟨_, rfl, .inr ⟨outcome, rfl, hheeds.outcome houtcome⟩⟩
    | ends => cases hstays

/-- A look-up that a step goes on with has found a record. -/
theorem Trail.used_after {calls : List (Option Nat × HostCall)} (h : Trail calls c events)
    (hstep : CallPhase.machine.stepAt c task = some turn) {lookup : LookupPhase}
    (hlookup : turn.phase.lookup? = some lookup) :
    (∃ host, lookup = .start host) ∨
      ∃ record, Uses (events ++ [.act ⟨c, task, turn⟩]) task record := by
  have hmove := RobotsDiscipline.moves (D := CallPhase.robotsDiscipline) hstep
  have hold : ∀ before, CallPhase.robotsDiscipline.lookupAt? c task = some before →
      (∀ host, before ≠ .start host) →
        ∃ record, Uses (events ++ [.act ⟨c, task, turn⟩]) task record := by
    intro before hbefore hstarted
    rcases h.used task before hbefore with ⟨host, heq⟩ | ⟨record, huses⟩
    · exact absurd heq (hstarted host)
    · exact ⟨record, uses_act.mpr (.inl huses)⟩
  change LookupMove c.now task c.shared.table turn.shared.table _ turn.phase.lookup? at hmove
  generalize hlookup? : CallPhase.robotsDiscipline.lookupAt? c task = lookup? at hmove hold
  rw [hlookup] at hmove
  cases hmove with
  | looks hnext =>
    rcases (LookupPhase.leads_of_step hnext).found with ⟨record, hrecord⟩ |
      ⟨outcome, record, -, hrecord⟩
    · refine .inr ⟨record, uses_act.mpr (.inr ⟨rfl, ?_⟩)⟩
      show turn.phase.lookup?.bind (·.record?) = some record
      rw [hlookup]
      exact hrecord
    · refine .inr (hold _ rfl ?_)
      rintro host rfl
      cases hrecord
  | begins host => exact .inl ⟨host, rfl⟩
  | keeps outcome =>
    refine .inr (hold _ rfl ?_)
    rintro host ⟨⟩

theorem Trail.act {calls : List (Option Nat × HostCall)} {known : List Inquiry}
    (h : Trail calls c events) (hholds : (CallPhase.discipline calls).Holds c)
    (hknown : CallPhase.robotsDiscipline.Holds c known)
    (hstep : CallPhase.machine.stepAt c task = some turn) :
    Trail calls (c.after task turn) (events ++ [.act ⟨c, task, turn⟩]) := by
  have hheeds := hknown.heeds hstep
  -- for the task that took the step this follows from the step, for all others from before
  refine ⟨fun other phase hphase => h.of_after hstep hphase, ?_, ?_, ?_⟩
  · intro other record huses
    rcases uses_act.mp huses with hold | ⟨rfl, hrecord⟩
    · obtain ⟨due, call, key, hcall, hkey, hhost⟩ := h.hosts other record hold
      exact ⟨due, call, key, hcall, hkey, hheeds.hosts _ _ hhost⟩
    · exact h.host_after (hholds.act hstep) hstep hrecord
  · intro other record huses
    rw [RobotsDiscipline.lookupAt?_after hstep]
    by_cases hother : other = task
    · subst hother
      rw [if_pos rfl]
      rcases uses_act.mp huses with hold | ⟨-, hrecord⟩
      · exact h.uses_after hknown hstep hold
      · obtain ⟨lookup, hlookup, hrecord⟩ := Option.bind_eq_some_iff.mp hrecord
        exact ⟨lookup, hlookup, .inl hrecord⟩
    · rw [if_neg hother]
      rcases uses_act.mp huses with hold | ⟨heq, -⟩
      · obtain ⟨lookup, hlookup, hrecord | ⟨outcome, rfl, houtcome⟩⟩ := h.uses other record hold
        · exact ⟨lookup, hlookup, .inl hrecord⟩
        · exact ⟨_, hlookup, .inr ⟨outcome, rfl, hheeds.outcome houtcome⟩⟩
      · exact absurd heq.symm hother
  · intro other lookup hlookup
    rw [RobotsDiscipline.lookupAt?_after hstep] at hlookup
    by_cases hother : other = task
    · subst hother
      rw [if_pos rfl] at hlookup
      exact h.used_after hstep hlookup
    · rw [if_neg hother] at hlookup
      rcases h.used other lookup hlookup with hstart | ⟨record, huses⟩
      · exact .inl hstart
      · exact .inr ⟨record, uses_act.mpr (.inl huses)⟩

variable {calls : List (Option Nat × HostCall)}

theorem known_opening (hfresh : d.table.Fresh) (now : Nat) (calls : List (Option Nat × HostCall)) :
    CallPhase.robotsDiscipline.Holds (d.opening now calls) [] := by
  apply RobotsDiscipline.Holds.of_fresh hfresh
  intro phase hphase
  obtain ⟨⟨due, call⟩, -, rfl⟩ := List.mem_map.mp hphase
  rfl

theorem known_of_history (hfresh : d.table.Fresh)
    (h : CallPhase.machine.History (d.opening now calls) events last) :
    CallPhase.robotsDiscipline.Holds last (inquiries events) :=
  (known_opening hfresh now calls).history h

theorem trail_opening (d : HostDesk) (now : Nat) (calls : List (Option Nat × HostCall)) :
    Trail calls (d.opening now calls) [] := by
  have hphases : ∀ (task : Nat) (phase : CallPhase), (d.opening now calls).tasks[task]? = some phase →
      ∃ due call, calls[task]? = some (due, call) ∧ phase = CallPhase.coming due call := by
    intro task phase hphase
    rw [opening, List.getElem?_map] at hphase
    obtain ⟨⟨due, call⟩, hcall, rfl⟩ := Option.map_eq_some_iff.mp hphase
    exact ⟨due, call, hcall, rfl⟩
  refine ⟨?_, ?_, ?_, ?_⟩
  · intro task phase hphase
    obtain ⟨due, call, hcall, rfl⟩ := hphases task phase hphase
    exact ⟨due, call, hcall, rfl⟩
  · rintro task record ⟨a, ha, -⟩
    cases ha
  · rintro task record ⟨a, ha, -⟩
    cases ha
  · intro task lookup hlookup
    obtain ⟨phase, hphase, hlookup⟩ := Option.bind_eq_some_iff.mp hlookup
    obtain ⟨due, call, -, rfl⟩ := hphases task phase hphase
    cases hlookup

theorem trail_of_history (hfresh : d.table.Fresh)
    (h : CallPhase.machine.History (d.opening now calls) events last) :
    Trail calls last events := by
  induction h with
  | refl => exact trail_opening d now calls
  | act h hstep ih =>
    exact ih.act ((holds_opening hfresh now calls).history h) (known_of_history hfresh h) hstep
  | pass _ _ ih =>
    refine ⟨ih.of, fun task record huses => ?_, fun task record huses => ?_,
      fun task lookup hlookup => ?_⟩
    · exact ih.hosts task record (uses_pass.mp huses)
    · exact ih.uses task record (uses_pass.mp huses)
    · rcases ih.used task lookup hlookup with hstart | ⟨record, huses⟩
      · exact .inl hstart
      · exact .inr ⟨record, uses_pass.mpr huses⟩

/-- What is stored of an answer: the file that there is, or that there is none, and for an error
none either. -/
inductive Stored : Except CrawlError (Option Robots) → Option Robots → Prop where
  | file (file : Option Robots) : Stored (.ok file) file
  | error (error : CrawlError) : Stored (.error error) none

/-- What the look-ups of robots files come to in a run of calls. -/
structure SingleFlight (d : HostDesk) (calls : List (Option Nat × HostCall))
    (events : List (Event CallPhase HostDesk)) (last : Configuration CallPhase HostDesk) :
    Prop where
  asked : last.shared.table.asked = d.table.asked ++ (inquiries events).map Inquiry.note
  hosts : ∀ q ∈ inquiries events, last.shared.table.hostAt? q.record = some q.host
  once : ((inquiries events).map (·.record)).Nodup
  onceWhileKept : ∀ host, Keeps host events →
    (inquiries events).countP (·.host = HostTable.keyOf host) ≤ 1
  stored : ∀ record outcome, last.shared.table.outcome record = some outcome →
    ∃ q ∈ inquiries events, q.record = record ∧ Stored q.answer outcome
  returned : ∀ task due host answer time, calls[task]? = some (due, .robots host) →
    last.tasks[task]? = some (.finished answer time) → (∃ record, Uses events task record) ∧
      ∀ record, Uses events task record →
        last.shared.table.hostAt? record = some (HostTable.keyOf host) ∧
          ∃ file, answer = .robots file ∧ last.shared.table.outcome record = some file
  forward : ∀ a ∈ acts events, ∀ (record : Nat) (r : HostRecord),
    a.before.shared.table.records[record]? = some r →
      ∃ r', last.shared.table.records[record]? = some r' ∧ r.GoesOn r'

/-- A host whose record is kept is asked for its robots file once. -/
theorem countP_inquiries_le (hfresh : d.table.Fresh)
    (h : CallPhase.machine.History (d.opening now calls) events last) {host : String}
    (hkeeps : Keeps host events) :
    (inquiries events).countP (·.host = HostTable.keyOf host) ≤ 1 := by
  have hknown := known_of_history hfresh h
  have hkept := (credited_of_history hfresh h hkeeps).keeps
  -- All questions for the host are about the record that is kept, and no two about one record.
  have hsame : ∀ q ∈ (inquiries events).filter (·.host = HostTable.keyOf host),
      ∀ q' ∈ (inquiries events).filter (·.host = HostTable.keyOf host), q.record = q'.record := by
    intro q hq q' hq'
    obtain ⟨hmem, hhost⟩ := List.mem_filter.mp hq
    obtain ⟨hmem', hhost'⟩ := List.mem_filter.mp hq'
    have hrecord := hknown.hosts q hmem
    have hrecord' := hknown.hosts q' hmem'
    rw [of_decide_eq_true hhost] at hrecord
    rw [of_decide_eq_true hhost'] at hrecord'
    have hpeek := hkept _ hrecord
    rw [hkept _ hrecord'] at hpeek
    exact (Option.some.inj hpeek).symm
  have hnodup : (((inquiries events).filter (·.host = HostTable.keyOf host)).map
      (·.record)).Nodup :=
    hknown.once.sublist (List.filter_sublist.map _)
  rw [List.countP_eq_length_filter]
  cases hlist : (inquiries events).filter (·.host = HostTable.keyOf host) with
  | nil => exact Nat.zero_le 1
  | cons q rest =>
    cases rest with
    | nil => exact Nat.le_refl 1
    | cons q' rest =>
      rw [hlist] at hsame hnodup
      have heq := hsame q (by simp) q' (by simp)
      simp [heq] at hnodup

theorem singleFlight_of_history (hfresh : d.table.Fresh)
    (h : CallPhase.machine.History (d.opening now calls) events last) :
    SingleFlight d calls events last := by
  have hknown := known_of_history hfresh h
  have htrail := trail_of_history hfresh h
  refine ⟨?_, hknown.hosts, hknown.once, ?_, ?_, ?_, ?_⟩
  · exact (known_opening hfresh now calls).asked h
  · intro host hkeeps
    exact countP_inquiries_le hfresh h hkeeps
  · intro record outcome houtcome
    obtain ⟨q, hq, hrecord, rfl⟩ := hknown.stored record outcome houtcome
    refine ⟨q, hq, hrecord, ?_⟩
    unfold Inquiry.outcome
    cases q.answer with
    | ok file => exact .file file
    | error error => exact .error error
  · intro task due host answer time hcall hphase
    obtain ⟨due', call, hcall', hof⟩ := htrail.of task _ hphase
    rw [hcall] at hcall'
    cases hcall'
    -- A call for a robots file ends with one.
    obtain ⟨file, rfl⟩ : ∃ file, answer = .robots file := by
      cases answer with
      | robots file => exact ⟨file, rfl⟩
      | _ => cases hof
    have hlookup : CallPhase.robotsDiscipline.lookupAt? last task = some (.finished file) := by
      rw [RobotsDiscipline.lookupAt?, hphase]
      rfl
    constructor
    · rcases htrail.used task _ hlookup with ⟨host, hstart⟩ | hused
      · cases hstart
      · exact hused
    · intro record huses
      obtain ⟨due', call, key, hcall', hkey, hhost⟩ := htrail.hosts task record huses
      rw [hcall] at hcall'
      cases hcall'
      cases hkey
      obtain ⟨lookup, hlookup', hdone⟩ := htrail.uses task record huses
      rw [hlookup] at hlookup'
      cases hlookup'
      rcases hdone with hrecord | ⟨outcome, heq, houtcome⟩
      · cases hrecord
      · cases heq
        exact ⟨hhost, file, rfl, houtcome⟩
  · intro a ha record r hget
    exact (known_opening hfresh now calls).forward h ha hget

def silent : HostDesk where
  table := {
    minInterval := 8
    service := fun _ _ => { answer := .error (.robots "none") }
    jitter := .seeded 0
    cache := .empty 1 }

def callers : List (Option Nat × HostCall) := [(none, .robots "a"), (none, .robots "A")]

namespace Callers

def table (cache : LruCache String Nat) (records : List HostRecord)
    (asked : List (Nat × String)) : HostTable :=
  { silent.table with cache, records, asked }

def record (robotsLock : Lock) (outcome : Option (Option Robots)) : HostRecord :=
  { silent.table.fresh "a" with robotsLock, outcome }

def note : Nat × String := (0, (silent.table.fresh "a").host)

theorem first_asks (cache : LruCache String Nat) :
    ∃ events, CallPhase.machine.History
      (config 0 [.looking (.found 0), .coming none (.robots "A")]
        (table cache [silent.table.fresh "a"] [])) events
      (config 0 [.looking (.awaiting 0 none (some 0)), .looking (.start "A")]
        (table cache [record { holder := some 0 } none] [note])) :=
  ⟨_, CallPhase.machine.history_follow (.refl _) (List.replicate 4 (.inl 0) ++ [.inl 1])⟩

theorem first_returns (cache : LruCache String Nat) :
    ∃ events, CallPhase.machine.History
      (config 0 [.looking (.awaiting 0 none (some 0)), .looking (.found 0)]
        (table cache [record { holder := some 0 } none] [note])) events
      (config 0 [.finished (.robots none) 0, .looking (.atLock 0)]
        (table cache [record {} (some none)] [note])) :=
  ⟨_, CallPhase.machine.history_follow (.refl _) (.inl 1 :: List.replicate 5 (.inl 0))⟩

theorem second_returns (cache : LruCache String Nat) :
    ∃ events, CallPhase.machine.History
      (config 0 [.finished (.robots none) 0, .looking (.atLock 0)]
        (table cache [record {} (some none)] [note])) events
      (config 0 [.finished (.robots none) 0, .finished (.robots none) 0]
        (table cache [record {} (some none)] [note])) :=
  ⟨_, CallPhase.machine.history_follow (.refl _) (List.replicate 5 (.inl 1))⟩

/-- The first call asks. The second finds nothing known before the answer is there, and takes the
lock after it. -/
theorem history : ∃ events cache, CallPhase.machine.History (silent.opening 0 callers) events
    (config 0 [.finished (.robots none) 0, .finished (.robots none) 0]
      (table cache [record {} (some none)] [note])) := by
  have hpeek : silent.table.cache.peek (HostTable.keyOf "a") = none := Std.HashMap.getElem?_empty
  have hroom : silent.table.cache.size < silent.table.cache.capacity := by decide
  let cache := (silent.table.cache.getOrCreate (HostTable.keyOf "a") 0).2
  have hkept : cache.peek (HostTable.keyOf "A") = some 0 := by
    rw [Twins.keyOf_eq, BoundedCache.peek, BoundedCache.entries_getOrCreate hpeek hroom]
    exact Std.HashMap.getElem?_insert_self
  let cache' : LruCache String Nat :=
    { cache with policy := EvictionPolicy.touch cache.policy (HostTable.keyOf "A") }
  have hmade : (table silent.table.cache [] []).find "a" =
      (0, table cache [silent.table.fresh "a"] []) := HostTable.find_of_none hpeek
  have hfound : (table cache [record { holder := some 0 } none] [note]).find "A" =
      (0, table cache' [record { holder := some 0 } none] [note]) := HostTable.find_of_peek hkept
  have hcomes : CallPhase.machine.History (silent.opening 0 callers) _
      (config 0 [.looking (.start "a"), .coming none (.robots "A")]
        (table silent.table.cache [] [])) :=
    CallPhase.machine.history_follow (.refl _) [.inl 0]
  obtain ⟨_, hfirst⟩ := Finds.lookUp.history [_, .coming none (.robots "A")] 0 rfl hmade
  obtain ⟨_, hasks⟩ := first_asks cache
  obtain ⟨_, hsecond⟩ :=
    Finds.lookUp.history [.looking (.awaiting 0 none (some 0)), _] 1 rfl hfound
  obtain ⟨_, hreturns⟩ := first_returns cache'
  obtain ⟨_, hends⟩ := second_returns cache'
  exact ⟨_, cache', ((((hcomes.trans hfirst).trans hasks).trans hsecond).trans hreturns).trans
    hends⟩

end Callers

/-- Two calls for a host whose names differ in case ask for its robots file once. -/
theorem singleFlight_callers : ∃ events last, silent.table.Fresh ∧
    CallPhase.machine.History (silent.opening 0 callers) events last ∧
      last.shared.table.asked = [Callers.note] ∧
        last.tasks = List.replicate 2 (.finished (.robots none) 0) ∧
          SingleFlight silent callers events last := by
  obtain ⟨events, cache, h⟩ := Callers.history
  have hfresh : silent.table.Fresh := ⟨rfl, fun _ => Std.HashMap.getElem?_empty⟩
  exact ⟨events, _, hfresh, h, rfl, rfl, singleFlight_of_history hfresh h⟩

end HostDesk

end PoliteCrawl

import PoliteCrawl.Politeness.Call
import PoliteCrawl.Proofs.Politeness.Grants

namespace PoliteCrawl

variable {now task other : Nat} {key : String} {t t' : HostTable}

def HostCall.waitsFor? : HostCall → Option String
  | .wait host _ _ => some (HostTable.keyOf host)
  | .enter item _ => item.hostKey?.map HostTable.keyOf
  | _ => none

def HostCall.names? : HostCall → Option String
  | .view host | .status host | .robots host | .wait host _ _ | .keep host | .holdGate host _ =>
    some (HostTable.keyOf host)
  | .enter item _ => item.hostKey?.map HostTable.keyOf
  | _ => none

def HostCall.opens? : HostCall → Option String
  | .view host | .status host | .keep host | .holdGate host _ => some (HostTable.keyOf host)
  | _ => none

theorem HostCall.names?_of_waitsFor? {call : HostCall} (h : call.waitsFor? = some key) :
    call.names? = some key := by
  cases call with
  | wait | enter => exact h
  | _ => cases h

theorem HostCall.names?_of_opens? {call : HostCall} (h : call.opens? = some key) :
    call.names? = some key := by
  cases call with
  | view | status | keep | holdGate => exact h
  | _ => cases h

theorem HostCall.waitsFor?_enter {item : WorkItem} {host : String} (h : item.hostKey? = some host)
    (timeout : Nat) : (HostCall.enter item timeout).waitsFor? = some (HostTable.keyOf host) := by
  simp only [waitsFor?, h, Option.map_some]

namespace CallPhase

def stamp? : CallPhase → Option (Nat × Nat)
  | waiting wait _ => wait.stamp?
  | entering wait => wait.stamp?
  | _ => none

def named? : CallPhase → Option String
  | coming _ call => call.opens?
  | looking lookup => lookup.named?
  | waiting wait _ => wait.named?
  | entering wait => wait.named?
  | _ => none

def Sound (now task : Nat) (call : HostCall) (t : HostTable) : CallPhase → Prop
  | coming _ call' => call' = call
  | atHand record _ | gripping record _ => t.holdsGate record task = true
  | looking lookup => call.waitsFor? = none ∧
    ∃ key, call.names? = some key ∧ lookup.Sound task key t
  | waiting wait _ => ∃ key, call.waitsFor? = some key ∧ wait.Sound now task key t
  | entering wait => ∀ phase, wait = .waiting phase →
    ∃ key, call.waitsFor? = some key ∧ phase.Sound now task key t
  | _ => True

def granted : CallPhase → Bool
  | waiting wait _ => wait.granted
  | entering wait => wait.granted
  | answering (.verdict value) | finished (.verdict value) _ => value
  | _ => false

variable {call : HostCall} {phase : CallPhase} {d : HostDesk} {p : Progress CallPhase HostDesk}

theorem Sound.later {later : Nat} (h : phase.Sound now task call t) (hle : now ≤ later) :
    phase.Sound later task call t := by
  cases phase with
  | waiting wait cutoff =>
    obtain ⟨key, hkey, hwait⟩ := h
    exact ⟨key, hkey, hwait.later hle⟩
  | entering wait =>
    intro phase hphase
    obtain ⟨key, hkey, hwait⟩ := h phase hphase
    exact ⟨key, hkey, hwait.later hle⟩
  | _ => exact h

theorem Sound.advance {stamp? : Option (Nat × Nat)} {named? : Option String}
    (h : phase.Sound now other call t) (hadvance : t.Advance task stamp? named? t')
    (hne : other ≠ task) : phase.Sound now other call t' := by
  cases phase with
  | atHand record use => exact hadvance.holds _ _ hne h
  | gripping record waking => exact hadvance.holds _ _ hne h
  | looking lookup =>
    obtain ⟨hwaits, key, hkey, hlookup⟩ := h
    exact ⟨hwaits, key, hkey, hlookup.advance hadvance hne⟩
  | waiting wait cutoff =>
    obtain ⟨key, hkey, hwait⟩ := h
    exact ⟨key, hkey, hwait.advance hadvance hne⟩
  | entering wait =>
    intro phase hphase
    obtain ⟨key, hkey, hwait⟩ := h phase hphase
    exact ⟨key, hkey, hwait.advance hadvance hne⟩
  | _ => exact h

theorem Sound.named (h : phase.Sound now task call t) :
    ∀ name ∈ phase.named?, call.names? = some name := by
  intro name hname
  cases phase with
  | coming due call' =>
    cases h
    exact HostCall.names?_of_opens? hname
  | looking lookup =>
    obtain ⟨-, key, hkey, hlookup⟩ := h
    rw [hlookup.named name hname]
    exact hkey
  | waiting wait cutoff =>
    obtain ⟨key, hkey, hwait⟩ := h
    rw [hwait.named name hname]
    exact HostCall.names?_of_waitsFor? hkey
  | entering wait =>
    cases wait with
    | hostless => cases hname
    | waiting wait =>
      obtain ⟨key, hkey, hwait⟩ := h wait rfl
      rw [hwait.named name hname]
      exact HostCall.names?_of_waitsFor? hkey
  | _ => cases hname

theorem granted_of_stamp? (h : phase.stamp?.isSome = true) : phase.granted = false := by
  have hwait : ∀ wait : WaitPhase, wait.stamp?.isSome = true → wait.granted = false := by
    intro wait hstamp
    cases wait with
    | finished granted => cases hstamp
    | _ => rfl
  cases phase with
  | waiting wait cutoff => exact hwait wait h
  | entering wait =>
    cases wait with
    | hostless => cases h
    | waiting wait => exact hwait wait h
  | _ => cases h

/-- The record that a call stamps a grant on is that of the host it waits for. -/
theorem Sound.stamped {record instant : Nat} (h : phase.Sound now task call t)
    (hstamp : phase.stamp? = some (record, instant)) :
    instant ≤ now ∧ ∃ key, call.waitsFor? = some key ∧ t.hostAt? record = some key := by
  have hwait : ∀ wait : WaitPhase, wait.stamp? = some (record, instant) →
      (∃ key, call.waitsFor? = some key ∧ wait.Sound now task key t) →
      instant ≤ now ∧ ∃ key, call.waitsFor? = some key ∧ t.hostAt? record = some key := by
    rintro wait hstamp ⟨key, hkey, hsound⟩
    obtain ⟨hinstant, hhost⟩ := hsound.stamped hstamp
    exact ⟨hinstant, key, hkey, hhost⟩
  cases phase with
  | waiting wait cutoff => exact hwait wait hstamp h
  | entering wait =>
    cases wait with
    | hostless => cases hstamp
    | waiting wait => exact hwait wait hstamp (h wait rfl)
  | _ => cases hstamp

theorem enter_sound (now task : Nat) (item : WorkItem) (timeout : Nat) (t : HostTable) :
    (entering (hostPredicate.start item timeout)).Sound now task (.enter item timeout) t := by
  intro phase hphase
  obtain ⟨host, hhost, hsound⟩ := HostWait.start_sound hphase now task t
  exact ⟨HostTable.keyOf host, HostCall.waitsFor?_enter hhost timeout, hsound⟩

theorem begin_sound (now task : Nat) (d : HostDesk) (call : HostCall) :
    d.table.Advance task none call.opens? (begin now d call).2.table ∧
      (begin now d call).1.Sound now task call (begin now d call).2.table := by
  unfold begin
  cases call with
  | view host => exact ⟨d.table.advance_find task host, trivial⟩
  | status host => exact ⟨d.table.advance_find task host, trivial⟩
  | robots host => exact ⟨d.table.advance_refl task, rfl, _, rfl, rfl⟩
  | wait host timeout limit => exact ⟨d.table.advance_refl task, _, rfl, rfl⟩
  | enter item timeout =>
    exact ⟨d.table.advance_refl task, enter_sound now task item timeout d.table⟩
  | contains host =>
    refine ⟨d.table.advance_refl task, ?_⟩
    trivial
  | keep host => exact ⟨d.table.advance_find task host, trivial⟩
  | viewKept name =>
    dsimp only
    split <;> exact ⟨d.table.advance_refl task, trivial⟩
  | holdGate host duration => exact ⟨d.table.advance_find task host, trivial⟩
  | rest duration => exact ⟨d.table.advance_refl task, trivial⟩

theorem step_looking {lookup : LookupPhase} (h : (looking lookup).step now task d = some p) :
    (∃ outcome, lookup = .finished outcome ∧
      p = { phase := answering (.robots outcome), shared := d }) ∨
    ∃ next, lookup.step now task d.table = some next ∧
      p = next.within looking ({ d with table := · }) := by
  by_cases hfinished : ∃ outcome, lookup = .finished outcome
  · obtain ⟨outcome, rfl⟩ := hfinished
    cases h
    exact .inl ⟨outcome, rfl, rfl⟩
  · have hstep : (lookup.step now task d.table).map
        (·.within looking ({ d with table := · })) = some p := by
      cases lookup with
      | finished outcome => exact absurd ⟨outcome, rfl⟩ hfinished
      | _ => exact h
    obtain ⟨next, hnext, rfl⟩ := Option.map_eq_some_iff.mp hstep
    exact .inr ⟨next, hnext, rfl⟩

/-- A wait that has not come to its end goes on or is given up from outside. -/
theorem step_waiting {wait : WaitPhase} {cutoff : Option Nat}
    (h : (waiting wait cutoff).step now task d = some p)
    (hgoes : ¬ ∃ granted, wait = .finished granted) :
    (∃ next, wait.step now task d.table = some next ∧
      p = next.within (waiting · cutoff) ({ d with table := · })) ∨
    wait.step now task d.table = none ∧ cutoff.any (· ≤ now) = true ∧
      p = { phase := answering .givenUp
            shared := { d with table := wait.cancel task d.table } } := by
  cases hnext : wait.step now task d.table with
  | some next =>
    refine .inl ⟨next, rfl, ?_⟩
    cases wait with
    | finished granted => exact absurd ⟨granted, rfl⟩ hgoes
    | _ =>
      simp only [step, hnext, Option.some.injEq] at h
      exact h.symm
  | none =>
    refine .inr ⟨rfl, ?_⟩
    cases wait with
    | finished granted => exact absurd ⟨granted, rfl⟩ hgoes
    | _ =>
      simp only [step, hnext] at h
      split at h <;> cases h
      exact ⟨‹_›, rfl⟩

theorem step_entering {wait : HostWait} (h : (entering wait).step now task d = some p) :
    (∃ verdict, hostPredicate.verdict? wait = some verdict ∧
      p = { phase := answering (.verdict verdict), shared := d }) ∨
    ∃ phase next, wait = .waiting phase ∧ phase.step now task d.table = some next ∧
      p = next.within (fun phase => entering (.waiting phase)) ({ d with table := · }) := by
  simp only [step] at h
  split at h
  · rename_i verdict hverdict
    cases h
    exact .inl ⟨verdict, hverdict, rfl⟩
  · obtain ⟨next, hnext, rfl⟩ := Option.map_eq_some_iff.mp h
    obtain ⟨phase, next', rfl, hphase, rfl⟩ := HostWait.step_waiting hnext
    exact .inr ⟨phase, next', rfl, hphase, rfl⟩

inductive Leads (now task : Nat) (d : HostDesk) : CallPhase → CallPhase → HostDesk → Prop where
  | begins (due : Option Nat) (call : HostCall) :
    Leads now task d (coming due call) (begin now d call).1 (begin now d call).2
  | locks {record : Nat} {use : GateUse}
    (h : (d.table.requestGate record task).holdsGate record task = true) :
    Leads now task d (atGate record use) (atHand record use)
      { d with table := d.table.requestGate record task }
  | queues {record : Nat} {use : GateUse}
    (h : ¬ (d.table.requestGate record task).holdsGate record task = true) :
    Leads now task d (atGate record use) (inLine record use (now + WaitPhase.reportInterval))
      { d with table := d.table.requestGate record task }
  | served {record report : Nat} {use : GateUse} (h : d.table.holdsGate record task = true) :
    Leads now task d (inLine record use report) (atHand record use) d
  | reports {record report : Nat} {use : GateUse} (h : ¬ d.table.holdsGate record task = true)
    (hle : report ≤ now) :
    Leads now task d (inLine record use report) (atGate record use)
      { d with table := d.table.leaveGate record task }
  | views (record : Nat) :
    Leads now task d (atHand record .view)
      (answering (.view (d.table.records[record]?.map (·.view))))
      { d with table := (d.table.releaseGate record).1 }
  | grips (record duration : Nat) :
    Leads now task d (atHand record (.hold duration)) (gripping record (now + duration)) d
  | loosens {record waking : Nat} (h : waking ≤ now) :
    Leads now task d (gripping record waking) (answering .done)
      { d with table := (d.table.releaseGate record).1 }
  | looks {lookup : LookupPhase} {next : Progress LookupPhase HostTable}
    (h : lookup.step now task d.table = some next) :
    Leads now task d (looking lookup) (looking next.phase) { d with table := next.shared }
  | found (outcome : Option Robots) :
    Leads now task d (looking (.finished outcome)) (answering (.robots outcome)) d
  | waits {wait wait' : WaitPhase} {cutoff : Option Nat} {t' : HostTable}
    (h : WaitPhase.Leads now task d.table wait wait' t') :
    Leads now task d (waiting wait cutoff) (waiting wait' cutoff) { d with table := t' }
  | decided (granted : Bool) (cutoff : Option Nat) :
    Leads now task d (waiting (.finished granted) cutoff) (answering (.verdict granted)) d
  | cutsOff {wait : WaitPhase} {cutoff : Option Nat} (hgoes : ¬ ∃ granted, wait = .finished granted)
    (h : wait.step now task d.table = none) (hover : cutoff.any (· ≤ now) = true) :
    Leads now task d (waiting wait cutoff) (answering .givenUp)
      { d with table := wait.cancel task d.table }
  | enters {wait wait' : WaitPhase} {t' : HostTable}
    (h : WaitPhase.Leads now task d.table wait wait' t') :
    Leads now task d (entering (.waiting wait)) (entering (.waiting wait')) { d with table := t' }
  | entered {wait : HostWait} {verdict : Bool} (h : hostPredicate.verdict? wait = some verdict) :
    Leads now task d (entering wait) (answering (.verdict verdict)) d
  | rests {waking : Nat} (h : waking ≤ now) : Leads now task d (resting waking) (answering .done) d
  | tells (answer : HostAnswer) : Leads now task d (answering answer) (finished answer now) d

theorem leads_of_step (h : phase.step now task d = some p) :
    Leads now task d phase p.phase p.shared := by
  cases phase with
  | coming due call =>
    simp only [step] at h
    split at h <;> cases h
    exact .begins due call
  | atGate record use =>
    cases h
    dsimp only
    split
    · exact .locks ‹_›
    · exact .queues ‹_›
  | inLine record use report =>
    simp only [step] at h
    split at h
    · cases h
      exact .served ‹_›
    · split at h <;> cases h
      exact .reports ‹_› ‹_›
  | atHand record use =>
    cases use with
    | view =>
      cases h
      exact .views record
    | hold duration =>
      cases h
      exact .grips record duration
  | gripping record waking =>
    simp only [step] at h
    split at h <;> cases h
    exact .loosens ‹_›
  | looking lookup =>
    rcases step_looking h with ⟨outcome, rfl, rfl⟩ | ⟨next, hnext, rfl⟩
    · exact .found outcome
    · exact .looks hnext
  | waiting wait cutoff =>
    by_cases hfinished : ∃ granted, wait = .finished granted
    · obtain ⟨granted, rfl⟩ := hfinished
      cases h
      exact .decided granted cutoff
    · rcases step_waiting h hfinished with ⟨next, hnext, rfl⟩ | ⟨hnone, hover, rfl⟩
      · exact .waits (WaitPhase.leads_of_step hnext)
      · exact .cutsOff hfinished hnone hover
  | entering wait =>
    rcases step_entering h with ⟨verdict, hverdict, rfl⟩ | ⟨wait, next, rfl, hnext, rfl⟩
    · exact .entered hverdict
    · exact .enters (WaitPhase.leads_of_step hnext)
  | resting waking =>
    simp only [step] at h
    split at h <;> cases h
    exact .rests ‹_›
  | answering answer =>
    cases h
    exact .tells answer
  | finished answer time => cases h

variable {phase' : CallPhase} {d' : HostDesk}

theorem Leads.sound (h : Leads now task d phase phase' d')
    (hphase : phase.Sound now task call d.table) (htimely : d.table.Timely now)
    (hkeyed : d.table.Keyed) :
    d.table.Advance task phase.stamp? phase.named? d'.table ∧
      phase'.Sound now task call d'.table := by
  cases h with
  | begins due call' =>
    cases hphase
    exact begin_sound now task d _
  | @locks record _ hholds => exact ⟨d.table.advance_requestGate task record, hholds⟩
  | @queues record => exact ⟨d.table.advance_requestGate task record, trivial⟩
  | served hholds => exact ⟨d.table.advance_refl task, hholds⟩
  | @reports record => exact ⟨d.table.advance_leaveGate task record, trivial⟩
  | views | loosens => exact ⟨d.table.advance_releaseGate hphase, trivial⟩
  | grips => exact ⟨d.table.advance_refl task, hphase⟩
  | looks hnext =>
    obtain ⟨hwaits, key, hkey, hlookup⟩ := hphase
    obtain ⟨hadvance, hsound⟩ := (LookupPhase.leads_of_step hnext).sound hlookup hkeyed
    exact ⟨hadvance, hwaits, key, hkey, hsound⟩
  | waits hleads =>
    obtain ⟨key, hkey, hwait⟩ := hphase
    obtain ⟨hadvance, hsound⟩ := hleads.sound hwait htimely hkeyed
    exact ⟨hadvance, key, hkey, hsound⟩
  | @cutsOff wait _ _ hnone =>
    obtain ⟨hstamp, hnamed⟩ := WaitPhase.stamp?_of_step_eq_none hnone
    rw [stamp?, named?, hstamp, hnamed]
    exact ⟨WaitPhase.advance_cancel task wait d.table, trivial⟩
  | @enters wait _ _ hleads =>
    obtain ⟨key, hkey, hwait⟩ := hphase wait rfl
    obtain ⟨hadvance, hsound⟩ := hleads.sound hwait htimely hkeyed
    refine ⟨hadvance, fun phase hphase => ?_⟩
    cases hphase
    exact ⟨key, hkey, hsound⟩
  | entered hverdict =>
    obtain ⟨hstamp, hnamed, -⟩ := HostWait.stamp?_of_verdict? hverdict
    rw [stamp?, named?, hstamp, hnamed]
    exact ⟨d.table.advance_refl task, trivial⟩
  | found | decided | rests | tells => exact ⟨d.table.advance_refl task, trivial⟩

/-- A call that waits for a host is granted by the step that stamps the grant, and stays so. -/
theorem Leads.granted (h : Leads now task d phase phase' d')
    (hphase : phase.Sound now task call d.table) (hcall : call.waitsFor? ≠ none) :
    phase'.granted = (phase.granted || phase.stamp?.isSome) := by
  cases h with
  | begins due call' =>
    cases hphase
    cases call with
    | wait host timeout limit => rfl
    | enter item timeout =>
      rcases HostWait.start_eq item timeout with ⟨host, -, hstart⟩ | hstart
      · rw [begin, hstart]
        rfl
      · rw [begin, hstart]
        rfl
    | _ => exact absurd rfl hcall
  -- No call that waits for a host looks up a robots file.
  | looks | found => exact absurd hphase.1 hcall
  | @waits wait wait' _ _ hleads | @enters wait wait' _ hleads =>
    obtain ⟨hbefore, hafter⟩ := hleads.granted
    show wait'.granted = (wait.granted || wait.stamp?.isSome)
    rw [hbefore, hafter, Bool.false_or]
  | decided granted => exact (Bool.or_false granted).symm
  | @cutsOff wait _ hgoes hnone =>
    show false = (wait.granted || wait.stamp?.isSome)
    rw [(WaitPhase.stamp?_of_step_eq_none hnone).1]
    cases wait with
    | finished granted => exact absurd ⟨granted, rfl⟩ hgoes
    | _ => rfl
  | @entered wait verdict hverdict =>
    obtain ⟨hstamp, -, hgranted⟩ := HostWait.stamp?_of_verdict? hverdict
    show verdict = (wait.granted || wait.stamp?.isSome)
    rw [hstamp, hgranted]
    exact (Bool.or_false verdict).symm
  | tells answer =>
    cases answer with
    | verdict value => exact (Bool.or_false value).symm
    | _ => rfl
  | locks | queues | served | reports | views | grips | loosens | rests => rfl

/-- A call that waits for a host changes no gate but the one that it stamps a grant on. -/
theorem Leads.gate? {record : Nat} {g : FetchGate} (h : Leads now task d phase phase' d')
    (hphase : phase.Sound now task call d.table) (hcall : call.waitsFor? ≠ none)
    (hstamp : HostTable.stampOn phase.stamp? record = none)
    (hgate : d.table.gate? record = some g) : d'.table.gate? record = some g := by
  cases h with
  | begins due call' =>
    cases hphase
    cases call with
    | wait host timeout limit => exact hgate
    | enter item timeout => exact hgate
    | _ => exact absurd rfl hcall
  | locks | queues => exact (d.table.gate?_requestGate _ task record).trans hgate
  | reports => exact (d.table.gate?_leaveGate _ task record).trans hgate
  | views | loosens => exact (d.table.gate?_releaseGate _ record).trans hgate
  | looks | found => exact absurd hphase.1 hcall
  | waits hleads | enters hleads => exact hleads.gate? hstamp hgate
  | @cutsOff wait => exact (WaitPhase.gate?_cancel task wait d.table record).trans hgate
  | served | grips | decided | entered | rests | tells => exact hgate

end CallPhase

end PoliteCrawl

import PoliteCrawl.Proofs.Politeness.Calls

namespace PoliteCrawl

variable {calls : List (Option Nat × HostCall)} {key : String}

namespace CallPhase

theorem step_machine {now task : Nat} {phase : CallPhase} {d : HostDesk}
    {turn : Turn CallPhase HostDesk} (h : machine.step now task phase d = some turn) :
    phase.step now task d = some turn.toProgress ∧ turn.spawned = [] := by
  obtain ⟨p, hp, rfl⟩ := Option.map_eq_some_iff.mp h
  exact ⟨hp, rfl⟩

def discipline (calls : List (Option Nat × HostCall)) : GateDiscipline machine HostDesk.table where
  stamp? := stamp?
  named? := named?
  Sound now task phase t := ∃ due call, calls[task]? = some (due, call) ∧
    phase.Sound now task call t
  later := by
    rintro now later task phase t ⟨due, call, hcall, hphase⟩ hle
    exact ⟨due, call, hcall, hphase.later hle⟩
  advance := by
    rintro now task other phase t t' stamp? named? ⟨due, call, hcall, hphase⟩ hadvance hne
    exact ⟨due, call, hcall, hphase.advance hadvance hne⟩
  stamp_le := by
    rintro now task phase t record instant ⟨due, call, hcall, hphase⟩ hstamp
    exact (hphase.stamped hstamp).1
  step := by
    rintro now task phase d turn hstep ⟨due, call, hcall, hphase⟩ htimely hkeyed
    obtain ⟨hadvance, hsound⟩ :=
      (leads_of_step (step_machine hstep).1).sound hphase htimely hkeyed
    exact ⟨hadvance, due, call, hcall, hsound⟩
  spawned := by
    intro now task phase d turn hstep phase' hmem
    rw [(step_machine hstep).2] at hmem
    cases hmem

end CallPhase

namespace HostCall

def isGranted (calls : List (Option Nat × HostCall)) (key : String) (tasks : List CallPhase)
    (i : Nat) : Bool :=
  calls[i]?.any (·.2.waitsFor? = some key) && tasks[i]?.any (·.granted)

theorem isGranted_of_call {due : Option Nat} {call : HostCall} {i : Nat}
    {tasks : List CallPhase} {phase : CallPhase} (hcall : calls[i]? = some (due, call))
    (hphase : tasks[i]? = some phase) :
    isGranted calls key tasks i = (decide (call.waitsFor? = some key) && phase.granted) := by
  rw [isGranted, hcall, hphase]
  rfl

theorem lt_of_isGranted {tasks : List CallPhase} {i : Nat}
    (h : isGranted calls key tasks i = true) : i < calls.length := by
  apply Nat.lt_of_not_le
  intro hle
  rw [isGranted, List.getElem?_eq_none hle] at h
  cases h

/-- The grants of a run so far go to the calls that have been granted. -/
structure Credited (calls : List (Option Nat × HostCall)) (key : String)
    (c : Configuration CallPhase HostDesk) (events : List (Event CallPhase HostDesk)) : Prop where
  keeps : c.shared.table.Keeps key
  nodup : ∀ record, c.shared.table.hostAt? record = some key →
    ((grantsOn HostDesk.table record events).map (·.task)).Nodup
  tasks : ∀ record, c.shared.table.hostAt? record = some key → ∀ i,
    i ∈ (grantsOn HostDesk.table record events).map (·.task) ↔
      isGranted calls key c.tasks i = true
  unmade : (∀ record, c.shared.table.hostAt? record ≠ some key) → ∀ i,
    isGranted calls key c.tasks i = false

variable {c : Configuration CallPhase HostDesk} {events : List (Event CallPhase HostDesk)}
  {task : Nat} {turn : Turn CallPhase HostDesk} {phase : CallPhase} {due : Option Nat}
  {call : HostCall}

/-- Which calls have been granted after a step. -/
theorem isGranted_after (hcall : calls[task]? = some (due, call))
    (hphase : c.tasks[task]? = some phase) (hsound : phase.Sound c.now task call c.shared.table)
    (hstep : CallPhase.machine.step c.now task phase c.shared = some turn) (i : Nat) :
    isGranted calls key (c.after task turn).tasks i =
      (isGranted calls key c.tasks i ||
        (decide (i = task) && decide (call.waitsFor? = some key) && phase.stamp?.isSome)) := by
  obtain ⟨hturn, hspawned⟩ := CallPhase.step_machine hstep
  by_cases hi : i = task
  · subst hi
    rw [isGranted_of_call hcall (Configuration.tasks_after_self hphase),
      isGranted_of_call hcall hphase]
    by_cases hkey : call.waitsFor? = some key
    · have hgranted := (CallPhase.leads_of_step hturn).granted hsound (by rw [hkey]; simp)
      simp [hkey, hgranted]
    · simp [hkey]
  · rw [isGranted, isGranted, Configuration.tasks_after_eq hspawned hi]
    simp [hi]

/-- Whether a step grants a record of a host depends on the call alone. -/
theorem gained?_isSome (hsound : phase.Sound c.now task call c.shared.table)
    (hadvance : c.shared.table.Advance task phase.stamp? phase.named? turn.shared.table)
    (hkeeps : c.shared.table.Keeps key) {record : Nat}
    (hrecord : c.shared.table.hostAt? record = some key) :
    (FetchGate.gained? task (c.shared.table.gate? record) (turn.shared.table.gate? record)).isSome =
      (decide (call.waitsFor? = some key) && phase.stamp?.isSome) := by
  rw [(hadvance.follows record).gained?_isSome]
  cases hstamp : phase.stamp? with
  | none => simp [HostTable.stampOn]
  | some stamp =>
    obtain ⟨record', instant⟩ := stamp
    obtain ⟨-, key', hkey, hhost⟩ := hsound.stamped hstamp
    by_cases hsame : record' = record
    · subst hsame
      rw [hrecord] at hhost
      cases hhost
      simp [HostTable.stampOn, hkey]
    · have hne : key' ≠ key := by
        rintro rfl
        have hkept := hkeeps record hrecord
        rw [hkeeps record' hhost] at hkept
        cases hkept
        exact hsame rfl
      simp [HostTable.stampOn, hsame, hkey, hne]

/-- The grants of a record that is there already go on going to the calls that are granted. -/
theorem Credited.grown (h : Credited calls key c events) (hcall : calls[task]? = some (due, call))
    (hphase : c.tasks[task]? = some phase) (hsound : phase.Sound c.now task call c.shared.table)
    (hstep : CallPhase.machine.step c.now task phase c.shared = some turn)
    (hadvance : c.shared.table.Advance task phase.stamp? phase.named? turn.shared.table)
    {record : Nat} (hrecord : c.shared.table.hostAt? record = some key) :
    ((grantsOn HostDesk.table record (events ++ [.act ⟨c, task, turn⟩])).map (·.task)).Nodup ∧
      ∀ i, i ∈ (grantsOn HostDesk.table record (events ++ [.act ⟨c, task, turn⟩])).map (·.task) ↔
        isGranted calls key (c.after task turn).tasks i = true := by
  have hgained := gained?_isSome hsound hadvance h.keeps hrecord
  have hnodup := h.nodup record hrecord
  have htasks := h.tasks record hrecord
  rw [grantsOn_act, List.map_append]
  cases hgrant : FetchGate.gained? task (c.shared.table.gate? record)
      (turn.shared.table.gate? record) with
  | none =>
    rw [hgrant] at hgained
    refine ⟨by simpa using hnodup, fun i => ?_⟩
    rw [isGranted_after hcall hphase hsound hstep, Bool.and_assoc, ← hgained]
    simpa using htasks i
  | some x =>
    rw [hgrant] at hgained
    have hx := FetchGate.task_of_gained? hgrant
    -- A call that gets a grant now had none before.
    have hfresh : isGranted calls key c.tasks task = false := by
      rw [isGranted_of_call hcall hphase, CallPhase.granted_of_stamp?]
      · exact Bool.and_false _
      · exact (Bool.and_eq_true_iff.mp hgained.symm).2
    have hnotmem : task ∉ (grantsOn HostDesk.table record events).map (·.task) := by
      rw [htasks, hfresh]
      exact Bool.false_ne_true
    refine ⟨?_, fun i => ?_⟩
    · rw [Option.toList_some, List.map_singleton, hx]
      refine List.nodup_append.mpr ⟨hnodup, List.pairwise_singleton _ _, ?_⟩
      rintro i hi j hj rfl
      rw [List.mem_singleton.mp hj] at hi
      exact hnotmem hi
    · rw [isGranted_after hcall hphase hsound hstep, Bool.and_assoc, ← hgained, List.mem_append,
        htasks]
      simp [hx]

/-- No call is granted a host by a step before which the host has no record. -/
theorem Credited.unmade_after (h : Credited calls key c events)
    (hcall : calls[task]? = some (due, call)) (hphase : c.tasks[task]? = some phase)
    (hsound : phase.Sound c.now task call c.shared.table)
    (hstep : CallPhase.machine.step c.now task phase c.shared = some turn)
    (hnone : ∀ record, c.shared.table.hostAt? record ≠ some key) (i : Nat) :
    isGranted calls key (c.after task turn).tasks i = false := by
  rw [isGranted_after hcall hphase hsound hstep, h.unmade hnone, Bool.false_or]
  by_cases hkey : call.waitsFor? = some key
  · cases hstamp : phase.stamp? with
    | none => simp
    | some stamp =>
      obtain ⟨record, instant⟩ := stamp
      obtain ⟨-, key', hkey', hhost⟩ := hsound.stamped hstamp
      rw [hkey] at hkey'
      cases hkey'
      exact absurd hhost (hnone record)
  · simp [hkey]

theorem Credited.act {calls : List (Option Nat × HostCall)}
    (hholds : (CallPhase.discipline calls).Holds c)
    (hempty : ∀ record, c.shared.table.gate? record = none →
      grantsOn HostDesk.table record events = [])
    (h : Credited calls key c events)
    (hstep : CallPhase.machine.stepAt c task = some turn)
    (hkept : (∃ record, turn.shared.table.hostAt? record = some key) →
      ∃ record, turn.shared.table.cache.peek key = some record) :
    Credited calls key (c.after task turn) (events ++ [.act ⟨c, task, turn⟩]) := by
  obtain ⟨phase, hphase, hturn⟩ := CallPhase.machine.stepAt_eq_some hstep
  obtain ⟨due, call, hcall, hsound⟩ := hholds.tasks _ _ hphase
  have hadvance : c.shared.table.Advance task phase.stamp? phase.named? turn.shared.table :=
    hholds.advance hphase hturn
  have hunmade := h.unmade_after hcall hphase hsound hturn
  have hboth : ∀ record, turn.shared.table.hostAt? record = some key →
      ((grantsOn HostDesk.table record (events ++ [.act ⟨c, task, turn⟩])).map (·.task)).Nodup ∧
        ∀ i, i ∈ (grantsOn HostDesk.table record (events ++ [.act ⟨c, task, turn⟩])).map (·.task) ↔
          isGranted calls key (c.after task turn).tasks i = true := by
    intro record hrecord
    rcases hadvance.made record key hrecord with hold | ⟨rfl, hnone, -⟩
    · exact h.grown hcall hphase hsound hturn hadvance hold
    · -- The step made the record, so nothing has been granted on it.
      have hgate : c.shared.table.gate? c.shared.table.records.length = none := by
        rw [HostTable.gate?, List.getElem?_eq_none (Nat.le_refl _)]
        rfl
      have hall : ∀ i, isGranted calls key (c.after task turn).tasks i = false := by
        apply hunmade
        intro record hhost
        rw [h.keeps record hhost] at hnone
        cases hnone
      rw [grantsOn_act, hempty _ hgate, hgate]
      refine ⟨List.nodup_nil, fun i => ?_⟩
      rw [hall]
      simp [FetchGate.gained?]
  refine ⟨hadvance.keeps hholds.keyed h.keeps hkept, fun record hrecord => (hboth record hrecord).1,
    fun record hrecord => (hboth record hrecord).2, fun hnone => ?_⟩
  apply hunmade
  intro record hhost
  exact hnone record (hadvance.hosts record key hhost)

end HostCall

namespace HostDesk

variable {d : HostDesk} {now : Nat} {host : String} {record : Nat}
  {events : List (Event CallPhase HostDesk)} {last : Configuration CallPhase HostDesk}

theorem holds_opening_of_keyed (htimely : d.table.Timely now) (hkeyed : d.table.Keyed)
    (calls : List (Option Nat × HostCall)) :
    (CallPhase.discipline calls).Holds (d.opening now calls) where
  tasks task phase hphase := by
    rw [opening, List.getElem?_map] at hphase
    obtain ⟨⟨due, call⟩, hcall, rfl⟩ := Option.map_eq_some_iff.mp hphase
    exact ⟨due, call, hcall, rfl⟩
  timely := htimely
  keyed := hkeyed

theorem holds_opening (hfresh : d.table.Fresh) (now : Nat)
    (calls : List (Option Nat × HostCall)) :
    (CallPhase.discipline calls).Holds (d.opening now calls) :=
  holds_opening_of_keyed (hfresh.timely now) hfresh.keyed calls

theorem credited_opening (hfresh : d.table.Fresh) (now : Nat)
    (calls : List (Option Nat × HostCall)) (key : String) :
    HostCall.Credited calls key (d.opening now calls) [] := by
  have hnone : ∀ record, (d.opening now calls).shared.table.hostAt? record ≠ some key := by
    intro record hrecord
    rw [show (d.opening now calls).shared.table = d.table from rfl, hfresh.hostAt?] at hrecord
    cases hrecord
  refine ⟨fun record hrecord => absurd hrecord (hnone record),
    fun record hrecord => absurd hrecord (hnone record),
    fun record hrecord => absurd hrecord (hnone record), fun _ i => ?_⟩
  rw [HostCall.isGranted, opening, List.getElem?_map]
  cases calls[i]? with
  | none => rfl
  | some call => exact Bool.and_false _

/-- The table keeps the record of a host from when it is made. -/
def Keeps (host : String) (events : List (Event CallPhase HostDesk)) : Prop :=
  ∀ a ∈ acts events, (∃ record, a.turn.shared.table.hostAt? record = some (HostTable.keyOf host)) →
    a.turn.shared.table.contains host = true

/-- What the grants of a host come to in a run of calls. -/
structure Spaced (d : HostDesk) (calls : List (Option Nat × HostCall)) (host : String)
    (record : Nat) (events : List (Event CallPhase HostDesk))
    (last : Configuration CallPhase HostDesk) : Prop where
  apart : (grantsOn HostDesk.table record events).IsChain fun a b =>
    a.instant + b.interval ≤ b.instant
  least : ∀ x ∈ grantsOn HostDesk.table record events, d.table.minInterval ≤ x.interval
  latest : ∀ g ∈ last.shared.table.gate? record,
    g.lastGrant = (grantsOn HostDesk.table record events).getLast?.map (·.instant)
  tasks : ((grantsOn HostDesk.table record events).map (·.task)).Perm
    ((List.range calls.length).filter
      (HostCall.isGranted calls (HostTable.keyOf host) last.tasks))
  count : ∀ g ∈ last.shared.table.gate? record, g.grants =
    (List.range calls.length).countP (HostCall.isGranted calls (HostTable.keyOf host) last.tasks)
  others : ∀ a ∈ acts events, ∀ due call, calls[a.task]? = some (due, call) →
    call.waitsFor? ≠ none → (∀ phase, last.tasks[a.task]? = some phase → phase.granted = false) →
    ∀ g ∈ a.before.shared.table.gate? record, a.turn.shared.table.gate? record = some g

theorem credited_of_history {calls : List (Option Nat × HostCall)} (hfresh : d.table.Fresh)
    (h : CallPhase.machine.History (d.opening now calls) events last)
    (hkeeps : Keeps host events) :
    HostCall.Credited calls (HostTable.keyOf host) last events := by
  have hopening := holds_opening hfresh now calls
  -- on the run; a record that is kept throughout is kept in each beginning of the run
  induction h with
  | refl => exact credited_opening hfresh now calls _
  | @act c events task turn h hstep ih =>
    have hkeeps' : Keeps host events := by
      intro a ha
      apply hkeeps a
      rw [acts_append]
      exact List.mem_append_left _ ha
    refine (ih hkeeps').act (hopening.history h) ?_ hstep ?_
    · intro record hgate
      exact (hopening.log hfresh.records h record).unmade hgate
    · intro hmade
      exact BoundedCache.contains_iff.mp (hkeeps ⟨c, task, turn⟩ (by simp) hmade)
  | @pass c events later h _ ih =>
    have hkeeps' : Keeps host events := by
      intro a ha
      apply hkeeps a
      rw [acts_append]
      exact List.mem_append_left _ ha
    obtain ⟨hkept, hnodup, htasks, hunmade⟩ := ih hkeeps'
    refine ⟨hkept, ?_, ?_, hunmade⟩
    · intro record hrecord
      rw [grantsOn_pass]
      exact hnodup record hrecord
    · intro record hrecord
      rw [grantsOn_pass]
      exact htasks record hrecord

theorem spaced_of_history {calls : List (Option Nat × HostCall)} (hfresh : d.table.Fresh)
    (h : CallPhase.machine.History (d.opening now calls) events last)
    (hkeeps : Keeps host events)
    (hrecord : last.shared.table.hostAt? record = some (HostTable.keyOf host)) :
    Spaced d calls host record events last := by
  have hopening := holds_opening hfresh now calls
  have hlog := hopening.log hfresh.records h record
  have hcredited := credited_of_history hfresh h hkeeps
  have htasks : ((grantsOn HostDesk.table record events).map (·.task)).Perm
      ((List.range calls.length).filter
        (HostCall.isGranted calls (HostTable.keyOf host) last.tasks)) := by
    refine (List.perm_ext_iff_of_nodup (hcredited.nodup record hrecord)
      (List.nodup_range.filter _)).mpr fun i => ?_
    rw [hcredited.tasks record hrecord, List.mem_filter, List.mem_range]
    exact ⟨fun hgranted => ⟨HostCall.lt_of_isGranted hgranted, hgranted⟩, fun hmem => hmem.2⟩
  refine ⟨hlog.spaced, hlog.intervals, hlog.last, htasks, ?_, ?_⟩
  · intro g hg
    rw [hlog.count g hg, ← List.length_map (·.task), htasks.length_eq, List.countP_eq_length_filter]
  · intro a ha due call hcall hwaits hnot g hg
    obtain ⟨earlier, hearlier, hstep⟩ := h.before_of_mem ha
    have hholds := hopening.history hearlier
    obtain ⟨phase, hphase, hturn⟩ := CallPhase.machine.stepAt_eq_some hstep
    obtain ⟨due', call', hcall', hsound⟩ := hholds.tasks _ _ hphase
    rw [hcall] at hcall'
    cases hcall'
    apply (CallPhase.leads_of_step (CallPhase.step_machine hturn).1).gate? hsound hwaits _ hg
    -- A stamp on the record would be a grant of this call.
    have hgained := ((hholds.advance hphase hturn).follows record).gained?_isSome a.task
    cases hstamp : HostTable.stampOn phase.stamp? record with
    | none => rfl
    | some instant =>
      have hsome : (HostTable.stampOn ((CallPhase.discipline calls).stamp? phase) record).isSome =
          true := by
        rw [show (CallPhase.discipline calls).stamp? phase = phase.stamp? from rfl, hstamp]
        rfl
      rw [hsome] at hgained
      obtain ⟨x, hx⟩ := Option.isSome_iff_exists.mp hgained
      have hmem : a.task ∈ (grantsOn HostDesk.table record events).map (·.task) :=
        List.mem_map.mpr ⟨x, List.mem_filterMap.mpr ⟨a, ha, hx⟩, FetchGate.task_of_gained? hx⟩
      rw [hcredited.tasks record hrecord, HostCall.isGranted, Bool.and_eq_true_iff] at hmem
      obtain ⟨phase', hphase', hgranted⟩ := (Option.any_eq_true _ _).mp hmem.2
      rw [hnot phase' hphase'] at hgranted
      cases hgranted

/-- A table with room for the hosts that are named keeps all of them. -/
theorem keeps_of_room {calls : List (Option Nat × HostCall)} {names : List String}
    (hfresh : d.table.Fresh) (h : CallPhase.machine.History (d.opening now calls) events last)
    (hnames : ∀ x ∈ calls, ∀ key ∈ x.2.names?, key ∈ names)
    (hroom : names.length ≤ d.table.cache.capacity) (host : String) : Keeps host events := by
  have hopening := holds_opening hfresh now calls
  have hroomy : (d.opening now calls).shared.table.Roomy names := hfresh.roomy hroom
  intro a ha hmade
  obtain ⟨earlier, hearlier, hstep⟩ := h.before_of_mem ha
  have hafter := hopening.roomy hroomy (hearlier.act hstep) ?_
  · obtain ⟨record, hrecord⟩ := hmade
    exact BoundedCache.contains_iff.mpr ⟨record, hafter.keeps _ record hrecord⟩
  · intro b hb phase hphase key hkey
    obtain ⟨_, hbefore, -⟩ := (hearlier.act hstep).before_of_mem hb
    obtain ⟨due, call, hcall, hsound⟩ := (hopening.history hbefore).tasks _ _ hphase
    exact hnames _ (List.mem_of_getElem? hcall) key (hsound.named key hkey)

/-- A call that is about to look for the record of a host, and how it goes on with the record. -/
inductive Finds (now : Nat) (host : String) : CallPhase → (Nat → CallPhase) → Prop where
  | wait (timeout : Option Nat) : Finds now host (.waiting (.start host timeout) none) fun record =>
    .waiting (.atGate record (timeout.map (now + ·))) none
  | lookUp : Finds now host (.looking (.start host)) fun record => .looking (.found record)

theorem Finds.stepAt {c : Configuration CallPhase HostDesk} {i record : Nat} {host : String}
    {phase : CallPhase} {next : Nat → CallPhase} {t : HostTable} (h : Finds c.now host phase next)
    (hphase : c.tasks[i]? = some phase) (hfind : c.shared.table.find host = (record, t)) :
    CallPhase.machine.stepAt c i =
      some { phase := next record, shared := { c.shared with table := t } } := by
  have hstep : CallPhase.machine.stepAt c i = some
      { phase := next (c.shared.table.find host).1
        shared := { c.shared with table := (c.shared.table.find host).2 } } := by
    rw [Machine.stepAt, hphase]
    cases h <;> rfl
  rw [hfind] at hstep
  exact hstep

def config (now : Nat) (tasks : List CallPhase) (t : HostTable) :
    Configuration CallPhase HostDesk where
  now := now
  tasks := tasks
  shared := { table := t }

theorem Finds.history {now record : Nat} {t t' : HostTable} {host : String} {phase : CallPhase}
    {next : Nat → CallPhase} (h : Finds now host phase next) (tasks : List CallPhase) (task : Nat)
    (hphase : tasks[task]? = some phase) (hfind : t.find host = (record, t')) :
    ∃ events, CallPhase.machine.History (config now tasks t) events
      (config now (tasks.set task (next record)) t') := by
  have hhistory := (Machine.History.refl (config now tasks t)).act (h.stepAt hphase hfind)
  rw [Configuration.after, List.append_nil] at hhistory
  exact ⟨_, hhistory⟩

/-- A table of one host for two calls to wait for, with an interval of eight nanoseconds. -/
def single : HostDesk where
  table := {
    minInterval := 8
    service := fun _ _ => { answer := .ok none }
    jitter := .seeded 0
    cache := .empty 1 }

def twins : List (Option Nat × HostCall) :=
  [(none, .wait "a" none none), (none, .wait "A" none none)]

namespace Twins

def table (cache : LruCache String Nat) (records : List HostRecord) : HostTable :=
  { single.table with cache, records }

def granted (instant grants : Nat) : HostRecord :=
  { single.table.fresh "a" with gate := { minInterval := 8, lastGrant := some instant, grants } }

theorem first_granted (cache : LruCache String Nat) :
    ∃ events, CallPhase.machine.History
      (config 0 [.waiting (.atGate 0 none) none, .coming none (.wait "A" none none)]
        (table cache [single.table.fresh "a"])) events
      (config 0 [.finished (.verdict true) 0, .waiting (.start "A" none) none]
        (table cache [granted 0 1])) :=
  ⟨_, CallPhase.machine.history_follow (.refl _) (List.replicate 5 (.inl 0) ++ [.inl 1])⟩

theorem second_sleeps (cache : LruCache String Nat) :
    ∃ events, CallPhase.machine.History
      (config 0 [.finished (.verdict true) 0, .waiting (.atGate 0 none) none]
        (table cache [granted 0 1])) events
      (config 0 [.finished (.verdict true) 0, .waiting (.asleep 0 none 8) none]
        (table cache [granted 0 1])) :=
  ⟨_, CallPhase.machine.history_follow (.refl _) (List.replicate 3 (.inl 1))⟩

theorem second_granted (cache : LruCache String Nat) :
    ∃ events, CallPhase.machine.History
      (config 0 [.finished (.verdict true) 0, .waiting (.asleep 0 none 8) none]
        (table cache [granted 0 1])) events
      (config 8 [.finished (.verdict true) 0, .finished (.verdict true) 8]
        (table cache [granted 8 2])) :=
  ⟨_, CallPhase.machine.history_follow (.refl _) (.inr 8 :: List.replicate 6 (.inl 1))⟩

theorem keyOf_eq : HostTable.keyOf "A" = HostTable.keyOf "a" := by decide +kernel

/-- The first call is granted the host right away. The second finds the gate shut, sleeps until it
opens, and is granted the host then. -/
theorem history : ∃ events cache, CallPhase.machine.History (single.opening 0 twins) events
    (config 8 [.finished (.verdict true) 0, .finished (.verdict true) 8]
      (table cache [granted 8 2])) := by
  have hpeek : single.table.cache.peek (HostTable.keyOf "a") = none := Std.HashMap.getElem?_empty
  have hroom : single.table.cache.size < single.table.cache.capacity := by decide
  let cache := (single.table.cache.getOrCreate (HostTable.keyOf "a") 0).2
  have hkept : cache.peek (HostTable.keyOf "A") = some 0 := by
    rw [keyOf_eq, BoundedCache.peek, BoundedCache.entries_getOrCreate hpeek hroom]
    exact Std.HashMap.getElem?_insert_self
  let cache' : LruCache String Nat :=
    { cache with policy := EvictionPolicy.touch cache.policy (HostTable.keyOf "A") }
  have hmade : (table single.table.cache []).find "a" =
      (0, table cache [single.table.fresh "a"]) := HostTable.find_of_none hpeek
  have hfound : (table cache [granted 0 1]).find "A" = (0, table cache' [granted 0 1]) :=
    HostTable.find_of_peek hkept
  have hcomes : CallPhase.machine.History (single.opening 0 twins) _
      (config 0 [.waiting (.start "a" none) none, .coming none (.wait "A" none none)]
        (table single.table.cache [])) :=
    CallPhase.machine.history_follow (.refl _) [.inl 0]
  obtain ⟨_, hfirst⟩ :=
    (Finds.wait none).history [_, .coming none (.wait "A" none none)] 0 rfl hmade
  obtain ⟨_, hgranted⟩ := first_granted cache
  obtain ⟨_, hsecond⟩ := (Finds.wait none).history [.finished (.verdict true) 0, _] 1 rfl hfound
  obtain ⟨_, hsleeps⟩ := second_sleeps cache'
  obtain ⟨_, hwakes⟩ := second_granted cache'
  exact ⟨_, cache', ((((hcomes.trans hfirst).trans hgranted).trans hsecond).trans hsleeps).trans
    hwakes⟩

end Twins

/-- Two calls for a host whose names differ in case get its two grants. -/
theorem spaced_twins : ∃ events last, single.table.Fresh ∧
    CallPhase.machine.History (single.opening 0 twins) events last ∧ Keeps "A" events ∧
      last.shared.table.hostAt? 0 = some (HostTable.keyOf "A") ∧
        (last.shared.table.gate? 0).map (·.grants) = some 2 ∧
          Spaced single twins "A" 0 events last := by
  obtain ⟨events, cache, h⟩ := Twins.history
  have hfresh : single.table.Fresh := ⟨rfl, fun _ => Std.HashMap.getElem?_empty⟩
  have hkeeps : Keeps "A" events := by
    have hnames : ∀ x ∈ twins, ∀ key ∈ x.2.names?, key ∈ [HostTable.keyOf "a"] := by
      simp [twins, HostCall.names?, Twins.keyOf_eq]
    exact keeps_of_room hfresh h hnames (Nat.le_refl 1) "A"
  have hrecord : (Twins.table cache [Twins.granted 8 2]).hostAt? 0 =
      some (HostTable.keyOf "A") := by
    rw [Twins.keyOf_eq]
    rfl
  exact ⟨events, _, hfresh, h, hkeeps, hrecord, rfl, spaced_of_history hfresh h hkeeps hrecord⟩

end HostDesk

end PoliteCrawl

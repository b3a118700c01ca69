import PoliteCrawl.Proofs.Crawl.Needs

/-!
Who waits for whom in a crawl. The reader waits for tasks of items, these for the holder of the lock
of a look-up or of a gate, the holder of the lock of a look-up at most for that of a gate, and
whoever holds the lock of a gate for nobody. So nobody waits in a circle, and a crawl goes on for as
long as its questions are answered.
-/

namespace PoliteCrawl

variable {ψ ε : Type}

namespace Need

def isHeld (c : Configuration (CrawlTask ψ) (CrawlState ε)) (task : Nat) : Need → Bool
  | slot | quiet => c.tasks[task]?.any (·.isUnfinished)
  | lock kind record => (c.shared.hosts.lockAt kind record).isHeldBy task

/-- Whoever has what is needed needs at most something of a lower rank. -/
def rank : Need → Nat
  | slot | quiet => 3
  | lock .robots _ => 2
  | lock .gate _ => 1

end Need

namespace CrawlTask

def need? : CrawlTask ψ → Option Need
  | reader phase => phase.need?
  | item phase => phase.need?

def missing? (c : Configuration (CrawlTask ψ) (CrawlState ε)) (task : Nat) : Option Need :=
  (c.tasks[task]?.bind (·.need?)).filter fun need => !need.isMet c.shared task

/-- A task is without something that another one has. -/
def WaitsFor (c : Configuration (CrawlTask ψ) (CrawlState ε)) (task other : Nat) : Prop :=
  ∃ need, missing? c task = some need ∧ need.isHeld c other = true

/-- A task that waits for no other: it can go on, or it rests. -/
structure Going (plan : CrawlPlan ψ ε) (c : Configuration (CrawlTask ψ) (CrawlState ε))
    (task : Nat) : Prop where
  missing : missing? c task = none
  goes : ((machine plan).stepAt c task).isSome = true ∨
    ∃ phase, c.tasks[task]? = some (.item phase) ∧ phase.Resting c.now

/-- How many tasks there may be at most after a task, each of which waits for the next. -/
def rank (c : Configuration (CrawlTask ψ) (CrawlState ε)) (task : Nat) : Nat :=
  (missing? c task).elim 0 Need.rank

variable {plan : CrawlPlan ψ ε} {c : Configuration (CrawlTask ψ) (CrawlState ε)}
  {task other record : Nat} {need : Need}

theorem missing?_eq_some : missing? c task = some need ↔
    ∃ phase, c.tasks[task]? = some phase ∧ phase.need? = some need ∧
      need.isMet c.shared task = false := by
  rw [missing?, Option.filter_eq_some_iff, Option.bind_eq_some_iff, Bool.not_eq_true']
  constructor
  · rintro ⟨⟨phase, hphase, hneed⟩, hmet⟩
    exact ⟨phase, hphase, hneed, hmet⟩
  · rintro ⟨phase, hphase, hneed, hmet⟩
    exact ⟨⟨phase, hphase, hneed⟩, hmet⟩

theorem isMet_of_missing? {phase : CrawlTask ψ} (hphase : c.tasks[task]? = some phase)
    (h : missing? c task = none) (hneed : phase.need? = some need) :
    need.isMet c.shared task = true := by
  cases hmet : need.isMet c.shared task with
  | true => rfl
  | false =>
    rw [missing?_eq_some.mpr ⟨phase, hphase, hneed, hmet⟩] at h
    cases h

theorem stepAt_isSome {phase : ItemPhase ψ} (hphase : c.tasks[task]? = some (.item phase))
    (h : (phase.step plan c.now task c.shared).isSome = true) :
    ((machine plan).stepAt c task).isSome = true := by
  rw [Machine.stepAt, hphase]
  exact Option.isSome_map.trans h

theorem item_of_seat {kind : LockKind} (h : (seatAt c kind record task).isSome = true) :
    ∃ phase : ItemPhase ψ, c.tasks[task]? = some (.item phase) ∧
      (phase.seats kind record).isSome = true := by
  rw [seatAt] at h
  cases hphase : c.tasks[task]? with
  | none => simp [hphase] at h
  | some phase =>
    rw [hphase] at h
    cases phase with
    | reader phase => cases h
    | item phase => exact ⟨phase, rfl, h⟩

/-- What is another's is that of a task of an item that has not finished. -/
theorem item_of_isHeld (hseated : Seated c) (h : need.isHeld c task = true) :
    ∃ phase : ItemPhase ψ, c.tasks[task]? = some (.item phase) ∧ phase.isFinished = false := by
  cases need with
  | slot | quiet =>
    obtain ⟨phase, hphase, hunfinished⟩ := (Option.any_eq_true _ _).mp h
    cases phase with
    | reader phase => cases hunfinished
    | item phase => exact ⟨phase, hphase, by simpa [isUnfinished] using hunfinished⟩
  | lock kind record =>
    obtain ⟨phase, hphase, hseat⟩ := item_of_seat ((hseated kind record).of_isHeldBy h)
    refine ⟨phase, hphase, ?_⟩
    cases phase with
    | finished => cases hseat
    | _ => rfl

/-- The holder of the lock of a gate can go on, and needs nothing. -/
theorem of_holdsGate (hgates : (discipline plan).Holds c) (hseated : Seated c)
    (h : c.shared.hosts.holdsGate record task = true) :
    ((machine plan).stepAt c task).isSome = true ∧ missing? c task = none := by
  have hheld := h
  rw [HostTable.holdsGate_eq_lockAt] at hheld
  obtain ⟨phase, hphase, hseat⟩ := item_of_seat ((hseated .gate record).of_isHeldBy hheld)
  have hsound : phase.Sound c.now task c.shared.hosts := hgates.tasks task _ hphase
  refine ⟨stepAt_isSome hphase (ItemPhase.step_isSome_of_holdsGate hsound hseat h), ?_⟩
  apply Option.eq_none_iff_forall_ne_some.mpr
  intro need hmissing
  obtain ⟨_, heq, hneed, hmet⟩ := missing?_eq_some.mp hmissing
  rw [hphase] at heq
  cases heq
  rw [phase.stands.gate hseat hneed] at hmet
  exact absurd (hheld.symm.trans hmet) (by simp)

/-- The holder of the lock of a look-up is past the valve, and needs at most the lock of a gate. -/
theorem of_holdsRobots (hseated : Seated c) (h : c.shared.hosts.holdsRobots record task = true) :
    (∃ candidate lookup, c.tasks[task]? = some (.item (.looking candidate lookup)) ∧
      lookup.record? = some record) ∧
    ∀ need, missing? c task = some need → ∃ record', need = .lock .gate record' := by
  rw [HostTable.holdsRobots_eq_lockAt] at h
  obtain ⟨phase, hphase, hseat⟩ := item_of_seat ((hseated .robots record).of_isHeldBy h)
  refine ⟨?_, ?_⟩
  · obtain ⟨candidate, lookup, rfl, hrecord⟩ := ItemPhase.looking_of_seat hseat
    exact ⟨candidate, lookup, hphase, hrecord⟩
  · intro need hmissing
    obtain ⟨_, heq, hneed, hmet⟩ := missing?_eq_some.mp hmissing
    rw [hphase] at heq
    cases heq
    rcases phase.stands.robots hseat hneed with rfl | hgate
    · exact absurd (h.symm.trans hmet) (by simp)
    · exact hgate

/-- A task of an item lacks nothing but a lock. -/
theorem lock_of_missing? {phase : ItemPhase ψ} (hphase : c.tasks[task]? = some (.item phase))
    (h : missing? c task = some need) :
    ∃ kind record, need = .lock kind record ∧ (seatAt c kind record task).isSome = true := by
  obtain ⟨_, heq, hneed, -⟩ := missing?_eq_some.mp h
  rw [hphase] at heq
  cases heq
  have hstands : Stands phase.seats (some need) := by
    rw [← show phase.need? = some need from hneed]
    exact phase.stands
  obtain ⟨kind, record, rfl, hseat⟩ := hstands.lock
  refine ⟨kind, record, rfl, ?_⟩
  rw [seatAt_of_getElem? hphase]
  exact Option.isSome_of_eq_some hseat

/-- Along a chain of tasks that wait for each other the rank goes down. -/
theorem WaitsFor.rank_lt (h : WaitsFor c task other) (hgates : (discipline plan).Holds c)
    (hseated : Seated c) : rank c other < rank c task := by
  obtain ⟨need, hmissing, hheld⟩ := h
  have hrank : rank c task = need.rank := by rw [rank, hmissing, Option.elim_some]
  -- whoever has what is missing is the task of an item, and those wait for locks only
  have hitem : rank c other ≤ 2 := by
    obtain ⟨phase, hphase, -⟩ := item_of_isHeld hseated hheld
    cases hother : missing? c other with
    | none => simp [rank, hother]
    | some need' =>
      obtain ⟨kind, record, rfl, -⟩ := lock_of_missing? hphase hother
      cases kind <;> simp [rank, hother, Need.rank]
  rw [hrank]
  cases need with
  | slot | quiet => exact Nat.lt_succ_of_le hitem
  | lock kind record =>
    cases kind with
    | robots =>
      rw [Need.isHeld, ← HostTable.holdsRobots_eq_lockAt] at hheld
      cases hother : missing? c other with
      | none => simp [rank, hother, Need.rank]
      | some need' =>
        obtain ⟨record', rfl⟩ := (of_holdsRobots hseated hheld).2 need' hother
        simp [rank, hother, Need.rank]
    | gate =>
      rw [Need.isHeld, ← HostTable.holdsGate_eq_lockAt] at hheld
      simp [rank, (of_holdsGate hgates hseated hheld).2, Need.rank]

theorem rank_lt_four (c : Configuration (CrawlTask ψ) (CrawlState ε)) (task : Nat) :
    rank c task < 4 := by
  cases hmissing : missing? c task with
  | none => simp [rank, hmissing]
  | some need =>
    rw [rank, hmissing, Option.elim_some]
    cases need with
    | slot | quiet => exact Nat.le_refl 4
    | lock kind record => cases kind <;> simp [Need.rank]

/-- Tasks that wait for each other are different ones, and few. -/
theorem nodup_of_isChain (hgates : (discipline plan).Holds c) (hseated : Seated c)
    {path : List Nat} (h : path.IsChain (WaitsFor c)) : path.Nodup ∧ path.length ≤ 4 := by
  -- ranks fall along the chain, and there are four of them
  have hranks : (path.map (rank c)).Pairwise (· > ·) := by
    apply List.IsChain.pairwise
    rw [List.isChain_map]
    exact h.imp fun _ _ hwaits => hwaits.rank_lt hgates hseated
  have hnodup : (path.map (rank c)).Nodup := hranks.imp Nat.ne_of_gt
  refine ⟨List.Pairwise.of_map (rank c) (fun _ _ hne heq => hne (congrArg _ heq)) hnodup, ?_⟩
  have hsubset : path.map (rank c) ⊆ List.range 4 := by
    intro _ hmem
    obtain ⟨task, -, rfl⟩ := List.mem_map.mp hmem
    exact List.mem_range.mpr (rank_lt_four c task)
  simpa using (List.subperm_of_subset hnodup hsubset).length_le

theorem going_of_item (hgates : (discipline plan).Holds c) {phase : ItemPhase ψ}
    (hphase : c.tasks[task]? = some (.item phase)) (hgoes : phase.isFinished = false)
    (hmissing : missing? c task = none) : Going plan c task where
  missing := hmissing
  goes := by
    have hsound : phase.Sound c.now task c.shared.hosts := hgates.tasks task _ hphase
    have hmet : ∀ need, phase.need? = some need → need.isMet c.shared task = true :=
      fun need hneed => isMet_of_missing? hphase hmissing hneed
    rcases ItemPhase.goes hsound hmet hgoes with hsome | hresting
    · exact .inl (stepAt_isSome hphase hsome)
    · exact .inr ⟨phase, hphase, hresting⟩

/-- From a task that waits, others that each waits for the next lead to one that waits for none. -/
theorem exists_chain (hgates : (discipline plan).Holds c) (hseated : Seated c)
    (hleads : ∀ task need, missing? c task = some need → ∃ other, need.isHeld c other = true)
    (hmissing : missing? c task = some need) :
    ∃ path last, (task :: (path ++ [last])).IsChain (WaitsFor c) ∧ Going plan c last := by
  generalize hrank : rank c task = n
  induction n using Nat.strong_induction_on generalizing task need with
  | _ n ih =>
    obtain ⟨other, hheld⟩ := hleads task need hmissing
    have hwaits : WaitsFor c task other := ⟨need, hmissing, hheld⟩
    cases hother : missing? c other with
    | none =>
      obtain ⟨phase, hphase, hgoes⟩ := item_of_isHeld hseated hheld
      exact ⟨[], other, .cons_cons hwaits (List.isChain_singleton _),
        going_of_item hgates hphase hgoes hother⟩
    | some need' =>
      obtain ⟨path, last, hchain, hgoing⟩ :=
        ih _ (hrank ▸ hwaits.rank_lt hgates hseated) hother rfl
      exact ⟨other :: path, last, .cons_cons hwaits hchain, hgoing⟩

end CrawlTask

namespace Muster

variable {plan : CrawlPlan ψ ε} {items done : List WorkItem} {reader : ReaderPhase}
  {crew : List (Errand ψ)} {c : Configuration (CrawlTask ψ) (CrawlState ε)}

theorem exists_unfinished (h : Muster plan items done reader crew c.tasks)
    (hpos : 0 < crew.countP (!·.phase.isFinished)) :
    ∃ task : Nat, c.tasks[task]?.any CrawlTask.isUnfinished = true := by
  obtain ⟨e, he, hgoes⟩ := List.countP_pos_iff.mp hpos
  obtain ⟨k, hk⟩ := List.getElem?_of_mem he
  refine ⟨k + 1, ?_⟩
  rw [h.standing, List.getElem?_cons_succ, List.getElem?_map, hk]
  exact hgoes

end Muster

namespace Occupied

variable {plan : CrawlPlan ψ ε} {items done : List WorkItem} {reader : ReaderPhase}
  {crew : List (Errand ψ)} {c : Configuration (CrawlTask ψ) (CrawlState ε)} {total before : Nat}

/-- What is missing to a task is another's. -/
theorem exists_isHeld {task : Nat} {need : Need} (h : Occupied total before reader crew c.shared)
    (hmuster : Muster plan items done reader crew c.tasks) (hseated : CrawlTask.Seated c)
    (htotal : 1 ≤ total) (hwaiting : c.shared.slots.waiting = true → c.shared.slots.free = 0)
    (hmissing : CrawlTask.missing? c task = some need) :
    ∃ other, need.isHeld c other = true := by
  obtain ⟨phase, hphase, hneed, hmet⟩ := CrawlTask.missing?_eq_some.mp hmissing
  cases phase with
  | item phase =>
    obtain ⟨kind, record, rfl, hseat⟩ := CrawlTask.lock_of_missing? hphase hmissing
    exact (hseated kind record).exists_holder hseat
  | reader phase =>
    obtain rfl := hmuster.eq_of_reader hphase
    cases phase with
    | inLine item lines =>
      cases hneed
      have hassigned : c.shared.slots.assigned = false := hmet
      have hfits : c.shared.slots.waiting = !c.shared.slots.assigned := h.fits
      rw [hassigned] at hfits
      have hfree := hwaiting hfits
      -- No slot is left, so that all of them are taken.
      have hslots := h.slots
      rw [Slots.left, hassigned, hfree, Bool.toNat_false] at hslots
      exact hmuster.exists_unfinished (by omega)
    | draining =>
      cases hneed
      have hsome : c.shared.unfinished ≠ 0 := by simpa [Need.isMet] using hmet
      rw [h.unfinished] at hsome
      exact hmuster.exists_unfinished (Nat.pos_of_ne_zero hsome)
    | _ => cases hneed

end Occupied

/-- A configuration of a crawl in which nobody waits in a circle: a task that waits for others leads
to one that waits for none, by tasks each of which waits for the next. -/
structure Crawler.Unknotted (c : Crawler ψ ε)
    (last : Configuration (CrawlTask ψ) (CrawlState ε)) : Prop where
  gates : ∀ record task, last.shared.hosts.holdsGate record task = true →
    ((CrawlTask.machine c.plan).stepAt last task).isSome = true
  robots : ∀ record task, last.shared.hosts.holdsRobots record task = true →
    (∃ candidate lookup, last.tasks[task]? = some (.item (.looking candidate lookup)) ∧
      lookup.record? = some record) ∧
    ∀ need, CrawlTask.missing? last task = some need → ∃ record', need = .lock .gate record'
  held : ∀ task need, CrawlTask.missing? last task = some need →
    ∃ other, need.isHeld last other = true
  stops : ∀ task other, CrawlTask.WaitsFor last task other →
    (CrawlTask.missing? last other).isSome = true ∨ CrawlTask.Going c.plan last other
  chains : ∀ path : List Nat, path.IsChain (CrawlTask.WaitsFor last) →
    path.Nodup ∧ path.length ≤ 4
  reaches : ∀ task, (CrawlTask.missing? last task).isSome = true → ∃ path other,
    (task :: (path ++ [other])).IsChain (CrawlTask.WaitsFor last) ∧
      CrawlTask.Going c.plan last other
  goes : last.tasks[readerTask]?.bind (·.result?) = none →
    ∃ task, CrawlTask.Going c.plan last task
  wakes : c.Answering → ∀ task, CrawlTask.Going c.plan last task → ∃ later, last.now ≤ later ∧
    ((CrawlTask.machine c.plan).stepAt { last with now := later } task).isSome = true

namespace Crawler

variable {c : Crawler ψ ε} {s : Settings} {input : List UInt8} {envelope : Envelope}
  {requeue : RequeueStream} {last : Configuration (CrawlTask ψ) (CrawlState ε)}

theorem kept_waiting {total : Nat} (hslots : c.slots = { free := total }) :
    c.Kept input envelope requeue fun _ _ _ _ s =>
      s.slots.waiting = true → s.slots.free = 0 where
  start hwaiting := by
    have hnot : c.slots.waiting = true := hwaiting
    rw [hslots] at hnot
    cases hnot
  reader _ _ h hleads _ := hleads.free h
  errand _ _ h hleads := hleads.free h
  pass h := h

theorem wakes_of_going {events : List (Event (CrawlTask ψ) (CrawlState ε))}
    (h : (CrawlTask.machine c.plan).History (c.start (Input.lines input) envelope requeue) events
      last)
    (hanswering : c.Answering) {task : Nat} (hgoing : CrawlTask.Going c.plan last task) :
    ∃ later, last.now ≤ later ∧
      ((CrawlTask.machine c.plan).stepAt { last with now := later } task).isSome = true := by
  rcases hgoing.goes with hsome | ⟨phase, hphase, hresting⟩
  · exact ⟨last.now, Nat.le_refl _, hsome⟩
  · have hanswered := (hanswering.of_history h).2 task phase hphase
    have hwakes : ∃ later, last.now ≤ later ∧
        (phase.step c.plan later task last.shared).isSome = true := hresting.wakes hanswered
    obtain ⟨later, hle, hsome⟩ := hwakes
    exact ⟨later, hle, CrawlTask.stepAt_isSome (c := { last with now := later }) hphase hsome⟩

theorem unknotted_of_steps (hc : c.Ready s)
    (h : (CrawlTask.machine c.plan).Steps (c.start (Input.lines input) envelope requeue) last) :
    c.Unknotted last := by
  obtain ⟨events, hhistory⟩ := (CrawlTask.machine c.plan).steps_iff_history.mp h
  obtain ⟨done, reader, crew, hmuster, hoccupied⟩ := occupied_of_history hc.slots hhistory
  have hgates := gates_of_history hc.unlocked hhistory
  have hseated := seated_of_history hc.unlocked hhistory
  have hwaiting := (kept_waiting hc.slots).of_muster hhistory hmuster
  -- what is missing is with someone: a lock with its holder, a slot with an unfinished task
  have hheld : ∀ task need, CrawlTask.missing? last task = some need →
      ∃ other, need.isHeld last other = true := fun task need hmissing =>
    hoccupied.exists_isHeld hmuster hseated (Nat.le_max_right _ _) hwaiting hmissing
  have hreaches : ∀ task, (CrawlTask.missing? last task).isSome = true → ∃ path other,
      (task :: (path ++ [other])).IsChain (CrawlTask.WaitsFor last) ∧
        CrawlTask.Going c.plan last other := by
    intro task hmissing
    obtain ⟨need, hneed⟩ := Option.isSome_iff_exists.mp hmissing
    exact CrawlTask.exists_chain hgates hseated hheld hneed
  refine {
    gates := fun record task hholds => (CrawlTask.of_holdsGate hgates hseated hholds).1
    robots := fun record task hholds => CrawlTask.of_holdsRobots hseated hholds
    held := hheld
    stops := ?_
    chains := fun path hchain => CrawlTask.nodup_of_isChain hgates hseated hchain
    reaches := hreaches
    goes := ?_
    wakes := fun hanswering task hgoing => wakes_of_going hhistory hanswering hgoing }
  · rintro task other ⟨need, -, hother⟩
    obtain ⟨phase, hphase, hgoes⟩ := CrawlTask.item_of_isHeld hseated hother
    cases hmissing : CrawlTask.missing? last other with
    | some need' => exact .inl rfl
    | none => exact .inr (CrawlTask.going_of_item hgates hphase hgoes hmissing)
  -- if the reader has to wait itself, the chain from it ends in a task that does not
  · intro hresult
    cases hmissing : CrawlTask.missing? last readerTask with
    | some need =>
      obtain ⟨_, other, -, hgoing⟩ := hreaches readerTask (by rw [hmissing]; rfl)
      exact ⟨other, hgoing⟩
    | none =>
      have hphase : last.tasks[readerTask]? = some (.reader reader) := by
        rw [hmuster.standing]
        rfl
      refine ⟨readerTask, hmissing, .inl ?_⟩
      have hsome : (reader.step c.plan last.shared).isSome = true := by
        apply ReaderPhase.goes
        · intro need hneed
          exact CrawlTask.isMet_of_missing? hphase hmissing hneed
        · rintro result rfl
          rw [hphase] at hresult
          cases hresult
      rw [Machine.stepAt, hphase]
      exact Option.isSome_map.trans hsome

theorem unknotted_crowdedRun : ∃ c, crowded = .ok c ∧ c.Ready oneSlot ∧
    c.Unknotted (crowdedRun c).2 ∧ CrawlTask.missing? (crowdedRun c).2 readerTask = some .slot ∧
      Need.slot.isHeld (crowdedRun c).2 1 = true :=
  ⟨_, rfl, ready_crowded rfl, unknotted_of_steps (ready_crowded rfl) (steps_crowdedRun _),
    by decide +kernel, by decide +kernel⟩

end Crawler

end PoliteCrawl

import PoliteCrawl.Proofs.Crawl.Accounts
import PoliteCrawl.Proofs.Crawl.Setup

namespace PoliteCrawl

variable {ψ ε : Type}

namespace Slots

def left (s : Slots) : Nat := s.free + s.assigned.toNat

/-- What the slots have to do with where the reader stands: it waits for one or has one just while
it is in line, and has one when it is about to start a task. -/
def Fits (s : Slots) : ReaderPhase → Prop
  | .inLine _ _ => s.waiting = !s.assigned
  | .dispatching _ _ => s.waiting = false ∧ s.assigned = true
  | _ => s.waiting = false ∧ s.assigned = false

variable {s : Slots} {reader : ReaderPhase}

theorem left_release (h : s.waiting = true → s.assigned = false) :
    s.release.left = s.left + 1 := by
  unfold release
  split
  · rename_i hwaiting
    simp [left, h hwaiting]
  · simp only [left]
    omega

/-- A slot that is given back goes to the reader only if it waits for one. -/
theorem Fits.release (h : s.Fits reader) :
    s.release.Fits reader ∧ s.release.left = s.left + 1 := by
  cases reader with
  | inLine item lines =>
    refine ⟨?_, left_release ?_⟩
    · have hfits : s.waiting = !s.assigned := h
      cases hwaiting : s.waiting with
      | true => simp [Fits, Slots.release, hwaiting]
      | false => simpa [Fits, Slots.release, hwaiting] using hfits
    · intro hwaiting
      have hfits : s.waiting = !s.assigned := h
      simpa [hwaiting] using hfits
  | _ =>
    have hwaiting : s.waiting = false := h.1
    refine ⟨by simpa [Fits, Slots.release, hwaiting] using h, left_release ?_⟩
    simp [hwaiting]

/-- A reader that asks for a slot has it at once or waits for it. -/
theorem request_fits (item : WorkItem) (lines : List String)
    (h : s.waiting = false ∧ s.assigned = false) :
    s.request.Fits (.inLine item lines) ∧ s.request.left = s.left := by
  obtain ⟨hwaiting, hassigned⟩ := h
  by_cases hfree : s.free = 0
  · simp [Fits, request, left, hfree, hassigned]
  · simp only [Fits, request, left, hfree, hwaiting, hassigned]
    simp
    omega

theorem free_request (s : Slots) (h : s.waiting = true → s.free = 0) :
    s.request.waiting = true → s.request.free = 0 := by
  unfold request
  split
  · intro _
    assumption
  · intro hwaiting
    exact absurd (h hwaiting) ‹_›

theorem free_release (s : Slots) : s.release.waiting = true → s.release.free = 0 := by
  unfold release
  split
  · intro hwaiting
    cases hwaiting
  · intro hwaiting
    exact absurd hwaiting ‹_›

end Slots

namespace ReaderPhase

variable {plan : CrawlPlan ψ ε} {phase phase' : ReaderPhase} {s s' : CrawlState ε}
  {started : List WorkItem}

/-- The reader has nothing to do with the valve. -/
theorem Leads.valve (h : Leads plan phase s phase' s' started) : s'.valve = s.valve := by
  cases h <;> rfl

/-- The reader takes a slot for each item that it starts a task for. -/
theorem Leads.slots (h : Leads plan phase s phase' s' started) (hfits : s.slots.Fits phase) :
    s'.slots.Fits phase' ∧ started.length + s'.slots.left = s.slots.left := by
  cases h with
  | asks item lines =>
    obtain ⟨hfits', hleft⟩ := Slots.request_fits item lines hfits
    exact ⟨hfits', by rw [hleft, List.length_nil, Nat.zero_add]⟩
  | dispatches hassigned =>
    have hwaiting : s.slots.waiting = !s.slots.assigned := hfits
    rw [hassigned] at hwaiting
    exact ⟨⟨hwaiting, hassigned⟩, Nat.zero_add _⟩
  | starts item lines =>
    obtain ⟨hwaiting, hassigned⟩ := hfits
    refine ⟨⟨hwaiting, rfl⟩, ?_⟩
    simp only [Slots.left, Slots.hand, hassigned, List.length_singleton, Bool.toNat_true,
      Bool.toNat_false]
    omega
  | _ => exact ⟨hfits, Nat.zero_add _⟩

/-- The reader only waits for a slot while none is free. -/
theorem Leads.free (h : Leads plan phase s phase' s' started)
    (hfree : s.slots.waiting = true → s.slots.free = 0) :
    s'.slots.waiting = true → s'.slots.free = 0 := by
  cases h with
  | asks item lines => exact s.slots.free_request hfree
  | _ => exact hfree

end ReaderPhase

namespace ItemPhase

def isAdmitted : ItemPhase ψ → Bool
  | entering _ entry => entry.isAdmitted
  | requeueing _ entered => entered
  | rejecting _ | freeing | finished => false
  | _ => true

/-- Whether a fetch goes on: it has been called for, and has not come to an end. -/
def isFetching : ItemPhase ψ → Bool
  | awaiting .. | writing .. => true
  | _ => false

variable {plan : CrawlPlan ψ ε} {now task : Nat} {phase phase' : ItemPhase ψ} {s s' : CrawlState ε}

theorem not_isFinished_of_isAdmitted (h : phase.isAdmitted = true) : phase.isFinished = false := by
  cases phase with
  | finished => cases h
  | _ => rfl

theorem isAdmitted_of_isFetching (h : phase.isFetching = true) : phase.isAdmitted = true := by
  cases phase with
  | awaiting | writing => rfl
  | _ => cases h

/-- A task gives back its slot when it finishes, and not before. -/
theorem Leads.slots (h : Leads plan now task phase s phase' s') :
    s'.slots = if phase'.isFinished then s.slots.release else s.slots := by
  cases h with
  | requeues item entered => cases entered <;> rfl
  | _ => rfl

theorem Leads.free (h : Leads plan now task phase s phase' s')
    (hfree : s.slots.waiting = true → s.slots.free = 0) :
    s'.slots.waiting = true → s'.slots.free = 0 := by
  rw [h.slots]
  split
  · exact s.slots.free_release
  · exact hfree

/-- The valve counts a task in and out as it is admitted and leaves. -/
theorem Leads.inside (h : Leads plan now task phase s phase' s')
    (hinside : phase.isAdmitted = true → 1 ≤ s.valve.inside) :
    s'.valve.inside + phase.isAdmitted.toNat = s.valve.inside + phase'.isAdmitted.toNat := by
  cases h with
  | enters hstep =>
    obtain ⟨hbefore, hafter⟩ := (EntryPhase.leads_of_step hstep).inside
    simp only [isAdmitted, hbefore, hafter, Bool.toNat_false, Nat.add_zero]
  | requeues item entered => cases entered <;> rfl
  | leaves =>
    have hsome := hinside rfl
    show s.valve.inside - 1 + 1 = s.valve.inside
    omega
  | _ => rfl

end ItemPhase

structure Occupied (total before : Nat) (reader : ReaderPhase) (crew : List (Errand ψ))
    (s : CrawlState ε) : Prop where
  slots : crew.countP (!·.phase.isFinished) + s.slots.left = total
  fits : s.slots.Fits reader
  inside : s.valve.inside = before + crew.countP (·.phase.isAdmitted)
  unfinished : s.unfinished = crew.countP (!·.phase.isFinished)
  closed : reader.stage = .closed → s.unfinished = 0

namespace Occupied

variable {plan : CrawlPlan ψ ε} {total before now task : Nat} {reader reader' : ReaderPhase}
  {crew front back : List (Errand ψ)} {e : Errand ψ} {phase' : ItemPhase ψ} {s s' : CrawlState ε}
  {started : List WorkItem}

theorem reader_act (h : Occupied total before reader crew s)
    (hleads : reader.Leads plan s reader' s' started) (place : Nat) :
    Occupied total before reader' (crew ++ started.map (.fresh · place)) s' := by
  obtain ⟨hfits, hleft⟩ := hleads.slots h.fits
  -- The tasks that are started have not finished, and have yet to enter the valve.
  have hunfinished : (crew ++ started.map (Errand.fresh · place)).countP
      (fun e : Errand ψ => !e.phase.isFinished) =
        crew.countP (!·.phase.isFinished) + started.length := by
    rw [List.countP_append, List.countP_map]
    congr 1
    exact List.countP_eq_length.mpr fun _ _ => rfl
  have hadmitted : (crew ++ started.map (Errand.fresh · place)).countP
      (fun e : Errand ψ => e.phase.isAdmitted) = crew.countP (·.phase.isAdmitted) := by
    rw [List.countP_append, List.countP_map, Nat.add_eq_left]
    exact List.countP_eq_zero.mpr fun _ _ => Bool.false_ne_true
  refine ⟨?_, hfits, ?_, ?_, ?_⟩
  · have hslots := h.slots
    rw [hunfinished]
    omega
  · rw [hleads.valve, h.inside, hadmitted]
  · rw [hleads.unfinished, h.unfinished, hunfinished]
  · intro hstage
    obtain ⟨rfl, hbefore⟩ := hleads.closed hstage
    rw [hleads.unfinished, List.length_nil, Nat.add_zero]
    exact hbefore.elim h.closed id

theorem errand_act (h : Occupied total before reader (front ++ e :: back) s)
    (hleads : e.phase.Leads plan now task s phase' s') :
    Occupied total before reader (front ++ { e with phase := phase' } :: back) s' := by
  obtain ⟨hgoes, hunfinished⟩ := hleads.unfinished
  have hleft := Errand.countP_unfinished front back phase' hgoes
  have hadmitted := Errand.countP_phase front back e phase' (·.isAdmitted)
  have hsome : e.phase.isAdmitted = true → 1 ≤ s.valve.inside := by
    intro he
    have hpos : 0 < (front ++ e :: back).countP (·.phase.isAdmitted) :=
      List.countP_pos_iff.mpr ⟨e, by simp, he⟩
    rw [h.inside]
    omega
  have hslots : s'.slots.Fits reader ∧
      s'.slots.left = s.slots.left + phase'.isFinished.toNat := by
    rw [hleads.slots]
    cases phase'.isFinished with
    | true => exact h.fits.release
    | false => exact ⟨h.fits, rfl⟩
  -- what a task gives back is free at once, so that the sums stay as they are
  refine ⟨?_, hslots.1, ?_, ?_, ?_⟩
  · have := h.slots
    rw [hslots.2]
    omega
  · have hinside := hleads.inside hsome
    rw [h.inside] at hinside
    omega
  · rw [hunfinished, h.unfinished]
    omega
  · intro hstage
    rw [hunfinished, h.closed hstage, Nat.zero_sub]

/-- Once the streams are closed no task of an errand is left. -/
theorem not_closed (h : Occupied total before reader (front ++ e :: back) s)
    (hgoes : e.phase.isFinished = false) : reader.stage ≠ .closed := by
  intro hstage
  have hnone := h.unfinished.symm.trans (h.closed hstage)
  simp [hgoes] at hnone

/-- Once the streams are closed all tasks have finished. -/
theorem finished_of_closed (h : Occupied total before reader crew s)
    (hstage : reader.stage = .closed) : ∀ e ∈ crew, e.phase.isFinished = true := by
  intro e he
  have hnone : crew.countP (!·.phase.isFinished) = 0 := h.unfinished.symm.trans (h.closed hstage)
  simpa using List.countP_eq_zero.mp hnone e he

/-- Once the streams are closed all is as it was before. -/
theorem of_closed (h : Occupied total before reader crew s) (hstage : reader.stage = .closed) :
    s.slots = { free := total } ∧ s.valve.inside = before := by
  have hnone : crew.countP (!·.phase.isFinished) = 0 := h.unfinished.symm.trans (h.closed hstage)
  have hadmitted : crew.countP (·.phase.isAdmitted) = 0 := by
    refine List.countP_eq_zero.mpr fun e he hin => ?_
    have hfinished := h.finished_of_closed hstage e he
    simp [ItemPhase.not_isFinished_of_isAdmitted hin] at hfinished
  have hfits : s.slots.waiting = false ∧ s.slots.assigned = false := by
    have hfits := h.fits
    cases reader with
    | flushing | closing | returned => exact hfits
    | _ => cases hstage
  refine ⟨?_, by rw [h.inside, hadmitted, Nat.add_zero]⟩
  have hslots := h.slots
  rw [hnone, Slots.left, hfits.2, Bool.toNat_false, Nat.zero_add, Nat.add_zero] at hslots
  cases hs : s.slots with
  | mk free waiting assigned =>
    rw [hs] at hfits hslots
    obtain ⟨rfl, rfl⟩ := hfits
    rw [← hslots]

end Occupied

namespace Crawler

variable {c : Crawler ψ ε} {total : Nat} {input : List UInt8} {envelope : Envelope}
  {requeue : RequeueStream}

theorem kept_occupied (hslots : c.slots = { free := total }) :
    c.Kept input envelope requeue fun _ reader crew _ s =>
      Occupied total c.valve.inside reader crew s where
  start := by
    refine ⟨?_, ?_, rfl, rfl, fun _ => rfl⟩
    · show 0 + c.slots.left = total
      rw [hslots, Nat.zero_add]
      rfl
    · show c.slots.waiting = false ∧ c.slots.assigned = false
      rw [hslots]
      exact ⟨rfl, rfl⟩
  reader _ _ h hleads _ := h.reader_act hleads _
  errand _ _ h hleads := h.errand_act hleads
  pass h := h

theorem occupied_of_history (hslots : c.slots = { free := total })
    {events : List (Event (CrawlTask ψ) (CrawlState ε))}
    {last : Configuration (CrawlTask ψ) (CrawlState ε)}
    (h : (CrawlTask.machine c.plan).History (c.start (Input.lines input) envelope requeue) events
      last) :
    ∃ done reader crew,
      Muster c.plan (Input.items c.plan.format input) done reader crew last.tasks ∧
        Occupied total c.valve.inside reader crew last.shared :=
  (kept_occupied hslots).of_history h

theorem occupied_of_muster (hslots : c.slots = { free := total })
    {events : List (Event (CrawlTask ψ) (CrawlState ε))}
    {last : Configuration (CrawlTask ψ) (CrawlState ε)} {done : List WorkItem}
    {reader : ReaderPhase} {crew : List (Errand ψ)}
    (h : (CrawlTask.machine c.plan).History (c.start (Input.lines input) envelope requeue) events
      last)
    (hmuster : Muster c.plan (Input.items c.plan.format input) done reader crew last.tasks) :
    Occupied total c.valve.inside reader crew last.shared :=
  (kept_occupied hslots).of_muster h hmuster

/-- When a run has returned the tasks of all items have finished. -/
theorem finished_of_returned (hslots : c.slots = { free := total })
    {events : List (Event (CrawlTask ψ) (CrawlState ε))}
    {last : Configuration (CrawlTask ψ) (CrawlState ε)}
    (h : (CrawlTask.machine c.plan).History (c.start (Input.lines input) envelope requeue) events
      last)
    {result : Except CrawlError CrawlSummary}
    (hreturned : last.tasks[readerTask]?.bind (·.result?) = some result) {task : Nat}
    {phase : ItemPhase ψ} (hphase : last.tasks[task]? = some (.item phase)) :
    phase = .finished := by
  obtain ⟨done, reader, crew, hmuster, hoccupied⟩ := occupied_of_history hslots h
  obtain rfl := hmuster.reader_of_result hreturned
  obtain ⟨front, e, back, rfl, -, rfl⟩ := hmuster.errand_of_item hphase
  exact ItemPhase.eq_finished (hoccupied.finished_of_closed rfl e List.mem_append_cons_self)

/-- Between runs all slots are free. -/
theorem Ready.slots {s : Settings} {ψ ε : Type} {c : Crawler ψ ε} (h : Ready s c) :
    c.slots = { free := max s.fetch.maxConcurrent 1 } := by
  induction h with
  | made hc => exact (ofSettings_eq_ok hc).slots
  | refitted _ _ _ _ ih => exact ih
  | ran _ hsteps hreturned ih =>
    obtain ⟨events, hhistory⟩ := (CrawlTask.machine _).steps_iff_history.mp hsteps
    obtain ⟨done, reader, crew, hmuster, hoccupied⟩ := occupied_of_history ih hhistory
    have hreader := hmuster.reader_of_result hreturned
    exact (hoccupied.of_closed (by rw [hreader]; rfl)).1

end Crawler

namespace CrawlTask

def isUnfinished : CrawlTask ψ → Bool
  | reader _ => false
  | item phase => !phase.isFinished

def isAdmitted : CrawlTask ψ → Bool
  | reader _ => false
  | item phase => phase.isAdmitted

def isFetching : CrawlTask ψ → Bool
  | reader _ => false
  | item phase => phase.isFetching

theorem isUnfinished_of_isAdmitted {task : CrawlTask ψ} (h : task.isAdmitted = true) :
    task.isUnfinished = true := by
  cases task with
  | reader phase => cases h
  | item phase =>
    have hgoes := ItemPhase.not_isFinished_of_isAdmitted h
    simp [isUnfinished, hgoes]

theorem isAdmitted_of_isFetching {task : CrawlTask ψ} (h : task.isFetching = true) :
    task.isAdmitted = true := by
  cases task with
  | reader phase => cases h
  | item phase => exact ItemPhase.isAdmitted_of_isFetching h

end CrawlTask

/-- A configuration of a crawl in which all slots and places in the valve are accounted for: they
bound the work in flight, and are all given back in the end. -/
structure Crawler.Balanced (c : Crawler ψ ε) (total : Nat)
    (last : Configuration (CrawlTask ψ) (CrawlState ε)) : Prop where
  slots : last.tasks.countP (·.isUnfinished) + last.shared.slots.free +
    last.shared.slots.assigned.toNat = total
  assigned : last.shared.slots.assigned = true → ∃ item lines,
    last.tasks[readerTask]? = some (.reader (.inLine item lines)) ∨
      last.tasks[readerTask]? = some (.reader (.dispatching item lines))
  inside : last.shared.valve.inside = c.valve.inside + last.tasks.countP (·.isAdmitted)
  admitted : last.tasks.countP (·.isAdmitted) ≤ last.tasks.countP (·.isUnfinished)
  fetching : last.tasks.countP (·.isFetching) ≤ last.tasks.countP (·.isAdmitted)
  within : last.tasks.countP (·.isFetching) ≤ total
  returned : ∀ result, last.tasks[readerTask]?.bind (·.result?) = some result →
    last.shared.slots = { free := total } ∧ last.shared.valve.inside = c.valve.inside

namespace Crawler

variable {s : Settings} {c : Crawler ψ ε} {input : List UInt8} {envelope : Envelope}
  {requeue : RequeueStream} {last : Configuration (CrawlTask ψ) (CrawlState ε)}

theorem balanced_of_steps (hc : c.Ready s)
    (h : (CrawlTask.machine c.plan).Steps (c.start (Input.lines input) envelope requeue) last) :
    c.Balanced (max s.fetch.maxConcurrent 1) last := by
  obtain ⟨events, hhistory⟩ := (CrawlTask.machine c.plan).steps_iff_history.mp h
  obtain ⟨done, reader, crew, hmuster, hoccupied⟩ := occupied_of_history hc.slots hhistory
  have hunfinished := hmuster.countP_tasks (p := (·.isUnfinished)) rfl
  have hadmitted := hmuster.countP_tasks (p := (·.isAdmitted)) rfl
  have hslots : last.tasks.countP (·.isUnfinished) + last.shared.slots.free +
      last.shared.slots.assigned.toNat = max s.fetch.maxConcurrent 1 := by
    rw [hunfinished, Nat.add_assoc]
    exact hoccupied.slots
  have hle : last.tasks.countP (·.isAdmitted) ≤ last.tasks.countP (·.isUnfinished) :=
    List.countP_mono_left fun task _ => CrawlTask.isUnfinished_of_isAdmitted
  have hfetching : last.tasks.countP (·.isFetching) ≤ last.tasks.countP (·.isAdmitted) :=
    List.countP_mono_left fun task _ => CrawlTask.isAdmitted_of_isFetching
  refine ⟨hslots, ?_, ?_, hle, hfetching, by omega, ?_⟩
  · intro hassigned
    have hfits := hoccupied.fits
    rw [hmuster.standing]
    cases reader with
    | inLine item lines => exact ⟨item, lines, .inl rfl⟩
    | dispatching item lines => exact ⟨item, lines, .inr rfl⟩
    | _ =>
      have hnot : last.shared.slots.assigned = false := hfits.2
      rw [hassigned] at hnot
      cases hnot
  · rw [hadmitted]
    exact hoccupied.inside
  · intro result hreturned
    have hreader := hmuster.reader_of_result hreturned
    exact hoccupied.of_closed (by rw [hreader]; rfl)

def oneSlot : Settings where
  fetch := { maxConcurrent := 1 }
  streams := { rawInput := true }

/-- A crawler with one slot whose valve has three items inside and asks nothing of more. -/
def crowded : Except CrawlError (Crawler Unit Unit) :=
  (ofSettings oneSlot (fun _ _ => { answer := .ok none })
    (fun _ _ => { result := .failed .writerClosed }) (.seeded 0) (.seeded 0)).map
      (·.withValve { threshold := 0, baseWait := 0, jitter := .seeded 0, inside := 3 }
        (.own (.fixed true)) ())

def twoHosts : List UInt8 := "http://[::1]/\nhttp://[::2]/\n".toUTF8.toList

/-- The reader starts the task of the first item, which enters the valve, and has to wait for a slot
for the second. -/
def crowdedRun (c : Crawler Unit Unit) : List (Event (CrawlTask Unit) (CrawlState Unit)) ×
    Configuration (CrawlTask Unit) (CrawlState Unit) :=
  (CrawlTask.machine c.plan).follow (c.start (Input.lines twoHosts) (.start {}) (.disabled .raw)) []
    (List.replicate 8 (.inl 0) ++ List.replicate 6 (.inl 1))

theorem steps_crowdedRun (c : Crawler Unit Unit) : (CrawlTask.machine c.plan).Steps
    (c.start (Input.lines twoHosts) (.start {}) (.disabled .raw)) (crowdedRun c).2 := by
  apply (CrawlTask.machine c.plan).steps_iff_history.mpr
  exact ⟨_, (CrawlTask.machine c.plan).history_follow (.refl _) _⟩

theorem ready_crowded {c : Crawler Unit Unit} (h : crowded = .ok c) : c.Ready oneSlot := by
  cases h
  exact .refitted (.made rfl) _ _ _

theorem balanced_crowdedRun : ∃ c, crowded = .ok c ∧ c.Ready oneSlot ∧
    c.Balanced (max oneSlot.fetch.maxConcurrent 1) (crowdedRun c).2 ∧
      (crowdedRun c).2.tasks.countP (·.isAdmitted) = 1 ∧
        (crowdedRun c).2.shared.slots = { free := 0, waiting := true } ∧
          (crowdedRun c).2.shared.valve.inside = 4 :=
  ⟨_, rfl, ready_crowded rfl, balanced_of_steps (ready_crowded rfl) (steps_crowdedRun _),
    by decide +kernel, by decide +kernel, by decide +kernel⟩

end Crawler

end PoliteCrawl

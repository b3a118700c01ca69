import PoliteCrawl.Proofs.Crawl.GivenBack
import PoliteCrawl.Proofs.Crawl.Lookups
import PoliteCrawl.Proofs.Crawl.Slots
import PoliteCrawl.Proofs.Output.Envelope

namespace PoliteCrawl

variable {ψ ε : Type}

/-- What a fetch answers if every record is taken. -/
def FetchResult.outcome : FetchResult → Except CrawlError Unit
  | answer outcome => outcome
  | offer _ next => (next (.ok ())).outcome
  | broken => .ok ()

/-- Answers that depend on nothing but the host of a robots file, or the address of a page. -/
structure Answers where
  file : String → Except CrawlError (Option Robots)
  page : Url → Except CrawlError Unit

namespace Answers

/-- A service of robots files and one of pages go by the answers; after what while they come may
depend on anything. -/
structure Govern (w : Answers) (robots : RobotsService) (service : FetchService) : Prop where
  files : ∀ asked host, (robots asked host).answer = w.file host
  pages : ∀ calls call, (service calls call).result.outcome = w.page call.target
  unbroken : ∀ calls call, (service calls call).result.Unbroken

def robots (w : Answers) (host : String) : Option Robots :=
  LookupPhase.outcomeOf (w.file (HostTable.keyOf host))

def ending (w : Answers) (agent : String) (partition : Option HashRange) (item : WorkItem) :
    Ending :=
  if item.issue?.isSome then .skipped
  else if item.belongsTo partition then
    match item.url?, item.hostKey? with
    | some target, some host =>
      if ItemPhase.allowed agent target (w.robots host) then .fetched (w.page target)
      else .robotsDenied
    | _, _ => .skipped
  else .outOfPartition

variable {w : Answers} {plan : CrawlPlan ψ ε} {item : WorkItem}

/-- No item is foretold to be turned away by the valve. -/
theorem fate_ending_ne (agent : String) (partition : Option HashRange) (item : WorkItem) :
    (w.ending agent partition item).fate ≠ .rejected := by
  unfold ending
  split
  · simp [Ending.fate]
  · split
    · split
      · split <;> simp [Ending.fate]
      · simp [Ending.fate]
    · simp [Ending.fate]

/-- An item that is taken ends as robots files and its fetch decide. -/
theorem ending_of_candidate {candidate : Candidate} (agent : String) (h : plan.takes item = true)
    (hof : candidate.Of item) : w.ending agent plan.partition item =
      if ItemPhase.allowed agent candidate.target (w.robots candidate.host) then
        .fetched (w.page candidate.target)
      else .robotsDenied := by
  obtain ⟨hissue, hbelongs⟩ := Bool.and_eq_true_iff.mp h
  obtain ⟨-, hurl, hhost⟩ := hof
  rw [Option.isNone_iff_eq_none] at hissue
  rw [ending, hissue, hbelongs, hurl, hhost]
  rfl

end Answers

/-- As long as fewer tasks than slots are inside, there is room for another. -/
theorem Occupied.inside_lt {total before : Nat} {reader : ReaderPhase}
    {front back : List (Errand ψ)} {e : Errand ψ} {s : CrawlState ε}
    (h : Occupied total before reader (front ++ e :: back) s)
    (hgoes : e.phase.isFinished = false) (hout : e.phase.isAdmitted = false) :
    s.valve.inside < before + total := by
  have hle : ∀ crew : List (Errand ψ),
      crew.countP (·.phase.isAdmitted) ≤ crew.countP (!·.phase.isFinished) := by
    intro crew
    apply List.countP_mono_left
    intro e _ hin
    rw [ItemPhase.not_isFinished_of_isAdmitted hin]
    rfl
  have hfront := hle front
  have hback := hle back
  have hslots := h.slots
  rw [h.inside]
  simp only [List.countP_append, List.countP_cons, hgoes, hout, Bool.not_false, if_true,
    Bool.false_eq_true, if_false] at hslots ⊢
  omega

namespace ItemPhase

/-- Where the task of an item may stand that goes by the answers, if its item is to end in a way. -/
def Steady (w : Answers) (agent : String) (ending : Ending) : ItemPhase ψ → Prop
  | entering _ entry => entry.IsSmooth
  | rejecting _ => False
  | looking candidate (.finished robots) | judging candidate robots =>
    robots = w.robots candidate.host
  | pausing candidate _ | calling candidate =>
    allowed agent candidate.target (w.robots candidate.host) = true
  | awaiting _ result _ | writing _ result => ending = .fetched result.outcome
  | completing _ outcome => ending = .fetched outcome
  | _ => True

variable {w : Answers} {plan : CrawlPlan ψ ε} {now task : Nat} {phase phase' : ItemPhase ψ}
  {s s' : CrawlState ε} {item : WorkItem}

theorem Leads.threshold (h : Leads plan now task phase s phase' s') :
    s'.valve.threshold = s.valve.threshold := by
  cases h with
  | enters hstep => exact (EntryPhase.leads_of_step hstep).threshold
  | _ => rfl

/-- The result of a fetch is written as it is, on an envelope that takes everything. -/
theorem write_eq_outcome {result : FetchResult} {e : Envelope} (hwritable : e.Writable) :
    (result.write e).1 = result.outcome ∧ (result.write e).2.Writable := by
  induction result generalizing e with
  | offer page next ih =>
    obtain ⟨htaken, hwritable⟩ := hwritable.write page
    rw [FetchResult.write, FetchResult.outcome, htaken]
    exact ih _ hwritable
  | answer | broken => exact ⟨rfl, hwritable⟩

theorem Leads.writable (h : Leads plan now task phase s phase' s')
    (hwritable : s.envelope.Writable) : s'.envelope.Writable := by
  cases h with
  | breaksOff | writes => exact (write_eq_outcome hwritable).2
  | _ => exact hwritable

theorem Leads.willing (h : Leads plan now task phase s phase' s') (hwilling : s.requeue.Willing) :
    s'.requeue.Willing := by
  cases h with
  | requeues item => exact hwilling.add item
  | _ => exact hwilling

/-- A task goes on by the answers, if there is room in the valve for it, the envelope takes
everything, and a look-up that ends returns what the answers say. -/
theorem Leads.steady (h : Leads plan now task phase s phase' s')
    (hsteady : phase.Steady w plan.agent (w.ending plan.agent plan.partition item))
    (hof : phase.Of item) (htakes : plan.takes item = true)
    (hpages : ∀ calls call, (plan.service calls call).result.outcome = w.page call.target)
    (hroom : phase.isAdmitted = false → s.valve.inside < s.valve.threshold)
    (hwritable : s.envelope.Writable)
    (hlearnt : ∀ candidate lookup next robots, phase = looking candidate lookup →
      lookup.step now task s.hosts = some next → next.phase = .finished robots →
        robots = w.robots candidate.host) :
    phase'.Steady w plan.agent (w.ending plan.agent plan.partition item) := by
  cases h with
  | turnedAway | rejects => cases hsteady
  | @enters item' entry s next hstep =>
    have hleads := EntryPhase.leads_of_step hstep
    exact hleads.smooth hsteady (hroom hleads.inside.1)
  | learns => exact hsteady
  | @looks candidate lookup s next hstep =>
    cases hnext : next.phase with
    | finished robots => exact hlearnt candidate lookup next robots rfl hstep hnext
    | _ => trivial
  | pausesFor hallowed | goesOn hallowed =>
    cases hsteady
    exact hallowed
  | paused | pauses => exact hsteady
  | calls candidate s =>
    have hallowed : allowed plan.agent candidate.target (w.robots candidate.host) = true := hsteady
    have hending := Answers.ending_of_candidate (w := w) plan.agent htakes hof
    rw [if_pos hallowed] at hending
    change w.ending plan.agent plan.partition item = .fetched _
    rw [hending, hpages]
  | answered => exact hsteady
  | writes =>
    change w.ending plan.agent plan.partition item = .fetched _
    rw [(write_eq_outcome hwritable).1]
    exact hsteady
  | requeues item' entered => cases entered <;> trivial
  | _ => trivial

/-- A task that goes by the answers ends its item as foretold. -/
theorem Steady.ending {ending : Ending}
    (h : phase.Steady w plan.agent (w.ending plan.agent plan.partition item))
    (hof : phase.Of item) (htakes : plan.takes item = true)
    (hending : phase.ending? plan = some ending) :
    ending = w.ending plan.agent plan.partition item := by
  cases phase with
  | rejecting => cases h
  | judging candidate robots =>
    cases h
    have hforetold := Answers.ending_of_candidate (w := w) plan.agent htakes hof
    rw [ending?] at hending
    split at hending
    · cases hending
    · rename_i hallowed
      cases hending
      rw [hforetold, if_neg hallowed]
  | completing item' outcome =>
    cases hending
    exact h.symm
  | _ => cases hending

end ItemPhase

end PoliteCrawl

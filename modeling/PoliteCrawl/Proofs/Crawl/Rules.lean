import PoliteCrawl.Proofs.Crawl.GivenBack
import PoliteCrawl.Proofs.Crawl.Lookups
import PoliteCrawl.Proofs.Crawl.Passage
import PoliteCrawl.Proofs.Crawl.Slots
import PoliteCrawl.Proofs.Crawl.Starts
import PoliteCrawl.Proofs.Politeness.Answers
import PoliteCrawl.Proofs.Politeness.SingleFlight

namespace PoliteCrawl

variable {ψ ε : Type}

namespace CrawlTask

abbrev inquiries (plan : CrawlPlan ψ ε) (events : List (Event (CrawlTask ψ) (CrawlState ε))) :
    List Inquiry := (robotsDiscipline plan).inquiries events

abbrev answers (plan : CrawlPlan ψ ε) (events : List (Event (CrawlTask ψ) (CrawlState ε))) :
    List (Nat × Option Robots) := (robotsDiscipline plan).answers events

/-- A step leaves the fetches, the envelope and the items to be tried again as they are. -/
structure Abstains (a : Act (CrawlTask ψ) (CrawlState ε)) : Prop where
  fetches : a.turn.shared.fetches = a.before.shared.fetches
  envelope : a.turn.shared.envelope = a.before.shared.envelope
  requeue : a.turn.shared.requeue = a.before.shared.requeue

end CrawlTask

variable {plan : CrawlPlan ψ ε} {now task : Nat} {known : List Inquiry}
  {answers : List (Nat × Option Robots)}

theorem Inquiry.permits_eq_allowed (q : Inquiry) (agent : String) (target : Url) :
    q.permits agent target = ItemPhase.allowed agent target q.outcome := by
  unfold permits outcome LookupPhase.outcomeOf
  cases q.answer with
  | error error => rfl
  | ok robots => cases robots <;> rfl

namespace ItemPhase

/-- What the task of an item goes by: what was answered for its host and, once it has judged, that
this allows the fetch. -/
def Informed (agent : String) (known : List Inquiry) (answers : List (Nat × Option Robots)) :
    ItemPhase ψ → Prop
  | looking candidate (.finished robots) | judging candidate robots =>
    Told known answers candidate.host robots
  | pausing candidate _ | calling candidate => ∃ robots,
    Told known answers candidate.host robots ∧ allowed agent candidate.target robots = true
  | _ => True

/-- Whether robots rules forbid the fetch of a task, or the task is done with its item. -/
def isBarred (agent : String) : ItemPhase ψ → Bool
  | looking candidate (.finished robots) | judging candidate robots =>
    !allowed agent candidate.target robots
  | leaving | freeing | finished => true
  | _ => false

def touches : ItemPhase ψ → Bool
  | calling _ | awaiting .. | writing .. | requeueing .. => true
  | _ => false

variable {phase phase' : ItemPhase ψ} {s s' : CrawlState ε} {agent : String}

theorem Informed.append (h : phase.Informed agent known answers) (more : List Inquiry)
    (later : List (Nat × Option Robots)) :
    phase.Informed agent (known ++ more) (answers ++ later) := by
  cases phase with
  | looking candidate lookup =>
    cases lookup with
    | finished robots => exact Told.append h more later
    | _ => trivial
  | judging candidate robots => exact Told.append h more later
  | pausing candidate | calling candidate =>
    obtain ⟨robots, htold, hallowed⟩ := h
    exact ⟨robots, htold.append more later, hallowed⟩
  | _ => trivial

/-- A task goes by what its look-up returned. -/
theorem Leads.informed (h : Leads plan now task phase s phase' s')
    (hphase : phase.Informed plan.agent known answers)
    (htold : ∀ candidate lookup next robots, phase = looking candidate lookup →
      lookup.step now task s.hosts = some next → next.phase = .finished robots →
        Told known answers candidate.host robots) :
    phase'.Informed plan.agent known answers := by
  cases h with
  | @looks candidate lookup s next hstep =>
    cases hnext : next.phase with
    | finished robots => exact htold candidate lookup next robots rfl hstep hnext
    | _ => trivial
  | learns => exact hphase
  | pausesFor hallowed | goesOn hallowed => exact ⟨_, hphase, hallowed⟩
  | paused | pauses => exact hphase
  | requeues item entered => cases entered <;> trivial
  | _ => trivial

theorem Leads.isBarred (h : Leads plan now task phase s phase' s')
    (hbarred : phase.isBarred plan.agent = true) : phase'.isBarred plan.agent = true := by
  cases h with
  | learns => exact hbarred
  | @looks candidate lookup s next hstep =>
    -- A look-up that has returned takes no further step.
    cases lookup with
    | finished robots => cases hstep
    | _ => cases hbarred
  | denies | leaves | frees => rfl
  | pausesFor hallowed | goesOn hallowed =>
    rw [ItemPhase.isBarred, hallowed] at hbarred
    cases hbarred
  | _ => cases hbarred

theorem not_touches_of_isBarred (hbarred : phase.isBarred agent = true) :
    phase.touches = false := by
  cases phase with
  | calling | awaiting | writing | requeueing => cases hbarred
  | _ => rfl

/-- Whoever has begun to touch them has no fetch ahead. -/
theorem Leads.mayFetch_of_touches (h : Leads plan now task phase s phase' s')
    (htouches : phase.touches = true) : phase'.mayFetch = false := by
  apply Bool.eq_false_iff.mpr
  intro hmay
  obtain ⟨hbefore, hcalling⟩ := h.mayFetch hmay
  cases phase with
  | calling candidate => cases hcalling
  | awaiting | writing | requeueing => cases hbefore
  | _ => cases htouches

theorem Leads.untouched (h : Leads plan now task phase s phase' s')
    (huntouched : phase.touches = false) :
    s'.fetches = s.fetches ∧ s'.envelope = s.envelope ∧ s'.requeue = s.requeue := by
  cases h with
  | calls | answered | breaksOff | writes | requeues => cases huntouched
  | _ => exact ⟨rfl, rfl, rfl⟩

end ItemPhase

/-- The reader gives back items of other nodes only. -/
theorem ReaderPhase.Leads.takes_of_givingBack {phase : ReaderPhase} {s s' : CrawlState ε}
    {started : List WorkItem} {item : WorkItem} {lines : List String}
    (h : Leads plan phase s (.givingBack item lines) s' started) : plan.takes item = false := by
  cases h with
  | passesOn htakes => exact htakes

namespace Crawler

/-- The crawlers that uses of one table of hosts lead to, by whole runs and by calls of others, with
the questions for robots files that were asked in them and the answers that came. -/
inductive Seasoned (s : Settings) : {ψ ε : Type} → Crawler ψ ε → List Inquiry →
    List (Nat × Option Robots) → Prop where
  | made {robots : RobotsService} {service : FetchService} {hostJitter valveJitter : Jitter}
    {c : Crawler Unit Unit} (hc : ofSettings s robots service hostJitter valveJitter = .ok c) :
    Seasoned s c [] []
  | refitted {ψ ε ψ' ε' : Type} {c : Crawler ψ ε} {known : List Inquiry}
    {answers : List (Nat × Option Robots)} (h : Seasoned s c known answers) (valve : Valve)
    (rule : PressureRule ψ' ε') (own : ε') : Seasoned s (c.withValve valve rule own) known answers
  | ran {ψ ε : Type} {c : Crawler ψ ε} {known : List Inquiry} {answers : List (Nat × Option Robots)}
    {input : List UInt8} {envelope : Envelope} {requeue : RequeueStream}
    {events : List (Event (CrawlTask ψ) (CrawlState ε))}
    {last : Configuration (CrawlTask ψ) (CrawlState ε)} {result : Except CrawlError CrawlSummary}
    (h : Seasoned s c known answers)
    (hhistory : (CrawlTask.machine c.plan).History (c.start (Input.lines input) envelope requeue)
      events last)
    (hreturned : last.tasks[readerTask]?.bind (·.result?) = some result) :
    Seasoned s (c.finish last).2 (known ++ CrawlTask.inquiries c.plan events)
      (answers ++ CrawlTask.answers c.plan events)
  | served {ψ ε : Type} {c : Crawler ψ ε} {known : List Inquiry}
    {answers : List (Nat × Option Robots)} {d : HostDesk} {now : Nat}
    {calls : List (Option Nat × HostCall)} {events : List (Event CallPhase HostDesk)}
    {last : Configuration CallPhase HostDesk} (h : Seasoned s c known answers)
    (htable : d.table = c.hosts) (hle : c.now ≤ now)
    (hhistory : CallPhase.machine.History (d.opening now calls) events last)
    (hanswered : ∀ phase ∈ last.tasks, phase.result?.isSome = true) :
    Seasoned s { c with hosts := last.shared.table, now := last.now }
      (known ++ HostDesk.inquiries events)
      (answers ++ CallPhase.robotsDiscipline.answers events)

/-- How a run goes by robots rules, after uses of its table of hosts in which some questions were
asked and some answers came. -/
structure Obeyed (c : Crawler ψ ε) (known : List Inquiry) (answers : List (Nat × Option Robots))
    (events : List (Event (CrawlTask ψ) (CrawlState ε)))
    (last : Configuration (CrawlTask ψ) (CrawlState ε)) : Prop where
  asked : last.shared.hosts.asked = (known ++ CrawlTask.inquiries c.plan events).map Inquiry.note
  once : ((known ++ CrawlTask.inquiries c.plan events).map (·.record)).Nodup
  service : ∀ q ∈ known ++ CrawlTask.inquiries c.plan events,
    ∃ earlier, q.answer = (c.hosts.service earlier q.host).answer
  calls : last.shared.fetches.calls = c.fetches.calls ++ (CrawlTask.starts events).map (·.call)
  permitted : ∀ earlier a later x, events = earlier ++ .act a :: later → CrawlTask.start? a = some x →
    ∃ host, x.candidate.target.hostKey? = some host ∧
      ∃ q ∈ known ++ CrawlTask.inquiries c.plan earlier, q.host = HostTable.keyOf host ∧
        (q.record, q.outcome) ∈ answers ++ CrawlTask.answers c.plan earlier ∧
        q.permits c.plan.agent x.candidate.target = true
  denied : ∀ a ∈ acts events, ∀ candidate robots,
    a.turn.phase = .item (.looking candidate (.finished (some robots))) →
      robots.allows c.plan.agent candidate.target.text = false →
        (∀ b ∈ acts events, b.task = a.task → CrawlTask.Abstains b) ∧
          ∀ b ∈ acts events, ∀ lines, b.phase? ≠ some (.reader (.givingBack candidate.item lines))

variable {c : Crawler ψ ε} {input : List UInt8} {envelope : Envelope} {requeue : RequeueStream}
  {events : List (Event (CrawlTask ψ) (CrawlState ε))}
  {last : Configuration (CrawlTask ψ) (CrawlState ε)} {s : Settings}

theorem lookupAt?_start (c : Crawler ψ ε) (lines : List String) (envelope : Envelope)
    (requeue : RequeueStream) (task : Nat) :
    (CrawlTask.robotsDiscipline c.plan).lookupAt? (c.start lines envelope requeue) task = none := by
  cases task <;> rfl

theorem Seasoned.slots (h : Seasoned s c known answers) :
    c.slots = { free := max s.fetch.maxConcurrent 1 } := by
  induction h with
  | made hc => exact (ofSettings_eq_ok hc).slots
  | refitted _ _ _ _ ih => exact ih
  | ran _ hhistory hreturned ih =>
    obtain ⟨done, reader, crew, hmuster, hoccupied⟩ := occupied_of_history ih hhistory
    have hreader := hmuster.reader_of_result hreturned
    exact (hoccupied.of_closed (by rw [hreader]; rfl)).1
  | served _ _ _ _ _ ih => exact ih

/-- Nobody looks up a robots file when a run has returned. -/
theorem lookupAt?_of_returned {total : Nat} (hslots : c.slots = { free := total })
    (h : (CrawlTask.machine c.plan).History (c.start (Input.lines input) envelope requeue) events
      last)
    {result : Except CrawlError CrawlSummary}
    (hreturned : last.tasks[readerTask]?.bind (·.result?) = some result) (task : Nat) :
    (CrawlTask.robotsDiscipline c.plan).lookupAt? last task = none := by
  rw [RobotsDiscipline.lookupAt?]
  cases hphase : last.tasks[task]? with
  | none => rfl
  | some phase =>
    cases phase with
    | reader phase => rfl
    | item phase =>
      rw [finished_of_returned hslots h hreturned hphase]
      rfl

/-- Between uses of a table of hosts, all that is known of robots files was asked and answered in
one of them. -/
theorem Seasoned.rests (h : Seasoned s c known answers) : c.hosts.Rests c.now known answers := by
  induction h with
  | made hc =>
    rw [(ofSettings_eq_ok hc).hosts]
    exact (HostTable.fresh_ofSettings _ _ _ _).rests rfl _
  | refitted _ _ _ _ ih => exact ih
  | @ran ψ ε c known answers input envelope requeue events last result h hhistory hreturned ih =>
    have hgates := holds_start_of_keyed ih.timely ih.keyed (Input.lines input) envelope requeue
    refine HostTable.Rests.history (c := c.start (Input.lines input) envelope requeue) ih hgates
      (lookupAt?_start c _ _ _) hhistory fun task => ?_
    rw [RobotsDiscipline.pendingAt?, lookupAt?_of_returned h.slots hhistory hreturned task]
    rfl
  | @served ψ ε c known answers d now calls events last h htable hle hhistory hanswered ih =>
    have hrests : d.table.Rests now known answers := by
      rw [htable]
      exact ih.later hle
    have hgates := HostDesk.holds_opening_of_keyed hrests.timely hrests.keyed calls
    refine HostTable.Rests.history (c := d.opening now calls) hrests hgates ?_ hhistory ?_
    · intro task
      rw [RobotsDiscipline.lookupAt?, HostDesk.opening, List.getElem?_map]
      cases calls[task]? <;> rfl
    · -- A call that is over has no answer left to store.
      intro task
      rw [RobotsDiscipline.pendingAt?, RobotsDiscipline.lookupAt?]
      cases hphase : last.tasks[task]? with
      | none => rfl
      | some phase =>
        have hresult := hanswered phase (List.mem_of_getElem? hphase)
        cases phase with
        | finished answer time => cases answer <;> rfl
        | _ => cases hresult

/-- The tasks of items go by what was answered for their hosts. -/
theorem informed_of_history (hrests : c.hosts.Rests c.now known answers)
    (h : (CrawlTask.machine c.plan).History (c.start (Input.lines input) envelope requeue) events
      last)
    {task : Nat} {phase : ItemPhase ψ} (hphase : last.tasks[task]? = some (.item phase)) :
    phase.Informed c.plan.agent (known ++ CrawlTask.inquiries c.plan events)
      (answers ++ CrawlTask.answers c.plan events) := by
  have hgates := holds_start_of_keyed hrests.timely hrests.keyed (Input.lines input) envelope requeue
  obtain ⟨hopening, hanswered⟩ := HostTable.Rests.opening
    (c := c.start (Input.lines input) envelope requeue) hrests (lookupAt?_start c _ _ _)
  induction h generalizing task phase with
  | refl =>
    cases task with
    | zero => cases hphase
    | succ k => cases hphase
  | @act d events own turn h hstep ih =>
    have hholds := hopening.history h
    have htold := hanswered.history hopening h
    rw [CrawlTask.inquiries, CrawlTask.answers, RobotsDiscipline.inquiries_act,
      RobotsDiscipline.answers_act, ← List.append_assoc, ← List.append_assoc]
    rcases Configuration.tasks_after hphase with ⟨rfl, heq⟩ | ⟨-, hsame⟩ | ⟨-, hmem⟩
    · obtain ⟨before, hbefore, -, hleads⟩ := CrawlTask.leads_of_stepAt hstep heq.symm
      refine ItemPhase.Informed.append (hleads.informed (ih hbefore) ?_) _ _
      -- What a look-up returns is what an answer for its host came to.
      rintro candidate lookup next robots rfl hlookup hnext
      have hlookingUp : (CrawlTask.robotsDiscipline c.plan).lookupAt? d task = some lookup := by
        rw [RobotsDiscipline.lookupAt?, hbefore]
        rfl
      exact htold.told hholds hlookingUp ((hgates.history h).tasks task _ hbefore) hlookup hnext
    · exact (ih hsame).append _ _
    · obtain ⟨item, rfl⟩ := CrawlTask.spawned_of_stepAt hstep hmem
      trivial
  | pass _ _ ih =>
    rw [CrawlTask.inquiries, CrawlTask.answers, RobotsDiscipline.inquiries_pass,
      RobotsDiscipline.answers_pass]
    exact ih hphase

/-- The task of an item that robots rules forbid takes no step that touches the fetches or the
streams. -/
theorem not_touches_of_barred
    (h : (CrawlTask.machine c.plan).History (c.start (Input.lines input) envelope requeue) events
      last)
    {a b : Act (CrawlTask ψ) (CrawlState ε)} {candidate : Candidate} {robots : Option Robots}
    {phase : ItemPhase ψ} (ha : a ∈ acts events) (hb : b ∈ acts events) (htask : a.task = b.task)
    (hphase : a.turn.phase = .item (.looking candidate (.finished robots)))
    (hbarred : ItemPhase.allowed c.plan.agent candidate.target robots = false)
    (hphase' : b.phase? = some (.item phase)) : phase.touches = false := by
  -- a barred task stays barred, and one that has touched the streams is past its fetch for good,
  -- so that the step that touches comes neither behind the barred one nor before it
  let start := c.start (Input.lines input) envelope requeue
  let returns := CrawlTask.OnItem fun phase : ItemPhase ψ =>
    phase = .looking candidate (.finished robots)
  let barred := CrawlTask.OnItem fun phase : ItemPhase ψ => phase.isBarred c.plan.agent = true
  let touches := CrawlTask.OnItem fun phase : ItemPhase ψ => phase.touches = true
  let past := CrawlTask.OnItem fun phase : ItemPhase ψ => phase.mayFetch = false
  have hlasts : (CrawlTask.machine c.plan).Brings start barred barred :=
    CrawlTask.brings_of_leads (fun hleads hphase => hleads.isBarred hphase) start
  have htouches : (CrawlTask.machine c.plan).Brings start touches past :=
    CrawlTask.brings_of_leads (fun hleads hphase => hleads.mayFetch_of_touches hphase) start
  have hpast : (CrawlTask.machine c.plan).Brings start past past := by
    apply CrawlTask.brings_of_leads
    intro now task phase phase' s s' hleads hphase
    apply Bool.eq_false_iff.mpr
    intro hmay
    rw [(hleads.mayFetch hmay).1] at hphase
    cases hphase
  have hreturns : returns a.turn.phase := by
    rw [hphase]
    rfl
  refine Bool.eq_false_iff.mpr (h.never hlasts htouches hpast (CrawlTask.OnItem.imp ?_)
    (CrawlTask.OnItem.disjoint ?_) (CrawlTask.OnItem.disjoint ?_) ha hb htask hreturns hphase')
  · rintro _ rfl
    show (!ItemPhase.allowed c.plan.agent candidate.target robots) = true
    rw [hbarred]
    rfl
  · intro phase hphase
    exact Bool.eq_false_iff.mp (ItemPhase.not_touches_of_isBarred hphase)
  · rintro _ hmay rfl
    cases hmay

/-- The task of an item that robots rules forbid leaves the fetches and the streams alone. -/
theorem abstains_of_barred
    (h : (CrawlTask.machine c.plan).History (c.start (Input.lines input) envelope requeue) events
      last)
    {a b : Act (CrawlTask ψ) (CrawlState ε)} {candidate : Candidate} {robots : Option Robots}
    (ha : a ∈ acts events) (hb : b ∈ acts events) (htask : b.task = a.task)
    (hphase : a.turn.phase = .item (.looking candidate (.finished robots)))
    (hbarred : ItemPhase.allowed c.plan.agent candidate.target robots = false) :
    CrawlTask.Abstains b := by
  -- The task that looked up the file is not the reader's.
  obtain ⟨_, hearlier, hstep⟩ := h.before_of_mem ha
  obtain ⟨_, hearlier', hstep'⟩ := h.before_of_mem hb
  obtain ⟨before, hbefore, -⟩ := CrawlTask.leads_of_stepAt hstep hphase
  obtain ⟨_, _, _, hmuster⟩ := muster_of_history hearlier
  obtain ⟨_, _, _, hmuster'⟩ := muster_of_history hearlier'
  obtain ⟨front, _, _, -, hnumber, -⟩ := hmuster.errand_of_item hbefore
  rcases hmuster'.act hstep' with ⟨hreader, -⟩ | ⟨front', e, back, phase', rfl, hnumber', hleads, -⟩
  · rw [← htask, hreader] at hnumber
    cases hnumber
  · have hphase' : (Act.mk b.before (front'.length + 1) b.turn).phase? = some (.item e.phase) :=
      hmuster'.phase?_errand
    rw [← hnumber'] at hphase'
    obtain ⟨hfetches, henvelope, hrequeue⟩ :=
      hleads.untouched (not_touches_of_barred h ha hb htask.symm hphase hbarred hphase')
    exact ⟨hfetches, henvelope, hrequeue⟩

theorem kept_foreign : c.Kept input envelope requeue fun _ reader _ _ _ =>
    ∀ item lines, reader = .givingBack item lines → c.plan.takes item = false where
  start := by
    rintro item lines ⟨⟩
  reader := by
    rintro done reader crew events d turn _ gone started - - - hleads - item lines rfl
    exact hleads.takes_of_givingBack
  errand _ _ hkept _ := hkept
  pass hkept := hkept

/-- An item that has a task is not given back by the reader. -/
theorem not_givingBack_of_looking
    (h : (CrawlTask.machine c.plan).History (c.start (Input.lines input) envelope requeue) events
      last)
    {a b : Act (CrawlTask ψ) (CrawlState ε)} {candidate : Candidate} {lookup : LookupPhase}
    (ha : a ∈ acts events) (hb : b ∈ acts events)
    (hphase : a.turn.phase = .item (.looking candidate lookup)) (lines : List String) :
    b.phase? ≠ some (.reader (.givingBack candidate.item lines)) := by
  intro hgives
  obtain ⟨_, hearlier, hstep⟩ := h.before_of_mem ha
  obtain ⟨_, hearlier', -⟩ := h.before_of_mem hb
  have hlooking : (a.before.after a.task a.turn).tasks[a.task]? =
      some (.item (.looking candidate lookup)) := by
    obtain ⟨before, hbefore, -⟩ := (CrawlTask.machine c.plan).stepAt_eq_some hstep
    rw [Configuration.tasks_after_self hbefore, hphase]
  obtain ⟨_, _, _, hmuster⟩ := muster_of_history (hearlier.act hstep)
  obtain ⟨front, e, back, rfl, -, heq⟩ := hmuster.errand_of_item hlooking
  have he : e ∈ front ++ e :: back := List.mem_append_cons_self
  have hof := hmuster.own e he
  rw [← heq] at hof
  have htakes : c.plan.takes candidate.item = true := by
    rw [show candidate.item = e.item from hof.1]
    exact (hmuster.origin_mem he).2
  -- What has a task is of this node, and what the reader gives back is not.
  obtain ⟨_, reader, _, hmuster', hforeign⟩ := kept_foreign.of_history hearlier'
  rw [hforeign candidate.item lines (hmuster'.eq_of_reader hgives).symm] at htakes
  cases htakes

/-- A run goes by robots rules, whatever its table of hosts was used for before. -/
theorem obeyed_of_history (hc : Seasoned s c known answers)
    (h : (CrawlTask.machine c.plan).History (c.start (Input.lines input) envelope requeue) events
      last) :
    c.Obeyed known answers events last := by
  have hrests := hc.rests
  obtain ⟨hopening, -⟩ := HostTable.Rests.opening
    (c := c.start (Input.lines input) envelope requeue) hrests (lookupAt?_start c _ _ _)
  have hholds := hopening.history h
  refine ⟨?_, hholds.once, ?_, calls_of_history h, ?_, ?_⟩
  · rw [hopening.asked h, List.map_append, ← hrests.asked]
    rfl
  · intro q hq
    obtain ⟨earlier, hanswer⟩ := hholds.answers q hq
    rw [hopening.service h] at hanswer
    exact ⟨earlier, hanswer⟩
  · rintro earlier a later x rfl hx
    have hearlier := h.split.1
    obtain ⟨robots, ⟨q, hq, hhost, rfl, hanswer⟩, hallowed⟩ :=
      informed_of_history hrests hearlier (CrawlTask.start?_eq_some hx).1
    refine ⟨_, hostKey?_of_start? hearlier rfl hx, q, hq, hhost, hanswer, ?_⟩
    rw [q.permits_eq_allowed]
    exact hallowed
  · intro a ha candidate robots hphase hforbids
    exact ⟨fun b hb htask => abstains_of_barred h ha hb htask hphase hforbids,
      fun b hb lines => not_givingBack_of_looking h ha hb hphase lines⟩

def vacant : FetchService := fun _ call =>
  { result := .record {
      uri := call.target.text
      fetchedAt := { seconds := 0 }
      request := ""
      outcome := .response 404 "" [] } }

theorem obeyed_vacant : ∃ (c : Crawler Unit Unit)
    (events : List (Event (CrawlTask Unit) (CrawlState Unit)))
    (last : Configuration (CrawlTask Unit) (CrawlState Unit)),
    Seasoned (Passage.settings Lone.line 5 1) c [] [] ∧
    (CrawlTask.machine c.plan).History
      (c.start (Input.lines Lone.input) (.start {}) (.disabled .raw)) events last ∧
    last.shared.fetches.calls = [{ time := 0, target := Lone.target }] ∧
    c.Obeyed [] [] events last := by
  have hseasoned : Seasoned (Passage.settings Lone.line 5 1) (Passage.crawler vacant 5 1 0) [] [] :=
    .made (Passage.made Lone.line vacant 5 1 0)
  obtain ⟨events, last, hhistory, -, hcalls, -⟩ := Lone.exists_paged vacant rfl
  exact ⟨_, events, last, hseasoned, hhistory, hcalls, obeyed_of_history hseasoned hhistory⟩

end Crawler

end PoliteCrawl

import PoliteCrawl.Fetch.Page
import PoliteCrawl.Proofs.Crawl.Outcomes
import PoliteCrawl.Proofs.Crawl.Passage
import PoliteCrawl.Proofs.Crawl.Written
import PoliteCrawl.Proofs.Output.Elements

namespace PoliteCrawl

variable {ψ ε : Type}

/-- What a fetch of an address does at its end: it writes one record, which is of the address, and
answers what came of that, or it answers with an error. -/
inductive FetchResult.Fetched (target : Url) : FetchResult → Prop where
  | record {page : FetchRecord} (haddress : page.uri = target.text) : Fetched target (.record page)
  | failed (error : CrawlError) : Fetched target (.failed error)

theorem FetchResult.Fetched.unbroken {target : Url} {result : FetchResult}
    (h : result.Fetched target) : result.Unbroken := by
  cases h with
  | record => exact unbroken_record _
  | failed => exact unbroken_failed _

theorem Exchange.fetched_result (header : String) (target : Url) (fetchedAt : Time.Moment)
    (x : Exchange) : (x.result header target fetchedAt).Fetched target := by
  unfold result
  dsimp only
  split
  · split
    · exact .failed _
    · exact .record rfl
  · split
    · exact .record rfl
    · exact .failed _

def Ending.isSuccess : Ending → Bool
  | fetched (.ok ()) => true
  | _ => false

/-- A fetch that came to an end either succeeded or failed. -/
theorem Ending.countP_completed (endings : List (Nat × Ending)) :
    endings.countP (·.2.fate = .completed) =
      endings.countP (·.2.isSuccess) + endings.countP (·.2.isFailure) := by
  induction endings with
  | nil => rfl
  | cons ending endings ih =>
    obtain ⟨place, ending⟩ := ending
    simp only [List.countP_cons, ih]
    cases ending with
    | fetched outcome => cases outcome <;> simp [fate, isSuccess, isFailure] <;> omega
    | _ => simp [fate, isSuccess, isFailure]

theorem ReaderPhase.not_success_of_ending? {plan : CrawlPlan ψ ε} (phase : ReaderPhase) :
    (phase.ending? plan).any Ending.isSuccess = false := by
  cases hending : phase.ending? plan with
  | none => rfl
  | some ending =>
    have hfetched := (not_fetched_of_ending? hending).1
    cases ending with
    | fetched outcome => cases hfetched
    | _ => rfl

namespace ItemPhase

def isRecorded : ItemPhase ψ → Bool
  | completing _ (.ok ()) => true
  | _ => false

def Sent (item : WorkItem) : ItemPhase ψ → Prop
  | awaiting _ result _ | writing _ result =>
    ∃ target, item.url? = some target ∧ result.Fetched target
  | _ => True

variable {plan : CrawlPlan ψ ε} {now task : Nat} {phase phase' : ItemPhase ψ} {s s' : CrawlState ε}
  {item : WorkItem}

/-- An item whose record was written ends with a fetch that succeeded. -/
theorem Leads.recorded (h : Leads plan now task phase s phase' s') (hsent : phase.Sent item)
    (place : Nat) :
    ((phase.taken s.envelope).map fun _ => place) ++
        (if phase.isRecorded then [place] else []) =
      (if (phase.ending? plan).any Ending.isSuccess then [place] else []) ++
        (if phase'.isRecorded then [place] else []) := by
  cases h with
  | breaksOff hbreaks =>
    obtain ⟨target, -, hfetched⟩ := hsent
    exact absurd hbreaks (hfetched.unbroken.not_breaksOff _)
  | writes =>
    obtain ⟨target, -, hfetched⟩ := hsent
    cases hfetched with
    | @record page =>
      -- The record is taken just if the answer is that it was.
      rw [FetchResult.write_record]
      cases houtcome : (s.envelope.write page).1 <;>
        simp [taken, FetchResult.record, FetchResult.taken, houtcome, Except.isOk, Except.toBool,
          isRecorded, ending?]
    | failed => rfl
  | denies hallowed | pausesFor hallowed | goesOn hallowed =>
    rw [ending?, hallowed]
    rfl
  | requeues item entered => cases entered <;> rfl
  | _ => rfl

theorem Leads.sent {header : String} {clock : Nat → Time.Moment} {pages : Transport}
    (h : Leads plan now task phase s phase' s') (hservice : plan.service = pages.service header clock)
    (hof : phase.Of item) (hsent : phase.Sent item) : phase'.Sent item := by
  cases h with
  | calls candidate =>
    refine ⟨candidate.target, hof.2.1, ?_⟩
    rw [hservice]
    exact Exchange.fetched_result header candidate.target _ _
  | answered => exact hsent
  | requeues item' entered => cases entered <;> trivial
  | _ => trivial

theorem uri_of_taken {e : Envelope} {page : FetchRecord} (h : page ∈ phase.taken e)
    (hsent : phase.Sent item) : ∃ target, item.url? = some target ∧ page.uri = target.text := by
  cases phase with
  | writing item' result =>
    obtain ⟨target, hurl, hfetched⟩ := hsent
    cases hfetched with
    | record haddress =>
      refine ⟨target, hurl, ?_⟩
      simp only [taken, FetchResult.record, FetchResult.taken, List.append_nil] at h
      split at h
      · rw [List.mem_singleton.mp h, haddress]
      · cases h
    | failed => cases h
  | _ => cases h

end ItemPhase

namespace CrawlTask

def isRecorded : CrawlTask ψ → Bool
  | reader _ => false
  | item phase => phase.isRecorded

/-- Whether the fetch of the item counts as completed, and not yet as failed. -/
def isFailing : CrawlTask ψ → Bool
  | reader _ => false
  | item phase => phase.isFailing

end CrawlTask

/-- What the destination of an envelope has got when its run has returned a summary: between the
opening and the closing text stands one resource element for each record that was written, these are
as many as fetches did not fail, and they are of the items that ended with a fetch that succeeded. -/
structure Crawler.Delivered (sink : Sink) (written : List (Nat × FetchRecord))
    (endings : List (Nat × Ending)) (summary : CrawlSummary) (e : Envelope) (text : List Char) :
    Prop where
  complete : e.Complete
    (sink.taken ++ Envelope.opening.toList ++ text ++ Envelope.closing.toList)
  lists : Envelope.Lists (written.map (·.2)) text
  failed : summary.failed ≤ summary.completed
  records : written.length = summary.completed - summary.failed
  elements : Xml.startTags "resource".toList text = summary.completed - summary.failed
  places : (written.map (·.1)).Perm (Ending.placesOf (·.isSuccess) endings)

/-- The envelope of a run agrees with its counts: a record was written for each fetch that
succeeded, never to a closed envelope, and if the run returns a summary, the destination has got the
elements of these records between the opening and the closing text. -/
structure Crawler.Recorded (c : Crawler ψ ε) (input : List UInt8) (sink : Sink)
    (events : List (Event (CrawlTask ψ) (CrawlState ε)))
    (last : Configuration (CrawlTask ψ) (CrawlState ε)) : Prop where
  records : last.shared.envelope.records =
    (CrawlTask.written c.plan (Input.items c.plan.format input) events).length
  balance : last.shared.envelope.records + last.shared.tally.failed +
      last.tasks.countP (·.isFailing) =
    last.shared.tally.completed + last.tasks.countP (·.isRecorded)
  settled : (∀ task ∈ last.tasks, task.isRecorded = false ∧ task.isFailing = false) →
    last.shared.tally.failed ≤ last.shared.tally.completed ∧
      last.shared.envelope.records = last.shared.tally.completed - last.shared.tally.failed
  unclosed : ∀ a ∈ acts events, ∀ item result,
    a.phase? = some (.item (.writing item result)) → a.before.shared.envelope.closed = false
  own : ∀ x ∈ CrawlTask.written c.plan (Input.items c.plan.format input) events,
    ∃ item target, (Input.items c.plan.format input)[x.1]? = some item ∧
      item.url? = some target ∧ x.2.uri = target.text
  returned : ∀ summary, last.tasks[readerTask]?.bind (·.result?) = some (.ok summary) →
    ∃ text, Crawler.Delivered sink
      (CrawlTask.written c.plan (Input.items c.plan.format input) events)
      (CrawlTask.endings c.plan (Input.items c.plan.format input) events) summary
      last.shared.envelope text

namespace Crawler

variable {c : Crawler ψ ε} {total : Nat} {input : List UInt8} {envelope : Envelope}
  {requeue : RequeueStream} {events : List (Event (CrawlTask ψ) (CrawlState ε))}
  {last : Configuration (CrawlTask ψ) (CrawlState ε)}

theorem kept_sent {header : String} {clock : Nat → Time.Moment} {pages : Transport}
    (hservice : c.plan.service = pages.service header clock) :
    c.Kept input envelope requeue fun _ _ crew events _ =>
      (∀ e ∈ crew, e.phase.Sent e.item) ∧
        ∀ x ∈ CrawlTask.written c.plan (Input.items c.plan.format input) events,
          ∃ item target, (Input.items c.plan.format input)[x.1]? = some item ∧
            item.url? = some target ∧ x.2.uri = target.text where
  start := ⟨fun e he => (List.not_mem_nil he).elim, fun x hx => (List.not_mem_nil hx).elim⟩
  reader _ hmuster hkept _ _ := by
    rw [CrawlTask.written, CrawlTask.noted_reader hmuster, CrawlTask.taken, List.map_nil,
      List.append_nil]
    exact ⟨Errand.forall_started hkept.1 (fun _ => trivial) _, hkept.2⟩
  errand := by
    intro done reader front e back events d turn phase' _ hmuster hkept hleads
    obtain ⟨hsent, hown⟩ := hkept
    have he : e ∈ front ++ e :: back := List.mem_append_cons_self
    refine ⟨?_, ?_⟩
    · exact Errand.forall_replaced hsent (hleads.sent hservice (hmuster.own e he) (hsent e he))
    · rw [CrawlTask.written, CrawlTask.noted_errand hmuster]
      intro x hx
      rcases List.mem_append.mp hx with hx | hx
      · exact hown x hx
      · obtain ⟨page, hpage, rfl⟩ := List.mem_map.mp hx
        obtain ⟨target, hurl, huri⟩ := ItemPhase.uri_of_taken hpage (hsent e he)
        exact ⟨e.item, target, (hmuster.origin_mem he).1, hurl, huri⟩
  pass hkept := by
    rw [CrawlTask.written, CrawlTask.noted_pass]
    exact hkept

theorem kept_recorded {header : String} {clock : Nat → Time.Moment} {pages : Transport}
    (hservice : c.plan.service = pages.service header clock) :
    c.Kept input envelope requeue fun _ _ crew events _ =>
      ((CrawlTask.written c.plan (Input.items c.plan.format input) events).map (·.1)).Perm
        (Ending.placesOf Ending.isSuccess
            (CrawlTask.endings c.plan (Input.items c.plan.format input) events) ++
          crew.flatMap fun e => if e.phase.isRecorded then [e.place] else []) where
  start := .refl _
  reader _ hmuster hkept hleads _ := by
    rw [CrawlTask.written, CrawlTask.noted_reader hmuster, CrawlTask.taken, List.map_nil,
      List.append_nil, CrawlTask.endings, CrawlTask.noted_reader hmuster]
    exact Errand.noted_reader hkept (ReaderPhase.not_success_of_ending? _) (fun _ => rfl) _ _ _
  errand := by
    intro done reader front e back events d turn phase' h hmuster hkept hleads
    have he : e ∈ front ++ e :: back := List.mem_append_cons_self
    have hsent := ((kept_sent hservice).of_muster h hmuster).1 e he
    rw [CrawlTask.written, CrawlTask.noted_errand hmuster, CrawlTask.endings,
      CrawlTask.noted_errand hmuster, List.map_append, List.map_map]
    exact Errand.noted_errand hkept (hleads.recorded hsent _)
  pass hkept := by
    rw [CrawlTask.written, CrawlTask.noted_pass, CrawlTask.endings, CrawlTask.noted_pass]
    exact hkept

/-- As long as the task of an item goes on, the envelope of a run that was new is not closed. -/
theorem unclosed_of_history (hslots : c.slots = { free := total }) (hopen : envelope.closed = false)
    (h : (CrawlTask.machine c.plan).History (c.start (Input.lines input) envelope requeue) events
      last)
    {task : Nat} {phase : ItemPhase ψ} (hphase : last.tasks[task]? = some (.item phase))
    (hgoes : phase.isFinished = false) : last.shared.envelope.closed = false := by
  obtain ⟨done, reader, crew, hmuster, e, hgrown, hstreams⟩ := (kept_streams hslots).of_history h
  have hoccupied := occupied_of_muster hslots h hmuster
  obtain ⟨front, e, back, rfl, rfl, rfl⟩ := hmuster.errand_of_item hphase
  rw [hstreams.envelope_eq (hoccupied.not_closed hgoes), hgrown.closed, hopen]

theorem unbroken_of_transport {header : String} {clock : Nat → Time.Moment} {pages : Transport}
    (hservice : c.plan.service = pages.service header clock) (calls : List FetchCall)
    (call : FetchCall) : (c.plan.service calls call).result.Unbroken := by
  rw [hservice]
  exact (Exchange.fetched_result header call.target _ _).unbroken

section Transport

variable {header : String} {clock : Nat → Time.Moment} {pages : Transport} {sink : Sink}
  {summary : CrawlSummary}

theorem records_of_history (hslots : c.slots = { free := total })
    (h : (CrawlTask.machine c.plan).History (c.start (Input.lines input) (.start sink) requeue)
      events last) :
    last.shared.envelope.records =
      (CrawlTask.written c.plan (Input.items c.plan.format input) events).length := by
  obtain ⟨done, reader, crew, -, e, hgrown, hstreams⟩ := (kept_streams hslots).of_history h
  rw [hstreams.records, hgrown.records, List.length_map]
  exact Nat.zero_add _

/-- Each fetch that came to an end was written or failed, but for those that are between their
record and their counts. -/
theorem balance_of_history (hslots : c.slots = { free := total })
    (hservice : c.plan.service = pages.service header clock)
    (h : (CrawlTask.machine c.plan).History (c.start (Input.lines input) (.start sink) requeue)
      events last) :
    last.shared.envelope.records + last.shared.tally.failed +
        last.tasks.countP (·.isFailing) =
      last.shared.tally.completed + last.tasks.countP (·.isRecorded) := by
  have hunbroken := unbroken_of_transport hservice
  obtain ⟨done, reader, crew, hmuster, hplaces⟩ := (kept_recorded hservice).of_history h
  have hwritten := hplaces.length_eq
  rw [List.length_map, List.length_append, Errand.length_places, ← records_of_history hslots h,
    Ending.placesOf, List.length_map, ← List.countP_eq_length_filter] at hwritten
  have hcompleted := (books_of_muster hunbroken h hmuster).under .completed
  rw [CrawlTask.verdicts_eq_endings h, List.countP_map] at hcompleted
  have hsplit := hcompleted.trans (Ending.countP_completed
    (CrawlTask.endings c.plan (Input.items c.plan.format input) events))
  change last.shared.tally.completed = _ at hsplit
  have hfailed := ((kept_pursuit hunbroken).of_muster h hmuster).failed
  rw [hmuster.countP_tasks (p := (·.isFailing)) rfl, hmuster.countP_tasks (p := (·.isRecorded)) rfl]
  change _ + crew.countP (·.phase.isFailing) = _ + crew.countP (·.phase.isRecorded)
  omega

theorem settled_of_history (hslots : c.slots = { free := total })
    (hservice : c.plan.service = pages.service header clock)
    (h : (CrawlTask.machine c.plan).History (c.start (Input.lines input) (.start sink) requeue)
      events last)
    (hnone : ∀ task ∈ last.tasks, task.isRecorded = false ∧ task.isFailing = false) :
    last.shared.tally.failed ≤ last.shared.tally.completed ∧
      last.shared.envelope.records = last.shared.tally.completed - last.shared.tally.failed := by
  have hbalance := balance_of_history hslots hservice h
  have hrecorded : last.tasks.countP (·.isRecorded) = 0 :=
    List.countP_eq_zero.mpr fun task htask => by simp [(hnone task htask).1]
  have hfailing : last.tasks.countP (·.isFailing) = 0 :=
    List.countP_eq_zero.mpr fun task htask => by simp [(hnone task htask).2]
  omega

theorem delivered_of_history (hslots : c.slots = { free := total })
    (hservice : c.plan.service = pages.service header clock)
    (h : (CrawlTask.machine c.plan).History (c.start (Input.lines input) (.start sink) requeue)
      events last)
    (hreturned : last.tasks[readerTask]?.bind (·.result?) = some (.ok summary)) :
    ∃ text, Delivered sink (CrawlTask.written c.plan (Input.items c.plan.format input) events)
      (CrawlTask.endings c.plan (Input.items c.plan.format input) events) summary
      last.shared.envelope text := by
  have hunbroken := unbroken_of_transport hservice
  obtain ⟨done, reader, crew, hmuster, hplaces⟩ := (kept_recorded hservice).of_history h
  obtain ⟨e, hgrown, hstreams⟩ := (kept_streams hslots).of_muster h hmuster
  obtain ⟨-, hbooks, hsummary⟩ := (kept_books hunbroken).of_muster h hmuster
  have hreader := hmuster.reader_of_result hreturned
  have htally := hsummary summary hreader
  subst hreader
  have hfinished : ∀ e ∈ crew, e.phase = .finished :=
    fun e he => ItemPhase.eq_finished (hbooks.finished rfl e he)
  -- All tasks have finished, so that nothing is left between a fetch and its counts.
  have hcounts := settled_of_history hslots hservice h fun task htask => by
    rw [hmuster.standing] at htask
    rcases List.mem_cons.mp htask with rfl | htask
    · exact ⟨rfl, rfl⟩
    · obtain ⟨e, he, rfl⟩ := List.mem_map.mp htask
      rw [Errand.task, hfinished e he]
      exact ⟨rfl, rfl⟩
  have hnone : crew.flatMap (fun e => if e.phase.isRecorded then [e.place] else []) = [] := by
    apply List.flatMap_eq_nil_iff.mpr
    intro e he
    rw [hfinished e he]
    rfl
  rw [hnone, List.append_nil] at hplaces
  rw [← htally, records_of_history hslots h] at hcounts
  have hlists := Envelope.lists_elements
    ((CrawlTask.written c.plan (Input.items c.plan.format input) events).map (·.2))
  have helements := hlists.startTags
  rw [List.length_map, hcounts.2] at helements
  have hcomplete := hstreams.complete hgrown.closed
  rw [hgrown.text] at hcomplete
  exact ⟨_, hcomplete, hlists, hcounts.1, hcounts.2, helements, hplaces⟩

end Transport

/-- Whatever the server does and however the tasks run, the envelope and the counts agree. -/
theorem recorded_of_history {s : Settings} {header : String} {clock : Nat → Time.Moment}
    {pages : Transport} {sink : Sink} (hc : c.Ready s)
    (hservice : c.plan.service = pages.service header clock)
    (h : (CrawlTask.machine c.plan).History (c.start (Input.lines input) (.start sink) requeue)
      events last) :
    c.Recorded input sink events last where
  records := records_of_history hc.slots h
  balance := balance_of_history hc.slots hservice h
  settled := settled_of_history hc.slots hservice h
  unclosed a ha item result hphase := by
    obtain ⟨earlier, hearlier, -⟩ := h.before_of_mem ha
    exact unclosed_of_history hc.slots rfl hearlier hphase rfl
  own := by
    obtain ⟨done, reader, crew, hmuster, -, hown⟩ := (kept_sent hservice).of_history h
    exact hown
  returned _ hreturned := delivered_of_history hc.slots hservice h hreturned

def greeting : Transport := fun _ _ => (.ok { status := 200, body := .ok [104, 105] }, some 0)

def greeted : FetchService := greeting.service "crawler/1.0" fun _ => { seconds := 0 }

theorem greeted_eq_record (call : FetchCall) :
    ∃ page, greeted [] call = { result := .record page } := ⟨_, rfl⟩

theorem recorded_greeted : ∃ (c : Crawler Unit Unit)
    (events : List (Event (CrawlTask Unit) (CrawlState Unit)))
    (last : Configuration (CrawlTask Unit) (CrawlState Unit)),
    c.Ready (Passage.settings Lone.line 5 1) ∧
    c.plan.service = greeting.service "crawler/1.0" (fun _ => { seconds := 0 }) ∧
    (CrawlTask.machine c.plan).History
      (c.start (Input.lines Lone.input) (.start {}) (.disabled .raw)) events last ∧
    last.tasks[readerTask]?.bind (·.result?) =
      some (.ok { read := 1, dispatched := 1, completed := 1 }) ∧
    last.shared.envelope.records = 1 ∧ c.Recorded Lone.input {} events last := by
  have hready : (Passage.crawler greeted 5 1 0).Ready (Passage.settings Lone.line 5 1) :=
    .made (Passage.made Lone.line greeted 5 1 0)
  have hservice : (Passage.crawler greeted 5 1 0).plan.service =
      greeting.service "crawler/1.0" (fun _ => { seconds := 0 }) := rfl
  obtain ⟨page, hpage⟩ := greeted_eq_record { time := 0, target := Lone.target }
  obtain ⟨events, last, hhistory, hreturned, -, hrecords⟩ :=
    Lone.exists_paged greeted hpage
  exact ⟨_, events, last, hready, hservice, hhistory, hreturned, hrecords,
    recorded_of_history hready hservice hhistory⟩

end Crawler

end PoliteCrawl

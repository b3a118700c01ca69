import PoliteCrawl.Proofs.Crawl.Accounts

namespace PoliteCrawl

variable {ψ ε : Type}

/-- The summary of a crawl accounts for its input: the counts add up, every item is counted once,
by a task that works for it, and none lacks an address or a host once it has a task. -/
structure Accounted (plan : CrawlPlan ψ ε) (input : List UInt8)
    (events : List (Event (CrawlTask ψ) (CrawlState ε))) (summary : CrawlSummary) : Prop where
  read : summary.read = (Input.itemLines plan.format input).length
  read_eq : summary.read = summary.skipped + summary.outOfPartition + summary.dispatched
  dispatched_eq : summary.dispatched = summary.rejected + summary.robotsDenied + summary.completed
  failed_le : summary.failed ≤ summary.completed
  once : ((CrawlTask.verdicts plan (Input.items plan.format input) events).map (·.1)).Perm
    (List.range summary.read)
  under : ∀ fate, summary.under fate =
    (CrawlTask.verdicts plan (Input.items plan.format input) events).countP (·.2 = fate)
  own : ∀ a ∈ acts events, ∀ phase, a.phase? = some (.item phase) → ∃ place item,
    CrawlTask.place? plan (Input.items plan.format input) a = some place ∧
      (Input.items plan.format input)[place]? = some item ∧ phase.Of item
  targeted : ∀ a ∈ acts events, ∀ item admission,
    a.phase? = some (.item (.targeting item admission)) →
      item.url?.isSome ∧ item.hostKey?.isSome

theorem WorkItem.issue?_of_takes {plan : CrawlPlan ψ ε} {item : WorkItem}
    (h : plan.takes item = true) : item.issue? = none :=
  Option.isNone_iff_eq_none.mp (Bool.and_eq_true_iff.mp h).1

namespace Crawler

variable {c : Crawler ψ ε} {input : List UInt8} {envelope : Envelope} {requeue : RequeueStream}
  {events : List (Event (CrawlTask ψ) (CrawlState ε))}
  {last : Configuration (CrawlTask ψ) (CrawlState ε)}

theorem kept_books (hservice : ∀ calls call, (c.plan.service calls call).result.Unbroken) :
    c.Kept input envelope requeue fun done reader crew events s =>
      (∀ e ∈ crew, e.phase.Unbroken) ∧
      Books c.plan done reader crew s
        (CrawlTask.verdicts c.plan (Input.items c.plan.format input) events) ∧
      ∀ summary, reader = .returned (.ok summary) → summary.toTally = s.tally where
  start := by
    refine ⟨?_, ?_, ?_⟩
    · intro e he
      cases he
    · refine ⟨rfl, rfl, rfl, rfl, Nat.le_refl _, ?_, .refl _, rfl, fun _ => rfl⟩
      intro fate
      cases fate <;> rfl
    · intro summary hreader
      cases hreader
  reader _ hmuster hkept hleads hahead := by
    -- The reader may leave an item behind, and the books gain its fate or its task.
    obtain ⟨hunbroken, hbooks, -⟩ := hkept
    obtain ⟨-, hmove⟩ := hleads.move hmuster.fair
    obtain ⟨gone, hahead', -, -, hbooks'⟩ :=
      hbooks.reader_act hmove hleads.unfinished hleads.closed
    obtain rfl := List.append_cancel_right (hahead'.symm.trans hahead)
    refine ⟨?_, ?_, ?_⟩
    · exact Errand.forall_started hunbroken (fun item => trivial) _
    · rw [CrawlTask.verdicts_act rfl]
      exact hbooks'
    · rintro summary rfl
      rw [hleads.returned]
      rfl
  errand := by
    -- The task of an errand may settle the fate of its own item only.
    intro done reader front e back events d turn phase' _ hmuster hkept hleads
    obtain ⟨hunbroken, hbooks, -⟩ := hkept
    have he : e ∈ front ++ e :: back := List.mem_append_cons_self
    have hissue := WorkItem.issue?_of_takes (hmuster.origin_mem he).2
    obtain ⟨hgoes, hunfinished⟩ := hleads.unfinished
    have hmove := hleads.move hissue (hmuster.own e he) (hunbroken e he)
    refine ⟨?_, ?_, ?_⟩
    · exact Errand.forall_replaced hunbroken (hleads.unbroken hservice (hunbroken e he))
    · rw [CrawlTask.verdicts_act hmuster.place?_errand]
      exact hbooks.errand_act hmove hgoes hunfinished
    · rintro summary rfl
      exact absurd rfl (hbooks.not_closed hgoes)
  pass hkept := by
    rw [CrawlTask.verdicts_pass]
    exact hkept

theorem books_of_history (hservice : ∀ calls call, (c.plan.service calls call).result.Unbroken)
    (h : (CrawlTask.machine c.plan).History (c.start (Input.lines input) envelope requeue) events
      last) :
    ∃ done reader crew,
      Muster c.plan (Input.items c.plan.format input) done reader crew last.tasks ∧
      (∀ e ∈ crew, e.phase.Unbroken) ∧
      Books c.plan done reader crew last.shared
        (CrawlTask.verdicts c.plan (Input.items c.plan.format input) events) ∧
      ∀ summary, reader = .returned (.ok summary) → summary.toTally = last.shared.tally :=
  (kept_books hservice).of_history h

/-- A task other than the reader works for the item that it was started for, which can be
fetched. -/
theorem own_of_history (hservice : ∀ calls call, (c.plan.service calls call).result.Unbroken)
    (h : (CrawlTask.machine c.plan).History (c.start (Input.lines input) envelope requeue) events
      last)
    {a : Act (CrawlTask ψ) (CrawlState ε)} (ha : a ∈ acts events) {phase : ItemPhase ψ}
    (hphase : a.phase? = some (.item phase)) :
    ∃ place item, CrawlTask.place? c.plan (Input.items c.plan.format input) a = some place ∧
      (Input.items c.plan.format input)[place]? = some item ∧ item.issue? = none ∧
        phase.Of item := by
  obtain ⟨earlier, hearlier, -⟩ := h.before_of_mem ha
  obtain ⟨done, reader, crew, hmuster, -⟩ := books_of_history hservice hearlier
  obtain ⟨c', task, turn⟩ := a
  obtain ⟨front, e, back, rfl, rfl, rfl⟩ := hmuster.errand_of_item hphase
  have he : e ∈ front ++ e :: back := List.mem_append_cons_self
  obtain ⟨hplace, htakes⟩ := hmuster.origin_mem he
  exact ⟨e.place, e.item, hmuster.place?_errand, hplace, WorkItem.issue?_of_takes htakes,
    hmuster.own e he⟩

/-- The summary that a crawl returns accounts for its input, unless a fetch broke off. -/
theorem accounted_of_returned {summary : CrawlSummary}
    (hservice : ∀ calls call, (c.plan.service calls call).result.Unbroken)
    (h : (CrawlTask.machine c.plan).History (c.start (Input.lines input) envelope requeue) events
      last)
    (hreturned : last.tasks[readerTask]?.bind (·.result?) = some (.ok summary)) :
    Accounted c.plan input events summary := by
  obtain ⟨done, reader, crew, hmuster, -, hbooks, hsummary⟩ := books_of_history hservice h
  have hreader := hmuster.reader_of_result hreturned
  have htally := hsummary summary hreader
  subst hreader
  -- The reader has returned, so it has no item ahead of it.
  have hdone : Input.items c.plan.format input = done := by
    rw [hmuster.order]
    exact List.append_nil done
  have hread : summary.read = done.length := by
    rw [htally, hbooks.read]
    rfl
  -- Every task has finished, so every item that was taken has met its fate.
  have hsettled : ∀ e ∈ crew, e.phase.settled = true :=
    fun e he => ItemPhase.settled_of_isFinished (hbooks.finished rfl e he)
  have htaken : crew.length = done.countP c.plan.takes := by
    rw [← c.plan.length_taken, ← hmuster.origins, List.length_map]
  have hdispatched : summary.dispatched = crew.length := by
    rw [htally, hbooks.dispatched]
    rfl
  refine ⟨?_, ?_, ?_, ?_, ?_, ?_, ?_, ?_⟩
  · rw [hread, ← hdone, Input.length_items]
  · have hsplit := List.length_eq_countP_add_countP c.plan.takes (l := done)
    have hout := hbooks.sortedOut
    rw [← htally] at hout
    simp only [Tally.sortedOut, Bool.not_eq_true, Bool.decide_eq_false] at hout hsplit
    omega
  · have hcount := hbooks.settled
    rw [List.countP_eq_length.mpr hsettled, ← htally] at hcount
    rw [hdispatched, ← hcount]
    rfl
  · have hfailed := hbooks.failed
    rw [htally]
    omega
  · rw [htally]
    exact hbooks.places_of_returned hmuster
  · intro fate
    rw [htally]
    exact hbooks.under fate
  · intro a ha phase hphase
    obtain ⟨place, item, hplace, hitem, -, hof⟩ := own_of_history hservice h ha hphase
    exact ⟨place, item, hplace, hitem, hof⟩
  · intro a ha item admission hphase
    obtain ⟨place, item', -, -, hissue, hof⟩ := own_of_history hservice h ha hphase
    obtain ⟨url, host, hurl, hhost⟩ := WorkItem.exists_target_of_issue?_eq_none hissue
    cases hof
    exact ⟨Option.isSome_of_eq_some hurl, Option.isSome_of_eq_some hhost⟩

def shut : Crawler Unit Unit where
  plan := {
    rule := .own (.fixed false)
    service := fun _ _ => { result := .failed .writerClosed }
    partition := none
    format := .raw
    agent := "crawler" }
  hosts := {
    minInterval := 0
    service := fun _ _ => { answer := .ok none }
    jitter := .seeded 0
    cache := .empty 1 }
  valve := { threshold := 0, baseWait := 0, jitter := .seeded 0 }
  own := ()
  slots := { free := 1 }

def twoLines : List UInt8 := "x\nhttp://[::1]/\n".toUTF8.toList

/-- The reader reads both lines, the task of the second ends, and the reader ends. -/
def shutRun : List (Event (CrawlTask Unit) (CrawlState Unit)) ×
    Configuration (CrawlTask Unit) (CrawlState Unit) :=
  (CrawlTask.machine shut.plan).follow (shut.start (Input.lines twoLines) (.start {})
    (.disabled .raw)) [] (List.replicate 8 (.inl 0) ++ List.replicate 8 (.inl 1) ++
      List.replicate 4 (.inl 0))

deriving instance DecidableEq for Except

theorem accounted_shutRun :
    (∀ calls call, (shut.plan.service calls call).result.Unbroken) ∧
      Accounted shut.plan twoLines shutRun.1
        { read := 2, skipped := 1, dispatched := 1, rejected := 1 } :=
  ⟨fun _ _ => by simp [shut],
    accounted_of_returned (fun _ _ => by simp [shut])
      ((CrawlTask.machine shut.plan).history_follow (.refl _) _) (by decide +kernel)⟩

end Crawler

end PoliteCrawl

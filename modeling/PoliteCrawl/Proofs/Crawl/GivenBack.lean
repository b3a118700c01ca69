import PoliteCrawl.Proofs.Crawl.Endings
import PoliteCrawl.Proofs.Output.Requeue
import PoliteCrawl.Proofs.WorkItem.Line

namespace PoliteCrawl

variable {ψ ε : Type}

def Ending.backlog (items : List WorkItem) (endings : List (Nat × Ending)) : List WorkItem :=
  (endings.filter (·.2.goesBack)).filterMap fun x => items[x.1]?

namespace Ending

variable {items : List WorkItem}

theorem backlog_append (xs ys : List (Nat × Ending)) :
    backlog items (xs ++ ys) = backlog items xs ++ backlog items ys := by
  rw [backlog, List.filter_append, List.filterMap_append, backlog, backlog]

theorem backlog_note (place : Nat) (ending? : Option Ending) :
    backlog items (ending?.toList.map (place, ·)) =
      if ending?.any goesBack then items[place]?.toList else [] := by
  cases ending? with
  | none => rfl
  | some ending =>
    cases hback : ending.goesBack with
    | false => simp [backlog, hback]
    | true => cases hitem : items[place]? <;> simp [backlog, hback, hitem]

end Ending

namespace CrawlTask

def gives? : CrawlTask ψ → Option WorkItem
  | reader (.givingBack given _) | item (.requeueing given _) => some given
  | _ => none

def given (events : List (Event (CrawlTask ψ) (CrawlState ε))) : List WorkItem :=
  (acts events).filterMap fun a => a.phase?.bind gives?

def calling? : CrawlTask ψ → Option Candidate
  | item (.calling candidate) => some candidate
  | _ => none

/-- The fetches that were called for, with the places of the items. -/
def fetched (plan : CrawlPlan ψ ε) (items : List WorkItem)
    (events : List (Event (CrawlTask ψ) (CrawlState ε))) : List (Nat × Candidate) :=
  noted (fun task _ => (calling? task).toList) plan items events

theorem eq_calling {phase : ItemPhase ψ} {candidate : Candidate}
    (h : calling? (.item phase) = some candidate) : phase = .calling candidate := by
  cases phase with
  | calling candidate' =>
    cases h
    rfl
  | _ => cases h

variable {events : List (Event (CrawlTask ψ) (CrawlState ε))}

theorem given_act {a : Act (CrawlTask ψ) (CrawlState ε)} {phase : CrawlTask ψ}
    (hphase : a.phase? = some phase) :
    given (events ++ [.act a]) = given events ++ phase.gives?.toList := by
  rw [given, acts_append, acts_act, List.filterMap_append]
  congr 1
  rw [List.filterMap_cons, List.filterMap_nil, hphase, Option.bind_some]
  cases phase.gives? <;> rfl

@[simp] theorem given_pass {c : Configuration (CrawlTask ψ) (CrawlState ε)} {later : Nat} :
    given (events ++ [.pass c later]) = given events := by
  rw [given, acts_append, acts_pass, List.append_nil, given]

end CrawlTask

namespace ReaderPhase

def owed : ReaderPhase → List WorkItem
  | givingBack item _ => [item]
  | _ => []

/-- What becomes of a stream as the reader goes on: it is flushed at the end. -/
def streamed (r : RequeueStream) : ReaderPhase → RequeueStream
  | closing | returned _ => r.flush.2
  | _ => r

variable {plan : CrawlPlan ψ ε} {phase phase' : ReaderPhase} {s s' : CrawlState ε}
  {started : List WorkItem}

theorem inHand_of_ending? {ending : Ending} (h : phase.ending? plan = some ending) :
    ∃ item, phase.inHand = some item := by
  cases phase with
  | sorting item lines => exact ⟨item, rfl⟩
  | _ => cases h

theorem ahead_of_inHand {item : WorkItem} (format : LineFormat) (h : phase.inHand = some item) :
    ∃ rest, phase.ahead format = item :: rest := by
  cases phase with
  | sorting | asking | inLine | dispatching =>
    cases h
    exact ⟨_, rfl⟩
  | _ => cases h

/-- What ends and goes back is owed until it is given. -/
theorem Leads.owed (h : Leads plan phase s phase' s' started) :
    (if (phase.ending? plan).any Ending.goesBack then phase.inHand.toList else []) ++ phase.owed =
      (CrawlTask.gives? (ψ := ψ) (.reader phase)).toList ++ phase'.owed := by
  cases h with
  | skips _ hissue =>
    rw [ending?, if_pos hissue]
    rfl
  | passesOn htakes hissue =>
    rw [ending?_of_outside _ htakes hissue]
    rfl
  | keeps htakes =>
    rw [ending?_of_takes _ htakes]
    rfl
  | _ => rfl

theorem Leads.streamed {r : RequeueStream} (h : Leads plan phase s phase' s' started)
    (hstream : s.requeue = phase.streamed r) :
    s'.requeue =
      phase'.streamed (r.addAll (CrawlTask.gives? (ψ := ψ) (.reader phase)).toList) := by
  cases h with
  | givesBack item =>
    change (s.requeue.add item).2 = (r.add item).2
    rw [hstream]
    rfl
  | flushes | breaksOff =>
    change s.requeue.flush.2 = r.flush.2
    rw [hstream]
    rfl
  | _ => exact hstream

end ReaderPhase

namespace ItemPhase

def owed : ItemPhase ψ → List WorkItem
  | failing item error => if error.isRetryable then [item] else []
  | requeueing item _ => [item]
  | _ => []

def mayFetch : ItemPhase ψ → Bool
  | entering .. | targeting .. | looking .. | judging .. | pausing .. | calling _ => true
  | _ => false

variable {plan : CrawlPlan ψ ε} {now task : Nat} {phase phase' : ItemPhase ψ} {s s' : CrawlState ε}

theorem Leads.owed {item : WorkItem} (h : Leads plan now task phase s phase' s')
    (hof : phase.Of item) :
    (if (phase.ending? plan).any Ending.goesBack then [item] else []) ++ phase.owed =
      (CrawlTask.gives? (.item phase)).toList ++ phase'.owed := by
  cases h with
  | rejects =>
    cases hof
    rfl
  | denies hallowed | pausesFor hallowed | goesOn hallowed =>
    rw [ending?, hallowed]
    rfl
  | fails item' error =>
    cases hof
    cases hretry : error.isRetryable <;>
      simp [ending?, Ending.goesBack, ItemPhase.owed, CrawlTask.gives?, hretry]
  | retries hretry =>
    rw [ItemPhase.owed, if_pos hretry]
    rfl
  | givesUp hretry =>
    rw [ItemPhase.owed, hretry]
    rfl
  | requeues item' entered => cases entered <;> rfl
  | _ => rfl

theorem Leads.requeue (h : Leads plan now task phase s phase' s') :
    s'.requeue = s.requeue.addAll (CrawlTask.gives? (.item phase)).toList := by
  cases h <;> rfl

/-- Once its fetch has been called for, an item is not fetched again. -/
theorem Leads.mayFetch (h : Leads plan now task phase s phase' s')
    (hmay : phase'.mayFetch = true) :
    phase.mayFetch = true ∧ CrawlTask.calling? (.item phase) = none := by
  cases h with
  | turnedAway | rejects | strays | denies | calls | answered | breaksOff | writes | succeeds | fails
  | retries | givesUp | leaves | frees => cases hmay
  | requeues item entered => cases entered <;> cases hmay
  | _ => exact ⟨rfl, rfl⟩

/-- The log of fetches grows by the one that is called for. -/
theorem Leads.called (h : Leads plan now task phase s phase' s') :
    s'.fetches.calls.map (·.target) = s.fetches.calls.map (·.target) ++
      (CrawlTask.calling? (.item phase)).toList.map (·.target) := by
  cases h with
  | calls candidate => exact List.map_append
  | _ => exact (List.append_nil _).symm

end ItemPhase

/-- The item in the reader's hand stands at the place that was read last. -/
theorem Muster.inHand_place {plan : CrawlPlan ψ ε} {items done : List WorkItem}
    {reader : ReaderPhase} {crew : List (Errand ψ)} {tasks : List (CrawlTask ψ)} {read : Nat}
    {item : WorkItem} (h : Muster plan items done reader crew tasks)
    (hread : read = done.length + reader.inHand.toList.length)
    (hhand : reader.inHand = some item) : items[read - 1]? = some item := by
  obtain ⟨rest, hahead⟩ := ReaderPhase.ahead_of_inHand plan.format hhand
  rw [hhand, Option.toList_some, List.length_singleton] at hread
  rw [hread, Nat.add_sub_cancel, h.order, hahead]
  simp

structure Ledger (items : List WorkItem) (requeue : RequeueStream) (reader : ReaderPhase)
    (crew : List (Errand ψ)) (endings : List (Nat × Ending)) (given : List WorkItem)
    (s : CrawlState ε) : Prop where
  backlog : (Ending.backlog items endings).Perm
    (given ++ (reader.owed ++ crew.flatMap (·.phase.owed)))
  stream : s.requeue = reader.streamed (requeue.addAll given)
  summary : ∀ summary, reader = .returned (.ok summary) → summary = s.summary

namespace Ledger

variable {plan : CrawlPlan ψ ε} {items done : List WorkItem} {requeue : RequeueStream}
  {reader reader' : ReaderPhase} {crew front back : List (Errand ψ)} {e : Errand ψ}
  {phase' : ItemPhase ψ} {endings : List (Nat × Ending)} {given : List WorkItem}
  {c : Configuration (CrawlTask ψ) (CrawlState ε)} {s' : CrawlState ε} {started : List WorkItem}

theorem reader_act (h : Ledger items requeue reader crew endings given c.shared)
    (hmuster : Muster plan items done reader crew c.tasks)
    (hread : c.shared.tally.read = done.length + reader.inHand.toList.length)
    (hleads : reader.Leads plan c.shared reader' s' started) (place : Nat) :
    Ledger items requeue reader' (crew ++ started.map (.fresh · place))
      (endings ++ (reader.ending? plan).toList.map (c.shared.tally.read - 1, ·))
      (given ++ (CrawlTask.gives? (ψ := ψ) (.reader reader)).toList) s' := by
  -- The item that ends is the one in the reader's hand.
  have hended : (if (reader.ending? plan).any Ending.goesBack then
      items[c.shared.tally.read - 1]?.toList else []) =
      if (reader.ending? plan).any Ending.goesBack then reader.inHand.toList else [] := by
    cases hending : reader.ending? plan with
    | none => rfl
    | some ending =>
      obtain ⟨item, hhand⟩ := ReaderPhase.inHand_of_ending? hending
      rw [hmuster.inHand_place hread hhand, hhand]
  have hfresh : (started.map (Errand.fresh (ψ := ψ) · place)).flatMap (·.phase.owed) = [] := by
    apply List.flatMap_eq_nil_iff.mpr
    intro e he
    obtain ⟨item, -, rfl⟩ := List.mem_map.mp he
    rfl
  refine ⟨?_, ?_, ?_⟩
  · rw [Ending.backlog_append, Ending.backlog_note, hended, List.flatMap_append, hfresh,
      List.append_nil]
    apply List.perm_iff_count.mpr
    intro item
    have hbefore := h.backlog.count_eq item
    have howed := congrArg (List.count item) (hleads.owed (ψ := ψ))
    simp only [List.count_append] at hbefore howed ⊢
    omega
  · rw [RequeueStream.addAll_append]
    exact hleads.streamed h.stream
  · rintro summary rfl
    exact hleads.returned

theorem errand_act (h : Ledger items requeue reader (front ++ e :: back) endings given c.shared)
    (hmuster : Muster plan items done reader (front ++ e :: back) c.tasks)
    (hopen : reader.stage ≠ .closed)
    (hleads : e.phase.Leads plan c.now (front.length + 1) c.shared phase' s') :
    Ledger items requeue reader (front ++ { e with phase := phase' } :: back)
      (endings ++ (e.phase.ending? plan).toList.map (e.place, ·))
      (given ++ (CrawlTask.gives? (.item e.phase)).toList) s' := by
  have he : e ∈ front ++ e :: back := List.mem_append_cons_self
  -- The stream has not been flushed as long as a task goes on.
  have hstreamed : ∀ r, reader.streamed r = r := by
    intro r
    cases reader with
    | closing | returned => exact absurd rfl hopen
    | _ => rfl
  refine ⟨?_, ?_, ?_⟩
  · rw [Ending.backlog_append, Ending.backlog_note, (hmuster.origin_mem he).1, Option.toList_some]
    apply List.perm_iff_count.mpr
    intro item
    have hbefore := h.backlog.count_eq item
    have howed := congrArg (List.count item) (hleads.owed (hmuster.own e he))
    simp only [List.count_append, List.flatMap_append, List.flatMap_cons] at hbefore howed ⊢
    omega
  · have hstream := h.stream
    rw [hstreamed] at hstream ⊢
    rw [hleads.requeue, hstream, RequeueStream.addAll_append]
  · rintro summary rfl
    exact absurd rfl hopen

end Ledger

/-- The fetches that were called for after others are those of different items, all of which have
tasks, and a task that may still fetch has not yet. -/
structure FetchedOnce (items : List WorkItem) (others : List FetchCall) (done : List WorkItem)
    (crew : List (Errand ψ)) (fetched : List (Nat × Candidate)) (s : CrawlState ε) : Prop where
  calls : s.fetches.calls.map (·.target) = others.map (·.target) ++ fetched.map (·.2.target)
  own : ∀ x ∈ fetched, ∃ item, items[x.1]? = some item ∧ x.2.Of item
  nodup : (fetched.map (·.1)).Nodup
  lt : ∀ place ∈ fetched.map (·.1), place < done.length
  notYet : ∀ e ∈ crew, e.phase.mayFetch = true → e.place ∉ fetched.map (·.1)

namespace FetchedOnce

variable {plan : CrawlPlan ψ ε} {items done : List WorkItem} {others : List FetchCall}
  {reader reader' : ReaderPhase} {crew front back : List (Errand ψ)} {e : Errand ψ}
  {phase' : ItemPhase ψ} {fetched : List (Nat × Candidate)}
  {c : Configuration (CrawlTask ψ) (CrawlState ε)} {s s' : CrawlState ε}

theorem reader_act {started : List WorkItem} (h : FetchedOnce items others done crew fetched s)
    (hleads : reader.Leads plan s reader' s' started) (gone : List WorkItem) :
    FetchedOnce items others (done ++ gone) (crew ++ started.map (.fresh · done.length)) fetched
      s' where
  calls := by
    rw [hleads.leaves.2]
    exact h.calls
  own := h.own
  nodup := h.nodup
  lt := by
    intro place hplace
    rw [List.length_append]
    exact Nat.lt_add_right _ (h.lt place hplace)
  notYet := by
    refine Errand.forall_started h.notYet (fun item _ hplace => ?_) started
    -- A new task works for an item that the reader had ahead of it until now.
    exact Nat.lt_irrefl _ (h.lt _ hplace)

theorem errand_act (h : FetchedOnce items others done (front ++ e :: back) fetched c.shared)
    (hmuster : Muster plan items done reader (front ++ e :: back) c.tasks)
    (hleads : e.phase.Leads plan c.now (front.length + 1) c.shared phase' s') :
    FetchedOnce items others done (front ++ { e with phase := phase' } :: back)
      (fetched ++ (CrawlTask.calling? (.item e.phase)).toList.map (e.place, ·)) s' := by
  have he : e ∈ front ++ e :: back := List.mem_append_cons_self
  have hplaces : (fetched ++ (CrawlTask.calling? (.item e.phase)).toList.map (e.place, ·)).map
      (·.1) = fetched.map (·.1) ++
        (CrawlTask.calling? (.item e.phase)).toList.map fun _ => e.place := by
    rw [List.map_append, List.map_map]
    rfl
  -- The other errands are for items at other places.
  have hothers : ∀ e' ∈ front ++ back, e'.place ≠ e.place := by
    have hnodup := ((List.perm_middle (a := e)).map (·.place)).nodup_iff.mp hmuster.places_nodup
    intro e' he' heq
    have hmem : e'.place ∈ (front ++ back).map (·.place) := List.mem_map_of_mem he'
    rw [heq] at hmem
    exact (List.nodup_cons.mp hnodup).1 hmem
  refine ⟨?_, ?_, ?_, ?_, ?_⟩
  · rw [hleads.called, h.calls, List.map_append, List.map_map, List.append_assoc]
    rfl
  · intro x hx
    rcases List.mem_append.mp hx with hx | hx
    · exact h.own x hx
    · obtain ⟨candidate, hcandidate, rfl⟩ := List.mem_map.mp hx
      have hown := hmuster.own e he
      rw [CrawlTask.eq_calling (Option.mem_toList.mp hcandidate)] at hown
      exact ⟨e.item, (hmuster.origin_mem he).1, hown⟩
  · rw [hplaces]
    cases hcalling : CrawlTask.calling? (.item e.phase) with
    | none =>
      rw [Option.toList_none, List.map_nil, List.append_nil]
      exact h.nodup
    | some candidate =>
      have hmay : e.phase.mayFetch = true := by
        rw [CrawlTask.eq_calling hcalling]
        rfl
      have hnew := h.notYet e he hmay
      rw [Option.toList_some, List.map_singleton]
      refine List.nodup_append.mpr ⟨h.nodup, List.nodup_cons.mpr ⟨List.not_mem_nil, .nil⟩, ?_⟩
      rintro place hplace _ hplace' rfl
      exact hnew (List.mem_singleton.mp hplace' ▸ hplace)
  · intro place hplace
    rw [hplaces, List.mem_append] at hplace
    rcases hplace with hplace | hplace
    · exact h.lt place hplace
    · obtain ⟨candidate, -, rfl⟩ := List.mem_map.mp hplace
      exact hmuster.place_lt he
  · intro e' he' hmay
    rw [hplaces, List.mem_append, not_or]
    rcases List.mem_cons.mp (List.perm_middle.mem_iff.mp he') with rfl | hother
    · obtain ⟨hmay', hcalling⟩ := hleads.mayFetch hmay
      rw [hcalling]
      exact ⟨h.notYet e he hmay', List.not_mem_nil⟩
    · have hbefore : e' ∈ front ++ e :: back :=
        List.perm_middle.mem_iff.mpr (List.mem_cons_of_mem e hother)
      refine ⟨h.notYet e' hbefore hmay, ?_⟩
      intro hplace
      obtain ⟨candidate, -, heq⟩ := List.mem_map.mp hplace
      exact hothers e' hother heq.symm

end FetchedOnce

/-- What a run makes of its items: it fetches none of them twice, and when it returns a summary each
has come to one end, and the stream that was new has a line for each item that is to be tried again
and nothing else, or counts them if it has no destination. -/
structure Crawler.ItemsKept (c : Crawler ψ ε) (input : List UInt8) (requeue : RequeueStream)
    (events : List (Event (CrawlTask ψ) (CrawlState ε)))
    (last : Configuration (CrawlTask ψ) (CrawlState ε)) : Prop where
  calls : last.shared.fetches.calls.map (·.target) = c.fetches.calls.map (·.target) ++
    (CrawlTask.fetched c.plan (Input.items c.plan.format input) events).map (·.2.target)
  own : ∀ x ∈ CrawlTask.fetched c.plan (Input.items c.plan.format input) events,
    ∃ item, (Input.items c.plan.format input)[x.1]? = some item ∧ x.2.Of item
  once : ((CrawlTask.fetched c.plan (Input.items c.plan.format input) events).map (·.1)).Nodup
  ended : ∀ summary, last.tasks[readerTask]?.bind (·.result?) = some (.ok summary) →
    ((CrawlTask.endings c.plan (Input.items c.plan.format input) events).map (·.1)).Perm
      (List.range summary.read)
  appended : ∀ summary, last.tasks[readerTask]?.bind (·.result?) = some (.ok summary) →
    ∀ sink format, sink.Willing → requeue = .appending sink format → ∃ lines : List String,
      lines.Perm ((Ending.backlog (Input.items c.plan.format input) (CrawlTask.endings c.plan
        (Input.items c.plan.format input) events)).map (·.toLine format)) ∧
      last.shared.requeue.text? =
        some (sink.taken ++ lines.flatMap fun line => line.toList ++ ['\n']) ∧
      summary.requeued = lines.length ∧
      (format = c.plan.format → ∀ line ∈ lines, '\n' ∉ line.toList)
  dropped : ∀ summary, last.tasks[readerTask]?.bind (·.result?) = some (.ok summary) →
    ∀ format, requeue = .disabled format → summary.requeued = 0 ∧
      last.shared.requeue.dropped = (Ending.backlog (Input.items c.plan.format input)
        (CrawlTask.endings c.plan (Input.items c.plan.format input) events)).length

theorem Ending.mem_of_mem_backlog {items : List WorkItem} {endings : List (Nat × Ending)}
    {item : WorkItem} (h : item ∈ backlog items endings) : item ∈ items := by
  obtain ⟨x, -, hitem⟩ := List.mem_filterMap.mp h
  exact List.mem_of_getElem? hitem

namespace Crawler

variable {c : Crawler ψ ε} {input : List UInt8} {envelope : Envelope} {requeue : RequeueStream}
  {events : List (Event (CrawlTask ψ) (CrawlState ε))}
  {last : Configuration (CrawlTask ψ) (CrawlState ε)} {summary : CrawlSummary}

theorem books_of_muster (hservice : ∀ calls call, (c.plan.service calls call).result.Unbroken)
    (h : (CrawlTask.machine c.plan).History (c.start (Input.lines input) envelope requeue) events
      last)
    {done : List WorkItem} {reader : ReaderPhase} {crew : List (Errand ψ)}
    (hmuster : Muster c.plan (Input.items c.plan.format input) done reader crew last.tasks) :
    Books c.plan done reader crew last.shared
      (CrawlTask.verdicts c.plan (Input.items c.plan.format input) events) :=
  ((kept_books hservice).of_muster h hmuster).2.1

theorem kept_ledger (hservice : ∀ calls call, (c.plan.service calls call).result.Unbroken) :
    c.Kept input envelope requeue fun _ reader crew events s =>
      Ledger (Input.items c.plan.format input) requeue reader crew
        (CrawlTask.endings c.plan (Input.items c.plan.format input) events)
        (CrawlTask.given events) s where
  start := ⟨.refl _, rfl, fun _ hreader => by cases hreader⟩
  reader h hmuster hledger hleads _ := by
    rw [CrawlTask.endings, CrawlTask.noted_reader hmuster,
      CrawlTask.given_act hmuster.phase?_reader]
    exact hledger.reader_act hmuster (books_of_muster hservice h hmuster).read hleads _
  errand h hmuster hledger hleads := by
    have hopen := (books_of_muster hservice h hmuster).not_closed hleads.unfinished.1
    rw [CrawlTask.endings, CrawlTask.noted_errand hmuster,
      CrawlTask.given_act hmuster.phase?_errand]
    exact hledger.errand_act hmuster hopen hleads
  pass hledger := by
    rw [CrawlTask.endings, CrawlTask.noted_pass, CrawlTask.given_pass]
    exact hledger

theorem kept_fetchedOnce : c.Kept input envelope requeue fun done _ crew events s =>
    FetchedOnce (Input.items c.plan.format input) c.fetches.calls done crew
      (CrawlTask.fetched c.plan (Input.items c.plan.format input) events) s where
  start := by
    refine ⟨(List.append_nil _).symm, ?_, .nil, ?_, ?_⟩
    · intro x hx
      cases hx
    · intro place hplace
      cases hplace
    · intro e he
      cases he
  reader _ hmuster hfetched hleads _ := by
    rw [CrawlTask.fetched, CrawlTask.noted_reader hmuster]
    change FetchedOnce _ _ _ _ (_ ++ []) _
    rw [List.append_nil]
    exact hfetched.reader_act hleads _
  errand _ hmuster hfetched hleads := by
    rw [CrawlTask.fetched, CrawlTask.noted_errand hmuster]
    exact hfetched.errand_act hmuster hleads
  pass hfetched := by
    rw [CrawlTask.fetched, CrawlTask.noted_pass]
    exact hfetched

/-- When a run has returned a summary, nothing is owed. -/
theorem backlog_given (hservice : ∀ calls call, (c.plan.service calls call).result.Unbroken)
    (h : (CrawlTask.machine c.plan).History (c.start (Input.lines input) envelope requeue) events
      last)
    (hreturned : last.tasks[readerTask]?.bind (·.result?) = some (.ok summary)) :
    (Ending.backlog (Input.items c.plan.format input) (CrawlTask.endings c.plan
      (Input.items c.plan.format input) events)).Perm (CrawlTask.given events) ∧
    last.shared.requeue = (requeue.addAll (CrawlTask.given events)).flush.2 ∧
    summary.requeued = last.shared.requeue.written := by
  obtain ⟨done, reader, crew, hmuster, hledger⟩ := (kept_ledger hservice).of_history h
  have hreader := hmuster.reader_of_result hreturned
  have hbooks := books_of_muster hservice h hmuster
  have hsummary := hledger.summary summary hreader
  have hstream := hledger.stream
  have hbacklog := hledger.backlog
  subst hreader
  have howed : crew.flatMap (·.phase.owed) = [] := by
    apply List.flatMap_eq_nil_iff.mpr
    intro e he
    rw [ItemPhase.eq_finished (hbooks.finished rfl e he)]
    rfl
  change (Ending.backlog _ _).Perm (_ ++ ([] ++ _)) at hbacklog
  rw [howed, List.append_nil, List.append_nil] at hbacklog
  refine ⟨hbacklog, hstream, ?_⟩
  rw [hsummary]
  rfl

theorem itemsKept_of_history
    (hservice : ∀ calls call, (c.plan.service calls call).result.Unbroken)
    (h : (CrawlTask.machine c.plan).History (c.start (Input.lines input) envelope requeue) events
      last) :
    c.ItemsKept input requeue events last := by
  obtain ⟨done, reader, crew, hmuster, hfetched⟩ := kept_fetchedOnce.of_history h
  refine ⟨hfetched.calls, hfetched.own, hfetched.nodup, ?_, ?_, ?_⟩
  · intro summary hreturned
    obtain ⟨done, reader, crew, hmuster, -, hbooks, hsummary⟩ := books_of_history hservice h
    have hreader := hmuster.reader_of_result hreturned
    have htally := hsummary summary hreader
    subst hreader
    have hplaces := hbooks.places_of_returned hmuster
    rw [CrawlTask.verdicts_eq_endings h, List.map_map, ← htally] at hplaces
    exact hplaces
  · rintro summary hreturned sink format hwilling rfl
    obtain ⟨hbacklog, hstream, hrequeued⟩ := backlog_given hservice h hreturned
    obtain ⟨htext, hwritten⟩ :=
      RequeueStream.flush_addAll_appending hwilling format (CrawlTask.given events)
    refine ⟨(CrawlTask.given events).map (·.toLine format), (hbacklog.map _).symm, ?_, ?_, ?_⟩
    · rw [hstream, htext, List.flatMap_map]
      rfl
    · rw [hrequeued, hstream, hwritten, List.length_map]
    · rintro rfl line hline
      obtain ⟨item, hitem, rfl⟩ := List.mem_map.mp hline
      exact WorkItem.newline_notMem_toLine
        (Ending.mem_of_mem_backlog (hbacklog.mem_iff.mpr hitem))
  · rintro summary hreturned format rfl
    obtain ⟨hbacklog, hstream, hrequeued⟩ := backlog_given hservice h hreturned
    rw [RequeueStream.addAll_of_disabled rfl, RequeueStream.flush_of_disabled rfl] at hstream
    refine ⟨?_, ?_⟩
    · rw [hrequeued, hstream]
      rfl
    · rw [hstream, hbacklog.length_eq]
      exact Nat.zero_add _

/-- As `shutRun`, with a destination for the item that the valve turns away. -/
def shutWritten : List (Event (CrawlTask Unit) (CrawlState Unit)) ×
    Configuration (CrawlTask Unit) (CrawlState Unit) :=
  (CrawlTask.machine shut.plan).follow (shut.start (Input.lines twoLines) (.start {})
    (.appending (.holding "earlier\n") .raw)) [] (List.replicate 8 (.inl 0) ++
      List.replicate 8 (.inl 1) ++ List.replicate 4 (.inl 0))

theorem itemsKept_shutWritten :
    (∀ calls call, (shut.plan.service calls call).result.Unbroken) ∧
      shut.ItemsKept twoLines (.appending (.holding "earlier\n") .raw) shutWritten.1 shutWritten.2 ∧
      shutWritten.2.tasks[readerTask]?.bind (·.result?) =
        some (.ok { read := 2, skipped := 1, dispatched := 1, rejected := 1, requeued := 1 }) ∧
      shutWritten.2.shared.requeue.text? = some "earlier\nhttp://[::1]/\n".toList :=
  ⟨fun _ _ => by simp [shut],
    itemsKept_of_history (fun _ _ => by simp [shut])
      ((CrawlTask.machine shut.plan).history_follow (.refl _) _),
    by decide +kernel, by decide +kernel⟩

end Crawler

end PoliteCrawl

import PoliteCrawl.Proofs.Crawl.Passage
import PoliteCrawl.Proofs.Crawl.Quiet

namespace PoliteCrawl

variable {ψ ε : Type}

/-- A new stream to a destination, or to none. -/
def RequeueStream.upTo (sink? : Option Sink) (format : LineFormat) : RequeueStream :=
  match sink? with
  | some sink => .appending sink format
  | none => .disabled format

theorem RequeueStream.willing_upTo {sink? : Option Sink} (h : ∀ sink ∈ sink?, sink.Willing)
    (format : LineFormat) : (upTo sink? format).Willing := by
  intro b hb
  cases sink? with
  | none => cases hb
  | some sink =>
    cases hb
    exact h sink rfl

/-- If the first of a pair tells the second, pairs are told by what comes first in them. -/
theorem eq_filterMap_fst {α β : Type} {f : α → Option β} {xs : List (α × β)}
    (h : ∀ x ∈ xs, f x.1 = some x.2) :
    xs = (xs.map (·.1)).filterMap fun a => (f a).map (a, ·) := by
  have hsome : xs.filterMap ((fun a => (f a).map (a, ·)) ∘ (·.1)) = xs.filterMap some := by
    apply List.filterMap_congr
    intro x hx
    simp [h x hx]
  rw [List.filterMap_map, hsome, List.filterMap_some]

/-- A run of a new crawler, up to some point. Its settings make sense and give each slot a place in
the valve, its streams take everything, and answers depend on the host or the address alone. -/
structure QuietRun (w : Answers) (input : List UInt8) where
  settings : Settings
  robots : RobotsService
  service : FetchService
  hostJitter : Jitter
  valveJitter : Jitter
  crawler : Crawler Unit Unit
  output : Sink
  /-- Where items that are to be tried again go. -/
  requeue : Option Sink
  events : List (Event (CrawlTask Unit) (CrawlState Unit))
  last : Configuration (CrawlTask Unit) (CrawlState Unit)
  valid : settings.validate = .ok ()
  room : settings.fetch.maxConcurrent ≤ settings.fetch.pressureThreshold
  made : Crawler.ofSettings settings robots service hostJitter valveJitter = .ok crawler
  answers : w.Govern robots service
  output_willing : output.Willing
  requeue_willing : ∀ sink ∈ requeue, sink.Willing
  history : (CrawlTask.machine crawler.plan).History (crawler.start (Input.lines input)
    (.start output) (.upTo requeue crawler.plan.format)) events last

namespace QuietRun

variable {w : Answers} {input : List UInt8} (r r' : QuietRun w input)

def items : List WorkItem := Input.items r.crawler.plan.format input

def endings : List (Nat × Ending) := CrawlTask.endings r.crawler.plan r.items r.events

def outlook : List (Nat × Ending) :=
  r.items.zipIdx.map fun x =>
    (x.2, w.ending r.crawler.plan.agent r.crawler.plan.partition x.1)

def result? : Option (Except CrawlError CrawlSummary) :=
  r.last.tasks[readerTask]?.bind (·.result?)

def fetched : List Url := r.last.shared.fetches.calls.map (·.target)

def denied : List WorkItem := Ending.denied r.items r.endings

/-- Whether these are the lines of the items that are to be tried again. -/
def Requeued (lines : List String) : Prop :=
  match r.requeue with
  | some sink =>
    r.last.shared.requeue.text? =
        some (sink.taken ++ lines.flatMap fun line => line.toList ++ ['\n']) ∧
      ∀ line ∈ lines, '\n' ∉ line.toList
  | none => r.last.shared.requeue.text? = none ∧ lines = []

structure Unrejected : Prop where
  count : r.last.shared.tally.rejected = 0
  tasks : ∀ item, .item (.rejecting item) ∉ r.last.tasks

/-- Two runs with the same part of the keyspace, name and form of lines, and with destinations for
items that are to be tried again, or without. -/
structure Alike : Prop where
  partition : r.settings.partition = r'.settings.partition
  agent : r.settings.agent.name = r'.settings.agent.name
  format : r.settings.streams.rawInput = r'.settings.streams.rawInput
  requeue : r.requeue.isSome = r'.requeue.isSome

structure AsForetold : Prop where
  ended : r.endings.Perm r.outlook
  result : r.result? = some (.ok { Tally.ofEndings (r.outlook.map (·.2)) with
    requeued := if r.requeue.isSome then (Ending.backlog r.items r.outlook).length else 0 })
  fetched : r.fetched.Perm ((Ending.fetchedPlaces r.outlook).filterMap fun place =>
    r.items[place]?.bind (·.url?))
  denied : r.denied.Perm (Ending.denied r.items r.outlook)
  requeued : ∃ lines, r.Requeued lines ∧ lines.Perm (if r.requeue.isSome then
    (Ending.backlog r.items r.outlook).map (·.toLine r.crawler.plan.format) else [])

/-- Two runs that have come to the same. -/
structure Agree : Prop where
  summary : ∃ summary, r.result? = some (.ok summary) ∧ r'.result? = some (.ok summary)
  fetched : r.fetched.Perm r'.fetched
  denied : r.denied.Perm r'.denied
  requeued : ∃ lines lines', r.Requeued lines ∧ r'.Requeued lines' ∧ lines.Perm lines'

theorem quiet : r.crawler.Quiet w := by
  have hmade := Crawler.ofSettings_eq_ok r.made
  have hslots := Crawler.one_le_maxConcurrent r.valid
  have hroom := r.room
  refine ⟨?_, ?_, ?_, hmade.empty, ?_⟩
  · rw [hmade.hosts]
    exact HostTable.fresh_ofSettings _ _ _ _
  · rw [hmade.hosts, hmade.service]
    exact r.answers
  · rw [hmade.slots]
  · rw [hmade.slots, hmade.threshold]
    show max r.settings.fetch.maxConcurrent 1 ≤ _
    omega

theorem writable : (Envelope.start r.output).Writable := Envelope.writable_start r.output_willing

theorem willing : (RequeueStream.upTo r.requeue r.crawler.plan.format).Willing :=
  RequeueStream.willing_upTo r.requeue_willing _

theorem unrejected : r.Unrejected := by
  obtain ⟨hcount, htasks⟩ := r.quiet.not_rejected r.writable r.willing r.history
  exact ⟨hcount, htasks⟩

variable {r r'} {result : Except CrawlError CrawlSummary}

/-- Once a run has returned, each item has ended as foretold. -/
theorem endings_perm (hreturned : r.result? = some result) : r.endings.Perm r.outlook := by
  have hplaces : (r.endings.map (·.1)).Perm (List.range r.items.length) :=
    Crawler.endings_of_returned r.quiet.answers.unbroken r.history hreturned
  have hends : ∀ x ∈ r.endings, w.foreseen r.crawler.plan r.items x.1 = some x.2 :=
    r.quiet.foreseen_of_mem r.writable r.willing r.history
  have hall : r.outlook.map (·.1) = List.range r.items.length := by
    rw [outlook, List.map_map, List.range_eq_range', ← List.zipIdx_map_snd]
    rfl
  have hforeseen : ∀ x ∈ r.outlook, w.foreseen r.crawler.plan r.items x.1 = some x.2 := by
    intro x hx
    obtain ⟨⟨item, place⟩, hitem, rfl⟩ := List.mem_map.mp hx
    rw [Answers.foreseen, List.mk_mem_zipIdx_iff_getElem?.mp hitem, Option.map_some]
  rw [eq_filterMap_fst hends, eq_filterMap_fst hforeseen, hall]
  exact hplaces.filterMap _

/-- The addresses that were fetched are those of the items that ended so. -/
theorem fetched_perm (hreturned : r.result? = some result) :
    r.fetched.Perm ((Ending.fetchedPlaces r.endings).filterMap fun place =>
      r.items[place]?.bind (·.url?)) := by
  obtain ⟨done, reader, crew, -, hfetched⟩ := Crawler.kept_fetchedOnce.of_history r.history
  have hplaces : ((CrawlTask.fetched r.crawler.plan r.items r.events).map (·.1)).Perm
      (Ending.fetchedPlaces r.endings) :=
    Crawler.fetched_of_returned r.quiet.answers.unbroken r.history hreturned
  have hcalls : r.fetched =
      (CrawlTask.fetched r.crawler.plan r.items r.events).map (·.2.target) := by
    have hcalls := hfetched.calls
    rw [(Crawler.ofSettings_eq_ok r.made).fetches] at hcalls
    exact hcalls
  -- The address of a fetch is told by the place of its item.
  have htargets : (CrawlTask.fetched r.crawler.plan r.items r.events).map (·.2.target) =
      ((CrawlTask.fetched r.crawler.plan r.items r.events).map (·.1)).filterMap fun place =>
        r.items[place]?.bind (·.url?) := by
    rw [List.filterMap_map, ← List.filterMap_eq_map]
    apply List.filterMap_congr
    intro x hx
    obtain ⟨item, hitem, -, hurl, -⟩ := hfetched.own x hx
    have hplace : r.items[x.1]? = some item := hitem
    simp [hplace, hurl]
  rw [hcalls, htargets]
  exact hplaces.filterMap _

/-- What a run returns is told by the ends of its items. -/
theorem result_eq (hreturned : r.result? = some result) : result = .ok
    { Tally.ofEndings (r.endings.map (·.2)) with
      requeued := if r.requeue.isSome then (Ending.backlog r.items r.endings).length else 0 } := by
  have hservice := r.quiet.answers.unbroken
  obtain ⟨summary, rfl⟩ := r.quiet.ok_of_returned r.writable r.willing r.history hreturned
  obtain ⟨done, reader, crew, hmuster, -, -, hsummary⟩ :=
    Crawler.books_of_history hservice r.history
  have htally : summary.toTally = r.last.shared.tally :=
    hsummary summary (hmuster.reader_of_result hreturned)
  have hcounts : r.last.shared.tally = .ofEndings (r.endings.map (·.2)) :=
    Crawler.tally_of_returned hservice r.history hreturned
  obtain ⟨hbacklog, hstream, hrequeued⟩ := Crawler.backlog_given hservice r.history hreturned
  have hwritten : summary.requeued =
      if r.requeue.isSome then (Ending.backlog r.items r.endings).length else 0 := by
    rw [hrequeued, hstream]
    cases hsink : r.requeue with
    | none =>
      rw [RequeueStream.addAll_of_disabled rfl, RequeueStream.flush_of_disabled rfl]
      rfl
    | some sink =>
      have hwilling := r.requeue_willing sink hsink
      exact (RequeueStream.flush_addAll_appending hwilling _ _).2.trans hbacklog.length_eq.symm
  rw [← hcounts, ← htally, ← hwritten]

/-- The lines of the items that are to be tried again are those of the items that ended so. -/
theorem requeued (hreturned : r.result? = some result) : ∃ lines, r.Requeued lines ∧
    lines.Perm (if r.requeue.isSome then
      (Ending.backlog r.items r.endings).map (·.toLine r.crawler.plan.format) else []) := by
  obtain ⟨summary, rfl⟩ := r.quiet.ok_of_returned r.writable r.willing r.history hreturned
  obtain ⟨hbacklog, hstream, -⟩ :=
    Crawler.backlog_given r.quiet.answers.unbroken r.history hreturned
  cases hsink : r.requeue with
  | none =>
    rw [hsink] at hstream
    refine ⟨[], ?_, .nil⟩
    rw [Requeued, hsink]
    refine ⟨?_, rfl⟩
    rw [hstream, RequeueStream.upTo, RequeueStream.addAll_of_disabled rfl,
      RequeueStream.flush_of_disabled rfl]
    rfl
  | some sink =>
    rw [hsink] at hstream
    have hwilling := r.requeue_willing sink hsink
    refine ⟨(CrawlTask.given r.events).map (·.toLine r.crawler.plan.format), ?_,
      (hbacklog.map _).symm⟩
    rw [Requeued, hsink]
    refine ⟨?_, ?_⟩
    · rw [hstream, RequeueStream.upTo, (RequeueStream.flush_addAll_appending hwilling _ _).1,
        List.flatMap_map]
      rfl
    · intro line hline
      obtain ⟨item, hitem, rfl⟩ := List.mem_map.mp hline
      exact WorkItem.newline_notMem_toLine
        (Ending.mem_of_mem_backlog (hbacklog.mem_iff.mpr hitem))

/-- Once a run has returned, it has come to what the outlook says. -/
theorem asForetold (hreturned : r.result? = some result) : r.AsForetold := by
  have hendings := endings_perm hreturned
  have hbacklog : (Ending.backlog r.items r.endings).Perm (Ending.backlog r.items r.outlook) :=
    (hendings.filter _).filterMap _
  refine ⟨hendings, ?_, ?_, (hendings.filter _).filterMap _, ?_⟩
  · rw [hreturned, result_eq hreturned, Tally.ofEndings_perm (hendings.map _),
      hbacklog.length_eq]
  · exact (fetched_perm hreturned).trans (((hendings.filter _).map _).filterMap _)
  · obtain ⟨lines, hrequeued, hlines⟩ := requeued hreturned
    refine ⟨lines, hrequeued, hlines.trans ?_⟩
    split
    · exact hbacklog.map _
    · exact .refl _

/-- The outlook is the same for runs that are alike. -/
theorem Alike.outlook_eq (h : r.Alike r') : r.crawler.plan.format = r'.crawler.plan.format ∧
    r.items = r'.items ∧ r.outlook = r'.outlook := by
  have hmade := Crawler.ofSettings_eq_ok r.made
  have hmade' := Crawler.ofSettings_eq_ok r'.made
  have hformat : r.crawler.plan.format = r'.crawler.plan.format := by
    rw [hmade.format, hmade'.format, h.format]
  have hitems : r.items = r'.items := by
    rw [items, items, hformat]
  refine ⟨hformat, hitems, ?_⟩
  rw [outlook, outlook, hitems, hmade.agent, hmade'.agent, h.agent, hmade.partition,
    hmade'.partition, h.partition]

/-- Runs without pressure turn no item away. Two of them over one input that have returned have come
to what the outlook says, and so to the same, if they have the same part of the keyspace, name and
form of lines. -/
theorem agree_of_alike (r r' : QuietRun w input) (h : r.Alike r') :
    r.Unrejected ∧ r'.Unrejected ∧
      (r.result?.isSome → r'.result?.isSome → r.AsForetold ∧ r.Agree r') := by
  refine ⟨r.unrejected, r'.unrejected, ?_⟩
  intro hreturned hreturned'
  obtain ⟨result, hresult⟩ := Option.isSome_iff_exists.mp hreturned
  obtain ⟨result', hresult'⟩ := Option.isSome_iff_exists.mp hreturned'
  obtain ⟨hformat, hitems, houtlook⟩ := h.outlook_eq
  have hforetold := asForetold hresult
  have hforetold' := asForetold hresult'
  refine ⟨hforetold, ⟨_, hforetold.result, ?_⟩, ?_, ?_, ?_⟩
  · rw [hforetold'.result, houtlook, hitems, h.requeue]
  · refine hforetold.fetched.trans ?_
    rw [houtlook, hitems]
    exact hforetold'.fetched.symm
  · refine hforetold.denied.trans ?_
    rw [houtlook, hitems]
    exact hforetold'.denied.symm
  · obtain ⟨lines, hrequeued, hlines⟩ := hforetold.requeued
    obtain ⟨lines', hrequeued', hlines'⟩ := hforetold'.requeued
    refine ⟨lines, lines', hrequeued, hrequeued', hlines.trans ?_⟩
    rw [houtlook, hitems, h.requeue, hformat]
    exact hlines'.symm

end QuietRun

namespace Lone

/-- There are no robots files, and no page comes in time. -/
def answers : Answers where
  file _ := .ok none
  page _ := .error (.timeout line)

def service : FetchService := fun _ _ => { result := .failed (.timeout line) }

theorem govern : answers.Govern Passage.robots service :=
  ⟨fun _ _ => rfl, fun _ _ => rfl, fun _ _ => FetchResult.unbroken_failed _⟩

def settings (interval capacity : Nat) : Settings where
  fetch := { maxConcurrent := 1, pressureThreshold := 1 }
  politeness := { minIntervalMs := interval, hostCapacity := capacity, maxCrawlDelayMs := 0 }
  agent := { contactUrl := line }
  streams := { rawInput := true }

def sink : Sink := .holding "earlier\n"

def stream : RequeueStream := .appending sink .raw

theorem willing_sink : sink.Willing := fun _ _ _ => rfl

def summary : CrawlSummary where
  read := 1
  dispatched := 1
  completed := 1
  failed := 1
  requeued := 1

theorem fails (t : HostTable) (v : Valve) : (CrawlTask.machine (Passage.plan service)).Steps
    (Passage.working (.calling candidate) (Passage.inside (.start {}) stream t v))
    (Passage.working .leaving { Passage.inside (.start {}) (stream.add item).2 t v with
      fetches := { calls := [{ time := 0, target }], peak := 1 }
      tally := { read := 1, dispatched := 1, completed := 1, failed := 1 } }) := by
  apply (CrawlTask.machine (Passage.plan service)).steps_iff_history.mpr
  exact ⟨_, (CrawlTask.machine (Passage.plan service)).history_follow (.refl _)
    (List.replicate 6 (.inl 1))⟩

theorem returns (interval capacity : Nat) (seed : UInt64) : ∃ s : CrawlState Unit,
    s.fetches.calls = [{ time := 0, target }] ∧
      (CrawlTask.machine (Passage.plan service)).Steps
        ((Passage.crawler service interval capacity seed).start [line] (.start {}) stream)
        (Passage.config [.reader (.returned (.ok summary)), .item .finished] s) := by
  have hwillingStream : stream.Willing := by
    rintro _ ⟨⟩
    exact willing_sink
  have hwritten : (stream.add item).2.flush.2.written = 1 :=
    (RequeueStream.flush_addAll_appending willing_sink .raw [item]).2
  obtain ⟨cache, -, hcalls⟩ :=
    Passage.calls service (.start {}) stream interval seed fetchable capacity
  obtain ⟨s, hfetches, -, hends⟩ := Passage.ends service
    (s := { Passage.inside (.start {}) (stream.add item).2 _ (Passage.valve seed 1) with
      fetches := { calls := [{ time := 0, target }], peak := 1 }
      tally := { read := 1, dispatched := 1, completed := 1, failed := 1 } })
    rfl (hwillingStream.add item) (Envelope.writable_start fun _ _ _ => rfl) hwritten
  exact ⟨s, by rw [hfetches], (hcalls.trans (fails _ _)).trans hends⟩

/-- A run that has returned. -/
theorem exists_run {interval capacity : Nat} (seed : UInt64)
    (hvalid : (settings interval capacity).validate = .ok ()) :
    ∃ r : QuietRun answers input, r.settings = settings interval capacity ∧
      r.hostJitter = .seeded seed ∧ r.requeue = some sink ∧ r.result? = some (.ok summary) ∧
        r.fetched = [target] := by
  obtain ⟨s, hcalls, hsteps⟩ := returns interval capacity seed
  obtain ⟨events, hhistory⟩ := (CrawlTask.machine (Passage.plan service)).steps_iff_history.mp hsteps
  rw [← lines_input] at hhistory
  let r : QuietRun answers input := {
    settings := settings interval capacity
    robots := Passage.robots
    service
    hostJitter := .seeded seed
    valveJitter := .seeded seed
    crawler := Passage.crawler service interval capacity seed
    output := {}
    requeue := some sink
    events
    last := Passage.config [.reader (.returned (.ok summary)), .item .finished] s
    valid := hvalid
    room := Nat.le_refl 1
    made := Passage.made line service interval capacity seed
    answers := govern
    output_willing := fun _ _ _ => rfl
    requeue_willing := by
      rintro _ ⟨⟩
      exact willing_sink
    history := hhistory }
  have hfetched : r.fetched = [target] := by
    show s.fetches.calls.map (·.target) = _
    rw [hcalls]
    rfl
  exact ⟨r, rfl, rfl, rfl, rfl, hfetched⟩

end Lone

namespace QuietRun

/-- Two runs over one address that differ in their intervals, their room for hosts and their
jitters. -/
theorem agree_loneRuns : ∃ r r' : QuietRun Lone.answers Lone.input,
    r.settings = Lone.settings 5 1 ∧ r'.settings = Lone.settings 7 3 ∧
      r.hostJitter = .seeded 0 ∧ r'.hostJitter = .seeded 1 ∧ r.Alike r' ∧ r.Unrejected ∧
        r'.Unrejected ∧ r.AsForetold ∧ r.Agree r' ∧ r.result? = some (.ok Lone.summary) ∧
          r.fetched = [Lone.target] := by
  have hvalid : (Lone.settings 5 1).validate = .ok () := by decide +kernel
  have hvalid' : (Lone.settings 7 3).validate = .ok () := by decide +kernel
  obtain ⟨r, hsettings, hjitter, hrequeue, hreturned, hfetched⟩ := Lone.exists_run 0 hvalid
  obtain ⟨r', hsettings', hjitter', hrequeue', hreturned', -⟩ := Lone.exists_run 1 hvalid'
  have halike : r.Alike r' := by
    refine ⟨?_, ?_, ?_, ?_⟩
    · rw [hsettings, hsettings']
      rfl
    · rw [hsettings, hsettings']
      rfl
    · rw [hsettings, hsettings']
      rfl
    · rw [hrequeue, hrequeue']
  have hsome : r.result?.isSome := Option.isSome_of_eq_some hreturned
  have hsome' : r'.result?.isSome := Option.isSome_of_eq_some hreturned'
  obtain ⟨hunrejected, hunrejected', hagree⟩ := agree_of_alike r r' halike
  obtain ⟨hforetold, hagree⟩ := hagree hsome hsome'
  exact ⟨r, r', hsettings, hsettings', hjitter, hjitter', halike, hunrejected, hunrejected',
    hforetold, hagree, hreturned, hfetched⟩

end QuietRun

end PoliteCrawl

import PoliteCrawl.Crawl.Run
import PoliteCrawl.Proofs.Output.Envelope
import PoliteCrawl.Proofs.Politeness.Hosts
import PoliteCrawl.Proofs.Schedule.History

namespace PoliteCrawl

namespace Passage

structure Fetchable (line : String) (candidate : Candidate) : Prop where
  line : WorkItem.ofLine? .raw line = some candidate.item
  issue : candidate.item.issue? = none
  url : candidate.item.url? = some candidate.target
  host : candidate.item.hostKey? = some candidate.host
  below : candidate.admission = .below

def robots : RobotsService := fun _ _ => { answer := .ok none }

def settings (contact : String) (interval capacity : Nat) : Settings where
  fetch := { maxConcurrent := 1, pressureThreshold := 1 }
  politeness := { minIntervalMs := interval, hostCapacity := capacity, maxCrawlDelayMs := 0 }
  agent := { contactUrl := contact }
  streams := { rawInput := true }

def plan (service : FetchService) : CrawlPlan Unit Unit where
  rule := .hosts
  service := service
  partition := none
  format := .raw
  agent := "SumiFetch"

def table (interval : Nat) (seed : UInt64) (cache : LruCache String Nat)
    (records : List HostRecord) (asked : List (Nat × String)) : HostTable where
  minInterval := Time.ofMillis interval
  agent := "SumiFetch"
  service := robots
  jitter := .seeded seed
  cache := cache
  records := records
  asked := asked

def valve (seed : UInt64) (inside : Nat) : Valve where
  threshold := 1
  baseWait := Time.ofMillis 10000
  jitter := .seeded seed
  inside := inside

def crawler (service : FetchService) (interval capacity : Nat) (seed : UInt64) :
    Crawler Unit Unit where
  plan := plan service
  hosts := table interval seed (.empty capacity) [] []
  valve := valve seed 0
  own := ()
  slots := { free := 1 }

theorem made (contact : String) (service : FetchService) (interval capacity : Nat) (seed : UInt64) :
    Crawler.ofSettings (settings contact interval capacity) robots service (.seeded seed)
      (.seeded seed) = .ok (crawler service interval capacity seed) := by
  -- The bound on the delays that robots files may ask for is a duration in the settings.
  have hdelay : Time.ofMillis 0 = 0 := Nat.zero_mul _
  rw [crawler, table, ← hdelay]
  rfl

def config (tasks : List (CrawlTask Unit)) (s : CrawlState Unit) :
    Configuration (CrawlTask Unit) (CrawlState Unit) where
  now := 0
  tasks := tasks
  shared := s

def working (phase : ItemPhase Unit) (s : CrawlState Unit) :
    Configuration (CrawlTask Unit) (CrawlState Unit) :=
  config [.reader .draining, .item phase] s

def outside (envelope : Envelope) (requeue : RequeueStream) (t : HostTable) (v : Valve)
    (tally : Tally) : CrawlState Unit where
  hosts := t
  valve := v
  own := ()
  fetches := {}
  slots := { free := 1 }
  envelope := envelope
  requeue := requeue
  tally := tally

def inside (envelope : Envelope) (requeue : RequeueStream) (t : HostTable) (v : Valve) :
    CrawlState Unit :=
  { outside envelope requeue t v { read := 1, dispatched := 1 } with
    slots := { free := 0 }, unfinished := 1 }

section steps

variable {service : FetchService} {reader reader' : ReaderPhase} {phase phase' : ItemPhase Unit}
  {tasks : List (CrawlTask Unit)} {s s' : CrawlState Unit} {woken : List Nat}

theorem reader_steps (h : reader.step (plan service) s = some (reader', s', [])) :
    (CrawlTask.machine (plan service)).Steps (config (.reader reader :: tasks) s)
      (config (.reader reader' :: tasks) s') := by
  have hstep : (CrawlTask.machine (plan service)).stepAt (config (.reader reader :: tasks) s)
      readerTask = some { phase := .reader reader', shared := s' } := by
    change (reader.step (plan service) s).map _ = _
    rw [h]
    rfl
  have hsteps := (Machine.Steps.refl _).tail (.act hstep)
  rw [Configuration.after, List.append_nil] at hsteps
  exact hsteps

theorem item_steps (h : phase.step (plan service) 0 1 s = some ⟨phase', s', woken⟩) :
    (CrawlTask.machine (plan service)).Steps (working phase s) (working phase' s') := by
  have hstep : (CrawlTask.machine (plan service)).stepAt (working phase s) 1 =
      some { phase := .item phase', shared := s', woken } := by
    change (phase.step (plan service) 0 1 s).map _ = _
    rw [h]
    rfl
  exact (Machine.Steps.refl _).tail (.act hstep)

end steps

variable (service : FetchService) {line : String} {candidate : Candidate} (envelope : Envelope)
  (requeue : RequeueStream) (interval : Nat) (seed : UInt64) (cache : LruCache String Nat)
  (t : HostTable) (v : Valve)

theorem reads (h : Fetchable line candidate) : (CrawlTask.machine (plan service)).Steps
    (config [.reader (.reading [line])] (outside envelope requeue t v {}))
    (config [.reader (.asking candidate.item [])]
      (outside envelope requeue t v { read := 1 })) := by
  have hread : (ReaderPhase.reading [line]).step (plan service) (outside envelope requeue t v {}) =
      some (.sorting candidate.item [], outside envelope requeue t v { read := 1 }, []) := by
    have hline : WorkItem.ofLine? (plan service).format line = some candidate.item := h.line
    simp only [ReaderPhase.step, hline]
    rfl
  have hsort : (ReaderPhase.sorting candidate.item []).step (plan service)
      (outside envelope requeue t v { read := 1 }) =
      some (.asking candidate.item [], outside envelope requeue t v { read := 1 }, []) := by
    simp only [ReaderPhase.step, h.issue]
    rfl
  exact (reader_steps hread).trans (reader_steps hsort)

theorem starts (item : WorkItem) : (CrawlTask.machine (plan service)).Steps
    (config [.reader (.asking item [])] (outside envelope requeue t (valve seed 0) { read := 1 }))
    (working (.targeting item .below) (inside envelope requeue t (valve seed 1))) := by
  apply (CrawlTask.machine (plan service)).steps_iff_history.mpr
  exact ⟨_, (CrawlTask.machine (plan service)).history_follow (.refl _)
    (List.replicate 4 (.inl 0) ++ List.replicate 2 (.inl 1))⟩

theorem targets (h : Fetchable line candidate) : (CrawlTask.machine (plan service)).Steps
    (working (.targeting candidate.item .below) (inside envelope requeue t v))
    (working (.looking candidate (.start candidate.host)) (inside envelope requeue t v)) := by
  have hstep : (ItemPhase.targeting candidate.item .below).step (plan service) 0 1
      (inside envelope requeue t v) =
      some ⟨.looking candidate (.start candidate.host), inside envelope requeue t v, []⟩ := by
    simp only [ItemPhase.step, h.url, h.host, ← h.below]
  exact item_steps hstep

variable {t} {t' : HostTable}

theorem finds (hfind : t.find candidate.host = (0, t')) : (CrawlTask.machine (plan service)).Steps
    (working (.looking candidate (.start candidate.host)) (inside envelope requeue t v))
    (working (.looking candidate (.found 0)) (inside envelope requeue t' v)) := by
  have hstep : (ItemPhase.looking candidate (.start candidate.host)).step (plan service) 0 1
      (inside envelope requeue t v) =
      some ⟨.looking candidate (.found 0), inside envelope requeue t' v, []⟩ := by
    have htable : (inside envelope requeue t v).hosts.find candidate.host = (0, t') := hfind
    simp only [ItemPhase.step, LookupPhase.step, htable]
    rfl
  exact item_steps hstep

theorem finds_again (hfind : t.find candidate.host = (0, t')) :
    (CrawlTask.machine (plan service)).Steps
      (working (.pausing candidate (.start candidate.host none)) (inside envelope requeue t v))
      (working (.pausing candidate (.atGate 0 none)) (inside envelope requeue t' v)) := by
  have hstep : (ItemPhase.pausing candidate (.start candidate.host none)).step (plan service) 0 1
      (inside envelope requeue t v) =
      some ⟨.pausing candidate (.atGate 0 none), inside envelope requeue t' v, []⟩ := by
    have htable : (inside envelope requeue t v).hosts.find candidate.host = (0, t') := hfind
    simp only [ItemPhase.step, WaitPhase.step, htable]
    rfl
  exact item_steps hstep

def record (host : String) (robotsLock : Lock) (outcome : Option (Option Robots)) : HostRecord where
  host := HostTable.keyOf host
  gate := { minInterval := Time.ofMillis interval }
  robotsLock := robotsLock
  outcome := outcome

def granted (host : String) : HostRecord :=
  { record interval host {} (some none) with
    gate := { minInterval := Time.ofMillis interval, lastGrant := some 0, grants := 1 } }

def note (host : String) : Nat × String := (0, HostTable.keyOf host)

theorem asks : (CrawlTask.machine (plan service)).Steps
    (working (.looking candidate (.found 0))
      (inside envelope requeue
        (table interval seed cache [record interval candidate.host {} none] []) v))
    (working (.looking candidate (.awaiting 0 none (some 0)))
      (inside envelope requeue
        (table interval seed cache [record interval candidate.host { holder := some 1 } none]
          [note candidate.host]) v)) := by
  apply (CrawlTask.machine (plan service)).steps_iff_history.mpr
  exact ⟨_, (CrawlTask.machine (plan service)).history_follow (.refl _)
    (List.replicate 4 (.inl 1))⟩

theorem learns (h : Fetchable line candidate) : (CrawlTask.machine (plan service)).Steps
    (working (.looking candidate (.awaiting 0 none (some 0)))
      (inside envelope requeue
        (table interval seed cache [record interval candidate.host { holder := some 1 } none]
          [note candidate.host]) v))
    (working (.pausing candidate (.start candidate.host none))
      (inside envelope requeue
        (table interval seed cache [record interval candidate.host {} (some none)]
          [note candidate.host]) v)) := by
  obtain ⟨item, target, host, admission⟩ := candidate
  obtain rfl := h.below
  apply (CrawlTask.machine (plan service)).steps_iff_history.mpr
  exact ⟨_, (CrawlTask.machine (plan service)).history_follow (.refl _)
    (List.replicate 5 (.inl 1))⟩

theorem pauses : (CrawlTask.machine (plan service)).Steps
    (working (.pausing candidate (.atGate 0 none))
      (inside envelope requeue
        (table interval seed cache [record interval candidate.host {} (some none)]
          [note candidate.host]) v))
    (working (.calling candidate)
      (inside envelope requeue
        (table interval seed cache [granted interval candidate.host] [note candidate.host]) v)) := by
  apply (CrawlTask.machine (plan service)).steps_iff_history.mpr
  exact ⟨_, (CrawlTask.machine (plan service)).history_follow (.refl _)
    (List.replicate 4 (.inl 1))⟩

/-- The item comes to its fetch, with one grant of its host. -/
theorem calls (h : Fetchable line candidate) (capacity : Nat) : ∃ cache : LruCache String Nat,
    cache.peek (HostTable.keyOf candidate.host) = some 0 ∧
      (CrawlTask.machine (plan service)).Steps
        ((crawler service interval capacity seed).start [line] envelope requeue)
        (working (.calling candidate) (inside envelope requeue
          (table interval seed cache [granted interval candidate.host] [note candidate.host])
            (valve seed 1))) := by
  let empty : LruCache String Nat := .empty capacity
  have hpeek : empty.peek (HostTable.keyOf candidate.host) = none := Std.HashMap.getElem?_empty
  have hroom : empty.size < empty.capacity := by
    show 0 < max capacity 1
    omega
  let cache := (empty.getOrCreate (HostTable.keyOf candidate.host) 0).2
  have hkept : cache.peek (HostTable.keyOf candidate.host) = some 0 := by
    rw [BoundedCache.peek, BoundedCache.entries_getOrCreate hpeek hroom]
    exact Std.HashMap.getElem?_insert_self
  let cache' : LruCache String Nat :=
    { cache with policy := EvictionPolicy.touch cache.policy (HostTable.keyOf candidate.host) }
  have hmade : (table interval seed empty [] []).find candidate.host =
      (0, table interval seed cache [record interval candidate.host {} none] []) :=
    HostTable.find_of_none hpeek
  have hfound : (table interval seed cache [record interval candidate.host {} (some none)]
      [note candidate.host]).find candidate.host =
      (0, table interval seed cache' [record interval candidate.host {} (some none)]
        [note candidate.host]) := HostTable.find_of_peek hkept
  -- into the valve, then through the look-up, then to the grant
  have henters := ((reads service envelope requeue (table interval seed empty [] [])
    (valve seed 0) h).trans (starts service envelope requeue seed _ candidate.item)).trans
      (targets service envelope requeue _ _ h)
  have hlooks := ((finds service envelope requeue (valve seed 1) hmade).trans
    (asks service envelope requeue interval seed cache _)).trans
      (learns service envelope requeue interval seed cache _ h)
  have hpauses := (finds_again service envelope requeue (valve seed 1) hfound).trans
    (pauses service envelope requeue interval seed cache' _)
  exact ⟨cache', hkept, (henters.trans hlooks).trans hpauses⟩

/-- A page that comes at once is there without any time passing. -/
theorem fetches {result : FetchResult}
    (h : service [] { time := 0, target := candidate.target } = { result }) :
    (CrawlTask.machine (plan service)).Steps
      (working (.calling candidate) (inside envelope requeue t v))
      (working (.writing candidate.item result) { inside envelope requeue t v with
        fetches := { calls := [{ time := 0, target := candidate.target }], peak := 1 } }) := by
  have hcall : (ItemPhase.calling candidate).step (plan service) 0 1 (inside envelope requeue t v) =
      some ⟨.awaiting candidate.item result (some 0), { inside envelope requeue t v with
        fetches := { calls := [{ time := 0, target := candidate.target }], ongoing := 1, peak := 1 }
        }, []⟩ := by
    have hreply : (plan service).service (inside envelope requeue t v).fetches.calls
        { time := 0, target := candidate.target } = { result } := h
    simp only [ItemPhase.step, hreply]
    rfl
  exact (item_steps hcall).trans (item_steps rfl)

/-- A record that the envelope takes is counted as a fetch that came to an end. -/
theorem records {s : CrawlState Unit} {item : WorkItem} {page : FetchRecord} {e : Envelope}
    (h : s.envelope.write page = (.ok (), e)) : (CrawlTask.machine (plan service)).Steps
      (working (.writing item (.record page)) s)
      (working .leaving { s with
        envelope := e
        tally := { s.tally with completed := s.tally.completed + 1 } }) := by
  have hwrite : (ItemPhase.writing item (.record page)).step (plan service) 0 1 s =
      some ⟨.completing item (.ok ()), { s with envelope := e }, []⟩ := by
    simp only [ItemPhase.step, FetchResult.write_record, FetchResult.breaksOff_record, h,
      Bool.false_eq_true, if_false]
  exact (item_steps hwrite).trans (item_steps rfl)

/-- After the item has left the valve, the reader gives up the streams. -/
theorem leaves {s : CrawlState Unit} (h : s.unfinished = 1) :
    (CrawlTask.machine (plan service)).Steps (working .leaving s)
      (config [.reader .flushing, .item .finished]
        { s with valve := s.valve.release, slots := s.slots.release, unfinished := 0 }) := by
  obtain ⟨hosts, valve, own, fetches, slots, envelope, requeue, tally, unfinished⟩ := s
  obtain rfl := h
  apply (CrawlTask.machine (plan service)).steps_iff_history.mpr
  exact ⟨_, (CrawlTask.machine (plan service)).history_follow (.refl _)
    (List.replicate 2 (.inl 1) ++ [.inl 0])⟩

theorem closes (tasks : List (CrawlTask Unit)) {s : CrawlState Unit} (hrequeue : s.requeue.Willing)
    (henvelope : s.envelope.Writable) :
    ∃ s' : CrawlState Unit, s'.fetches = s.fetches ∧ s'.envelope = s.envelope.close.2 ∧
      (CrawlTask.machine (plan service)).Steps (config (.reader .flushing :: tasks) s)
        (config (.reader (.returned (.ok { s.tally with
          requeued := s.requeue.flush.2.written })) :: tasks) s') := by
  obtain ⟨requeue, hflush⟩ : ∃ requeue, s.requeue.flush = (.ok (), requeue) :=
    ⟨_, Prod.ext hrequeue.flush.1 rfl⟩
  obtain ⟨envelope, hclose⟩ : ∃ envelope, s.envelope.close = (.ok (), envelope) :=
    ⟨_, Prod.ext henvelope.close rfl⟩
  have hflushes : ReaderPhase.flushing.step (plan service) s =
      some (.closing, { s with requeue }, []) := by
    simp only [ReaderPhase.step, hflush]
  have hcloses : ReaderPhase.closing.step (plan service) { s with requeue } =
      some (.returned (.ok { s.tally with requeued := s.requeue.flush.2.written }),
        { s with requeue, envelope }, []) := by
    simp only [ReaderPhase.step, hclose, hflush]
    rfl
  refine ⟨{ s with requeue, envelope }, rfl, ?_, ?_⟩
  · rw [hclose]
  · exact (reader_steps hflushes).trans (reader_steps hcloses)

theorem ends {s : CrawlState Unit} {written : Nat} (hunfinished : s.unfinished = 1)
    (hrequeue : s.requeue.Willing) (henvelope : s.envelope.Writable)
    (hwritten : s.requeue.flush.2.written = written) :
    ∃ s' : CrawlState Unit, s'.fetches = s.fetches ∧ s'.envelope = s.envelope.close.2 ∧
      (CrawlTask.machine (plan service)).Steps (working .leaving s)
        (config [.reader (.returned (.ok { s.tally with requeued := written })), .item .finished]
          s') := by
  subst hwritten
  obtain ⟨s', hfetches, hclosed, hsteps⟩ := closes service [.item .finished]
    (s := { s with valve := s.valve.release, slots := s.slots.release, unfinished := 0 })
    hrequeue henvelope
  exact ⟨s', hfetches, hclosed, (leaves service hunfinished).trans hsteps⟩

/-- A run over an item whose page comes at once writes its record and returns. -/
theorem returns {page : FetchRecord} {e : Envelope} (h : Fetchable line candidate)
    (hpage : service [] { time := 0, target := candidate.target } = { result := .record page })
    (hwrite : envelope.write page = (.ok (), e)) (he : e.Writable) (hrequeue : requeue.Willing)
    (capacity : Nat) :
    ∃ s : CrawlState Unit, s.fetches.calls = [{ time := 0, target := candidate.target }] ∧
      s.envelope = e.close.2 ∧ (CrawlTask.machine (plan service)).Steps
        ((crawler service interval capacity seed).start [line] envelope requeue)
        (config [.reader (.returned (.ok {
            read := 1, dispatched := 1, completed := 1, requeued := requeue.flush.2.written })),
          .item .finished] s) := by
  obtain ⟨cache, -, hcalls⟩ := calls service envelope requeue interval seed h capacity
  have hwritten := (hcalls.trans (fetches service envelope requeue _ hpage)).trans
    (records service hwrite)
  obtain ⟨s, hfetches, henvelope, hends⟩ := ends service
    (s := { inside e requeue _ (valve seed 1) with
      fetches := { calls := [{ time := 0, target := candidate.target }], peak := 1 }
      tally := { read := 1, dispatched := 1, completed := 1 } })
    rfl hrequeue he rfl
  exact ⟨s, by rw [hfetches], henvelope, hwritten.trans hends⟩

end Passage

namespace Lone

def line : String := "http://[::1]/"

def input : List UInt8 := (line ++ "\n").toUTF8.toList

def item : WorkItem := { target := line }

def target : Url where
  scheme := "http"
  authority := some { userinfo := "", host := .v6 [0, 0, 0, 0, 0, 0, 0, 1], port := none }
  path := "/"
  query := none
  fragment := none

def candidate : Candidate := { item, target, host := "[::1]", admission := .below }

theorem lines_input : Input.lines input = [line] := by decide +kernel

theorem fetchable : Passage.Fetchable line candidate where
  line := by decide +kernel
  issue := by decide +kernel
  url := by decide +kernel
  host := by decide +kernel
  below := rfl

/-- A run over the item alone, whose page comes at once. -/
theorem exists_paged (service : FetchService) {page : FetchRecord}
    (hpage : service [] { time := 0, target := target } = { result := .record page }) :
    ∃ (events : List (Event (CrawlTask Unit) (CrawlState Unit)))
      (last : Configuration (CrawlTask Unit) (CrawlState Unit)),
      (CrawlTask.machine (Passage.plan service)).History
        ((Passage.crawler service 5 1 0).start (Input.lines input) (.start {}) (.disabled .raw))
        events last ∧
      last.tasks[readerTask]?.bind (·.result?) =
        some (.ok { read := 1, dispatched := 1, completed := 1 }) ∧
      last.shared.fetches.calls = [{ time := 0, target := target }] ∧
      last.shared.envelope.records = 1 := by
  have hdisabled : (RequeueStream.disabled .raw).Willing := by
    rintro _ ⟨⟩
  have hwilling : Sink.Willing {} := fun _ _ _ => rfl
  obtain ⟨e, hwrite, hwritable⟩ := (Envelope.writable_start hwilling).exists_write page
  obtain ⟨s, hcalls, henvelope, hsteps⟩ := Passage.returns service (.start {}) (.disabled .raw) 5 0
    fetchable hpage hwrite hwritable hdisabled 1
  obtain ⟨events, hhistory⟩ :=
    (CrawlTask.machine (Passage.plan service)).steps_iff_history.mp hsteps
  have hrecords : s.envelope.records = 1 := by
    have hgrown := Envelope.grown_write (.start {}) page
    rw [hwrite] at hgrown
    rw [henvelope, Envelope.records_close, hgrown.records]
    rfl
  rw [← lines_input] at hhistory
  exact ⟨events, _, hhistory, rfl, hcalls, hrecords⟩

end Lone

end PoliteCrawl

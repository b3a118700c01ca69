import PoliteCrawl.Proofs.Crawl.Fetches
import PoliteCrawl.Proofs.Crawl.Setup

namespace PoliteCrawl

variable {ψ ε : Type}

namespace FetchStart

abbrev Toll (x : FetchStart) (plan : CrawlPlan ψ ε)
    (events : List (Event (CrawlTask ψ) (CrawlState ε)))
    (last : Configuration (CrawlTask ψ) (CrawlState ε)) (record instant : Nat) : Prop :=
  CrawlTask.Toll plan events last.shared.hosts x.task x.time x.candidate.host (some x.candidate)
    record instant

/-- The item was granted its host in the valve, and time passed while it waited for the robots file
after that. -/
abbrev HeldUp (x : FetchStart) (events : List (Event (CrawlTask ψ) (CrawlState ε))) : Prop :=
  CrawlTask.HeldUp x.task x.candidate events

end FetchStart

def Input.hostKeys (format : LineFormat) (input : List UInt8) : List String :=
  ((items format input).filterMap (·.hostKey?)).eraseDups

/-- How the fetches of a run lie: each has a grant of its host, the grants of a host are an interval
apart, and so are the fetches that were not held up after their grants, if no time was lost. -/
structure FetchesSpaced (plan : CrawlPlan ψ ε) (interval : Nat)
    (events : List (Event (CrawlTask ψ) (CrawlState ε)))
    (last : Configuration (CrawlTask ψ) (CrawlState ε)) : Prop where
  calls : last.shared.fetches.calls = (CrawlTask.starts events).map (·.call)
  tolls : ∀ x ∈ CrawlTask.starts events, ∃ record instant, x.Toll plan events last record instant
  grants : (CrawlTask.starts events).Pairwise fun x y => x.candidate.host = y.candidate.host →
    ∃ record i j, x.Toll plan events last record i ∧ y.Toll plan events last record j ∧
      (i + interval ≤ j ∨ j + interval ≤ i)
  prompt : (CrawlTask.machine plan).Prompt events →
    (CrawlTask.starts events).Pairwise fun x y => x.candidate.host = y.candidate.host →
      ¬ x.HeldUp events → ¬ y.HeldUp events →
        x.time + interval ≤ y.time ∨ y.time + interval ≤ x.time

theorem FetchStart.Toll.instant_eq {plan : CrawlPlan ψ ε}
    {events : List (Event (CrawlTask ψ) (CrawlState ε))}
    {last : Configuration (CrawlTask ψ) (CrawlState ε)} {x : FetchStart} {record instant : Nat}
    (h : x.Toll plan events last record instant) (hprompt : (CrawlTask.machine plan).Prompt events)
    (hheld : ¬ x.HeldUp events) : instant = x.time := by
  rcases CrawlTask.Toll.prompt h hprompt with heq | ⟨candidate, heq, hheldUp⟩
  · exact heq
  · cases heq
    exact absurd hheldUp hheld

theorem ItemPhase.Of.host? {phase : ItemPhase ψ} {item : WorkItem} {host : String}
    (h : phase.Of item) (hhost : phase.host? = some host) : item.hostKey? = some host := by
  cases phase with
  | entering item' entry =>
    obtain ⟨rfl, -⟩ := h
    exact hhost
  | targeting item' admission =>
    cases h
    exact hhost
  | looking candidate | judging candidate | pausing candidate | calling candidate =>
    cases hhost
    exact h.2.2
  | _ => cases hhost

namespace Crawler

variable {c : Crawler ψ ε} {input : List UInt8} {envelope : Envelope} {requeue : RequeueStream}
  {events : List (Event (CrawlTask ψ) (CrawlState ε))}
  {last : Configuration (CrawlTask ψ) (CrawlState ε)}

theorem holds_start_of_keyed (htimely : c.hosts.Timely c.now) (hkeyed : c.hosts.Keyed)
    (lines : List String) (envelope : Envelope) (requeue : RequeueStream) :
    (CrawlTask.discipline c.plan).Holds (c.start lines envelope requeue) where
  tasks task phase hphase := by
    have hmem : phase = .reader (.reading lines) :=
      List.mem_singleton.mp (List.mem_of_getElem? hphase)
    subst hmem
    trivial
  timely := htimely
  keyed := hkeyed

theorem holds_start (hfresh : c.hosts.Fresh) (lines : List String) (envelope : Envelope)
    (requeue : RequeueStream) :
    (CrawlTask.discipline c.plan).Holds (c.start lines envelope requeue) :=
  holds_start_of_keyed (hfresh.timely c.now) hfresh.keyed lines envelope requeue

theorem tolled_of_history (hfresh : c.hosts.Fresh) (hrule : c.plan.rule = .hosts)
    (h : (CrawlTask.machine c.plan).History (c.start (Input.lines input) envelope requeue) events
      last) :
    CrawlTask.Tolled c.plan last events := by
  have hstart := holds_start hfresh (Input.lines input) envelope requeue
  induction h with
  | refl => exact .refl (Input.lines input) rfl
  | act h hstep ih => exact ih.act (hstart.history h) hrule hstep
  | pass _ hle ih => exact ih.pass hle

theorem calls_of_history
    (h : (CrawlTask.machine c.plan).History (c.start (Input.lines input) envelope requeue) events
      last) :
    last.shared.fetches.calls = c.fetches.calls ++ (CrawlTask.starts events).map (·.call) := by
  induction h with
  | refl => exact (List.append_nil _).symm
  | @act d events task turn _ hstep ih =>
    obtain ⟨before, hbefore, hturn⟩ := (CrawlTask.machine c.plan).stepAt_eq_some hstep
    have hphase : (⟨d, task, turn⟩ : Act (CrawlTask ψ) (CrawlState ε)).phase? = some before :=
      hbefore
    rw [CrawlTask.starts_act, List.map_append, ← List.append_assoc, ← ih]
    cases before with
    | reader phase =>
      obtain ⟨⟨phase', s', started⟩, hreader, rfl⟩ := Option.map_eq_some_iff.mp hturn
      rw [CrawlTask.start?_eq_none (by simp [hphase]), Option.toList_none, List.map_nil,
        List.append_nil]
      exact congrArg FetchLog.calls (ReaderPhase.leads_of_step hreader).leaves.2
    | item phase =>
      obtain ⟨p, hp, rfl⟩ := Option.map_eq_some_iff.mp hturn
      rcases (ItemPhase.leads_of_step hp).fetches with ⟨candidate, rfl, hcalls⟩ | ⟨hne, hcalls⟩
      · rw [CrawlTask.start?_of_calling hphase]
        exact hcalls
      · rw [CrawlTask.start?_eq_none (by simp [hphase, hne]), Option.toList_none, List.map_nil,
          List.append_nil]
        exact hcalls
  | pass _ _ ih =>
    rw [CrawlTask.starts_pass]
    exact ih

/-- A fetch is from the host that its candidate was looked up under. -/
theorem hostKey?_of_start?
    (h : (CrawlTask.machine c.plan).History (c.start (Input.lines input) envelope requeue) events
      last)
    {a : Act (CrawlTask ψ) (CrawlState ε)} {x : FetchStart} (ha : a.before = last)
    (hx : CrawlTask.start? a = some x) :
    x.candidate.target.hostKey? = some x.candidate.host := by
  subst ha
  have hphase := (CrawlTask.start?_eq_some hx).1
  obtain ⟨done, reader, crew, hmuster⟩ := muster_of_history h
  obtain ⟨front, e, back, rfl, -, heq⟩ := hmuster.errand_of_item hphase
  have hof := hmuster.own e List.mem_append_cons_self
  rw [← heq] at hof
  exact Candidate.Of.hostKey? hof

/-- The host of a task is one of the input. -/
theorem host_mem {task : Nat} {phase : ItemPhase ψ} {host : String}
    (h : (CrawlTask.machine c.plan).History (c.start (Input.lines input) envelope requeue) events
      last)
    (hphase : last.tasks[task]? = some (.item phase)) (hhost : phase.host? = some host) :
    host ∈ Input.hostKeys c.plan.format input := by
  obtain ⟨done, reader, crew, hmuster⟩ := muster_of_history h
  obtain ⟨front, e, back, rfl, -, rfl⟩ := hmuster.errand_of_item hphase
  have he : e ∈ front ++ e :: back := List.mem_append_cons_self
  have hitem := List.mem_of_getElem? (hmuster.origin_mem he).1
  rw [Input.hostKeys, List.mem_eraseDups, List.mem_filterMap]
  exact ⟨e.item, hitem, (hmuster.own e he).host? hhost⟩

/-- The table of a crawl drops no record if there is room for all hosts of the input. -/
theorem roomy_of_history (hfresh : c.hosts.Fresh)
    (hroom : (Input.hostKeys c.plan.format input).length ≤ c.hosts.cache.capacity)
    (h : (CrawlTask.machine c.plan).History (c.start (Input.lines input) envelope requeue) events
      last) :
    last.shared.hosts.Roomy ((Input.hostKeys c.plan.format input).map HostTable.keyOf) := by
  have hstart := holds_start hfresh (Input.lines input) envelope requeue
  have hroomy : c.hosts.Roomy ((Input.hostKeys c.plan.format input).map HostTable.keyOf) := by
    apply hfresh.roomy
    rw [List.length_map]
    exact hroom
  apply hstart.roomy hroomy h
  intro a ha phase hphase key hkey
  obtain ⟨earlier, hearlier, -⟩ := h.before_of_mem ha
  have hsound := (hstart.history hearlier).tasks _ _ hphase
  cases phase with
  | reader phase => cases hkey
  | item phase =>
    obtain ⟨host, hhost, rfl⟩ := ItemPhase.Sound.named hsound hkey
    exact List.mem_map_of_mem (host_mem hearlier hphase hhost)

/-- The grants of two tasks for one record are apart. -/
theorem grants_apart {record i j x y : Nat} (hfresh : c.hosts.Fresh)
    (h : (CrawlTask.machine c.plan).History (c.start (Input.lines input) envelope requeue) events
      last)
    (hne : x ≠ y) (hi : CrawlTask.GrantedAt record x i events)
    (hj : CrawlTask.GrantedAt record y j events) :
    i + c.hosts.minInterval ≤ j ∨ j + c.hosts.minInterval ≤ i := by
  have hstart := holds_start hfresh (Input.lines input) envelope requeue
  have hpairwise := (hstart.log hfresh.records h record).pairwise
  obtain ⟨a, ha, rfl, rfl⟩ := hi
  obtain ⟨b, hb, rfl, rfl⟩ := hj
  let R (a b : Grant) : Prop := a.instant + c.hosts.minInterval ≤ b.instant ∨
    b.instant + c.hosts.minInterval ≤ a.instant
  have hsymm : Std.Symm R := ⟨fun _ _ => Or.symm⟩
  have hall : (grantsOn CrawlState.hosts record events).Pairwise R := hpairwise.imp .inl
  exact hall.forall ha hb fun heq => hne (congrArg Grant.task heq)

/-- The fetches of a crawl are spaced as its settings say, if there is room for all hosts of the
input and no fetch is held up after its grant; the grants always are. -/
theorem fetches_spaced_of_history {s : Settings} {robots : RobotsService} {service : FetchService}
    {hostJitter valveJitter : Jitter} {c : Crawler Unit Unit}
    {events : List (Event (CrawlTask Unit) (CrawlState Unit))}
    {last : Configuration (CrawlTask Unit) (CrawlState Unit)}
    (hc : Crawler.ofSettings s robots service hostJitter valveJitter = .ok c)
    (hroom : (Input.hostKeys c.plan.format input).length ≤ s.politeness.hostCapacity)
    (h : (CrawlTask.machine c.plan).History (c.start (Input.lines input) envelope requeue) events
      last) :
    FetchesSpaced c.plan (Time.ofMillis s.politeness.minIntervalMs) events last := by
  have hmade := ofSettings_eq_ok hc
  have hfresh : c.hosts.Fresh := by
    rw [hmade.hosts]
    exact HostTable.fresh_ofSettings _ _ _ _
  have hinterval : c.hosts.minInterval = Time.ofMillis s.politeness.minIntervalMs := by
    rw [hmade.hosts]
    rfl
  have hcapacity : (Input.hostKeys c.plan.format input).length ≤ c.hosts.cache.capacity := by
    rw [hmade.hosts]
    exact Nat.le_trans hroom (Nat.le_max_left _ _)
  have htolled := tolled_of_history hfresh hmade.rule h
  have hroomy := roomy_of_history hfresh hcapacity h
  have hgrants : (CrawlTask.starts events).Pairwise fun x y =>
      x.candidate.host = y.candidate.host → ∃ record i j, x.Toll c.plan events last record i ∧
        y.Toll c.plan events last record j ∧ (i + Time.ofMillis s.politeness.minIntervalMs ≤ j ∨
          j + Time.ofMillis s.politeness.minIntervalMs ≤ i) := by
    refine (List.pairwise_map.mp htolled.once).imp_of_mem fun {x y} hx hy hne hsame => ?_
    obtain ⟨record, i, htoll⟩ := htolled.starts x hx
    obtain ⟨record', j, htoll'⟩ := htolled.starts y hy
    -- The table keeps one record of the host, so both grants are on it.
    have hrecord : record' = record := by
      have hkept := hroomy.keeps _ record htoll.host
      have hkept' := hroomy.keeps _ record' htoll'.host
      rw [← hsame, hkept] at hkept'
      exact (Option.some.inj hkept').symm
    subst hrecord
    refine ⟨record', i, j, htoll, htoll', ?_⟩
    rw [← hinterval]
    exact grants_apart hfresh h hne htoll.granted htoll'.granted
  refine ⟨?_, htolled.starts, hgrants, ?_⟩
  · rw [calls_of_history h, hmade.fetches]
    rfl
  · intro hprompt
    refine hgrants.imp fun {x y} hapart hsame hheld hheld' => ?_
    obtain ⟨record, i, j, htoll, htoll', hapart⟩ := hapart hsame
    rw [← htoll.instant_eq hprompt hheld, ← htoll'.instant_eq hprompt hheld']
    exact hapart

def twoPages : List UInt8 := "http://[::1]/1\nhttp://[::1]/2\n".toUTF8.toList

def pageSettings : Settings where
  politeness := { minIntervalMs := 5 }
  streams := { rawInput := true }

/-- The reader starts both tasks. The first fetches right away, and the second has to wait for the
gate of the host to open. -/
def pageRun (c : Crawler Unit Unit) : List (Event (CrawlTask Unit) (CrawlState Unit)) ×
    Configuration (CrawlTask Unit) (CrawlState Unit) :=
  (CrawlTask.machine c.plan).follow (c.start (Input.lines twoPages) (.start {}) (.disabled .raw)) []
    (List.replicate 12 (.inl 0) ++ List.replicate 30 (.inl 1) ++ List.replicate 20 (.inl 2) ++
      [.inr (Time.ofMillis 5)] ++ List.replicate 15 (.inl 2) ++ List.replicate 4 (.inl 0))

theorem history_pageRun (c : Crawler Unit Unit) : (CrawlTask.machine c.plan).History
    (c.start (Input.lines twoPages) (.start {}) (.disabled .raw)) (pageRun c).1 (pageRun c).2 :=
  (CrawlTask.machine c.plan).history_follow (.refl _) _

theorem fetches_spaced_pageRun : ∃ c, Crawler.ofSettings pageSettings
    (fun _ _ => { answer := .ok none }) (fun _ _ => { result := .failed .writerClosed })
      (.seeded 0) (.seeded 0) = .ok c ∧
    (Input.hostKeys c.plan.format twoPages).length ≤ pageSettings.politeness.hostCapacity ∧
      (CrawlTask.machine c.plan).Prompt (pageRun c).1 ∧
        FetchesSpaced c.plan (Time.ofMillis pageSettings.politeness.minIntervalMs) (pageRun c).1
          (pageRun c).2 := by
  obtain ⟨c, hc⟩ : ∃ c, Crawler.ofSettings pageSettings (fun _ _ => { answer := .ok none })
      (fun _ _ => { result := .failed .writerClosed }) (.seeded 0) (.seeded 0) = .ok c := ⟨_, rfl⟩
  have hroom : (Input.hostKeys c.plan.format twoPages).length ≤
      pageSettings.politeness.hostCapacity := by
    rw [(ofSettings_eq_ok hc).format]
    decide +kernel
  refine ⟨c, hc, hroom, ?_, fetches_spaced_of_history hc hroom (history_pageRun c)⟩
  apply Machine.prompt_follow
  intro c later hmem
  cases hmem

end Crawler

end PoliteCrawl

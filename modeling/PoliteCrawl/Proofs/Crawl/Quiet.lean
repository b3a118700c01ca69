import PoliteCrawl.Proofs.Crawl.Forecast
import PoliteCrawl.Proofs.Crawl.Outcomes
import PoliteCrawl.Proofs.Crawl.Starts

namespace PoliteCrawl

variable {ψ ε : Type}

def Answers.foreseen (w : Answers) (plan : CrawlPlan ψ ε) (items : List WorkItem) (place : Nat) :
    Option Ending :=
  items[place]?.map (w.ending plan.agent plan.partition)

/-- The reader sorts out the items that are to be sorted out. -/
theorem ReaderPhase.ending_of_inHand {w : Answers} {plan : CrawlPlan ψ ε} {phase : ReaderPhase}
    {item : WorkItem} {ending : Ending} (hhand : phase.inHand = some item)
    (hending : phase.ending? plan = some ending) :
    w.ending plan.agent plan.partition item = ending := by
  cases phase with
  | sorting item' lines =>
    cases hhand
    rw [ending?] at hending
    split at hending
    · rename_i hissue
      cases hending
      rw [Answers.ending, if_pos hissue]
    · rename_i hissue
      split at hending
      · cases hending
      · rename_i hbelongs
        cases hending
        rw [Answers.ending, if_neg hissue, if_neg hbelongs]
  | _ => cases hending

structure Foretold (w : Answers) (plan : CrawlPlan ψ ε) (items : List WorkItem) (threshold : Nat)
    (reader : ReaderPhase) (crew : List (Errand ψ)) (endings : List (Nat × Ending))
    (s : CrawlState ε) : Prop where
  threshold : s.valve.threshold = threshold
  willing : s.requeue.Willing
  /-- The envelope takes all records until the reader closes it and returns a summary. -/
  writable : s.envelope.Writable ∧ (∀ result, reader ≠ .returned result) ∨
    ∃ summary, reader = .returned (.ok summary)
  steady : ∀ e ∈ crew, e.phase.Steady w plan.agent (w.ending plan.agent plan.partition e.item)
  ended : ∀ x ∈ endings, w.foreseen plan items x.1 = some x.2

namespace Foretold

variable {w : Answers} {plan : CrawlPlan ψ ε} {items done : List WorkItem} {threshold : Nat}
  {reader reader' : ReaderPhase} {crew front back : List (Errand ψ)} {e : Errand ψ}
  {phase' : ItemPhase ψ} {endings : List (Nat × Ending)}
  {c : Configuration (CrawlTask ψ) (CrawlState ε)} {s' : CrawlState ε} {started : List WorkItem}

theorem ended_note {place : Nat} {ending? : Option Ending}
    (h : Foretold w plan items threshold reader crew endings c.shared)
    (hforeseen : ∀ ending, ending? = some ending → w.foreseen plan items place = some ending) :
    ∀ x ∈ endings ++ ending?.toList.map (place, ·), w.foreseen plan items x.1 = some x.2 := by
  intro x hx
  rcases List.mem_append.mp hx with hx | hx
  · exact h.ended x hx
  · obtain ⟨ending, hending, rfl⟩ := List.mem_map.mp hx
    exact hforeseen ending (Option.mem_toList.mp hending)

theorem reader_act (h : Foretold w plan items threshold reader crew endings c.shared)
    (hmuster : Muster plan items done reader crew c.tasks)
    (hread : c.shared.tally.read = done.length + reader.inHand.toList.length)
    (hleads : reader.Leads plan c.shared reader' s' started) (place : Nat) :
    Foretold w plan items threshold reader' (crew ++ started.map (.fresh · place))
      (endings ++ (reader.ending? plan).toList.map (c.shared.tally.read - 1, ·)) s' := by
  -- The reader goes on, so it has not returned.
  have hwritable : c.shared.envelope.Writable := by
    rcases h.writable with ⟨hwritable, -⟩ | ⟨summary, rfl⟩
    · exact hwritable
    · cases hleads
  have hflush := h.willing.flush
  refine ⟨?_, ?_, ?_, ?_, ?_⟩
  · rw [hleads.valve]
    exact h.threshold
  · cases hleads with
    | givesBack item => exact h.willing.add item
    | flushes | breaksOff => exact hflush.2
    | _ => exact h.willing
  · cases hleads with
    | breaksOff hbroken =>
      rw [hflush.1] at hbroken
      cases hbroken
    | closes =>
      refine .inr ⟨c.shared.summary, ?_⟩
      rw [hwritable.close]
      rfl
    | _ => exact .inl ⟨hwritable, by rintro _ ⟨⟩⟩
  · exact Errand.forall_started h.steady (fun item => trivial) started
  · apply h.ended_note
    intro ending hending
    obtain ⟨item, hhand⟩ := ReaderPhase.inHand_of_ending? hending
    rw [Answers.foreseen, hmuster.inHand_place hread hhand, Option.map_some,
      ReaderPhase.ending_of_inHand hhand hending]

theorem errand_act
    (h : Foretold w plan items threshold reader (front ++ e :: back) endings c.shared)
    (hmuster : Muster plan items done reader (front ++ e :: back) c.tasks)
    (hopen : reader.stage ≠ .closed)
    (hleads : e.phase.Leads plan c.now (front.length + 1) c.shared phase' s')
    (hpages : ∀ calls call, (plan.service calls call).result.outcome = w.page call.target)
    (hroom : e.phase.isAdmitted = false → c.shared.valve.inside < threshold)
    (hlearnt : ∀ candidate lookup next robots, e.phase = .looking candidate lookup →
      lookup.step c.now (front.length + 1) c.shared.hosts = some next →
        next.phase = .finished robots → robots = w.robots candidate.host) :
    Foretold w plan items threshold reader (front ++ { e with phase := phase' } :: back)
      (endings ++ (e.phase.ending? plan).toList.map (e.place, ·)) s' := by
  have he : e ∈ front ++ e :: back := List.mem_append_cons_self
  obtain ⟨hplace, htakes⟩ := hmuster.origin_mem he
  -- a task is at work only while the reader has not closed the streams
  have hwritable : c.shared.envelope.Writable ∧ ∀ result, reader ≠ .returned result := by
    rcases h.writable with hwritable | ⟨summary, rfl⟩
    · exact hwritable
    · exact absurd rfl hopen
  rw [← h.threshold] at hroom
  have hsteady := hleads.steady (h.steady e he) (hmuster.own e he) htakes hpages hroom hwritable.1
    hlearnt
  refine ⟨?_, hleads.willing h.willing, .inl ⟨hleads.writable hwritable.1, hwritable.2⟩, ?_, ?_⟩
  · rw [hleads.threshold]
    exact h.threshold
  · exact Errand.forall_replaced h.steady hsteady
  · apply h.ended_note
    intro ending hending
    rw [Answers.foreseen, hplace, Option.map_some,
      (h.steady e he).ending (hmuster.own e he) htakes hending]

end Foretold

/-- A crawler that has as much room in its valve as it has slots and is answered by host and address
alone. -/
structure Crawler.Quiet (w : Answers) (c : Crawler ψ ε) : Prop where
  fresh : c.hosts.Fresh
  answers : w.Govern c.hosts.service c.plan.service
  slots : c.slots = { free := c.slots.free }
  empty : c.valve.inside = 0
  room : c.slots.free ≤ c.valve.threshold

namespace Crawler.Quiet

variable {w : Answers} {c : Crawler ψ ε} {input : List UInt8} {envelope : Envelope}
  {requeue : RequeueStream} {events : List (Event (CrawlTask ψ) (CrawlState ε))}
  {last : Configuration (CrawlTask ψ) (CrawlState ε)}

/-- What a task learns of a robots file is what the answers say, no matter who asked for it, when,
and how often. -/
theorem learns {task : Nat} {candidate : Candidate} {lookup : LookupPhase}
    {next : Progress LookupPhase HostTable} {robots : Option Robots} (hquiet : c.Quiet w)
    (h : (CrawlTask.machine c.plan).History (c.start (Input.lines input) envelope requeue) events
      last)
    (hphase : last.tasks[task]? = some (.item (.looking candidate lookup)))
    (hstep : lookup.step last.now task last.shared.hosts = some next)
    (hreturned : next.phase = .finished robots) : robots = w.robots candidate.host := by
  have hsound : lookup.Sound task (HostTable.keyOf candidate.host) last.shared.hosts :=
    ((holds_start hquiet.fresh _ _ _).history h).tasks task _ hphase
  have hstart : (CrawlTask.robotsDiscipline c.plan).Holds
      (c.start (Input.lines input) envelope requeue) [] := by
    apply RobotsDiscipline.Holds.of_fresh hquiet.fresh
    intro phase hmem
    rw [List.mem_singleton.mp hmem]
    rfl
  have hholds := hstart.history h
  have hlookup : (CrawlTask.robotsDiscipline c.plan).lookupAt? last task = some lookup := by
    rw [RobotsDiscipline.lookupAt?, hphase]
    rfl
  obtain ⟨q, hq, hhost, houtcome, -⟩ := hholds.learnt hlookup hsound hstep hreturned
  obtain ⟨earlier, hanswer⟩ := hholds.answers q hq
  have hservice : last.shared.hosts.service = c.hosts.service := hstart.service h
  rw [hservice, hquiet.answers.files, hhost] at hanswer
  rw [← houtcome, Inquiry.outcome, hanswer]
  rfl

theorem kept_foretold (hquiet : c.Quiet w) (henvelope : envelope.Writable)
    (hrequeue : requeue.Willing) : c.Kept input envelope requeue fun _ reader crew events s =>
      Foretold w c.plan (Input.items c.plan.format input) c.valve.threshold reader crew
        (CrawlTask.endings c.plan (Input.items c.plan.format input) events) s where
  start := by
    refine ⟨rfl, hrequeue, .inl ⟨henvelope, by rintro _ ⟨⟩⟩, ?_, ?_⟩
    · intro e he
      cases he
    · intro x hx
      cases hx
  reader h hmuster hforetold hleads _ := by
    have hread := (books_of_muster hquiet.answers.unbroken h hmuster).read
    rw [CrawlTask.endings, CrawlTask.noted_reader hmuster]
    exact hforetold.reader_act hmuster hread hleads _
  errand h hmuster hforetold hleads := by
    have hgoes := hleads.unfinished.1
    have hopen := (books_of_muster hquiet.answers.unbroken h hmuster).not_closed hgoes
    have hoccupied := (kept_occupied hquiet.slots).of_muster h hmuster
    rw [CrawlTask.endings, CrawlTask.noted_errand hmuster]
    apply hforetold.errand_act hmuster hopen hleads hquiet.answers.pages
    · intro hout
      have hinside := hoccupied.inside_lt hgoes hout
      have hempty := hquiet.empty
      have hroom := hquiet.room
      omega
    · intro candidate lookup next robots hphase hstep hreturned
      refine hquiet.learns h ?_ hstep hreturned
      rw [hmuster.standing, List.getElem?_cons_succ, List.getElem?_map]
      simp [Errand.task, hphase]
  pass hforetold := by
    rw [CrawlTask.endings, CrawlTask.noted_pass]
    exact hforetold

/-- Every item that ends does so as foretold. -/
theorem foreseen_of_mem (hquiet : c.Quiet w) (henvelope : envelope.Writable)
    (hrequeue : requeue.Willing)
    (h : (CrawlTask.machine c.plan).History (c.start (Input.lines input) envelope requeue) events
      last) :
    ∀ x ∈ CrawlTask.endings c.plan (Input.items c.plan.format input) events,
      w.foreseen c.plan (Input.items c.plan.format input) x.1 = some x.2 := by
  obtain ⟨done, reader, crew, -, hforetold⟩ :=
    (hquiet.kept_foretold henvelope hrequeue).of_history h
  exact hforetold.ended

/-- The valve turns no item away. -/
theorem not_rejected (hquiet : c.Quiet w) (henvelope : envelope.Writable)
    (hrequeue : requeue.Willing)
    (h : (CrawlTask.machine c.plan).History (c.start (Input.lines input) envelope requeue) events
      last) :
    last.shared.tally.rejected = 0 ∧ ∀ item, .item (.rejecting item) ∉ last.tasks := by
  obtain ⟨done, reader, crew, hmuster, hforetold⟩ :=
    (hquiet.kept_foretold henvelope hrequeue).of_history h
  have hbooks := books_of_muster hquiet.answers.unbroken h hmuster
  refine ⟨?_, ?_⟩
  · have hrejected : last.shared.tally.rejected = _ := hbooks.under .rejected
    rw [hrejected, CrawlTask.verdicts_eq_endings h, List.countP_map]
    refine List.countP_eq_zero.mpr fun x hx => ?_
    obtain ⟨item, -, hending⟩ := Option.map_eq_some_iff.mp (hforetold.ended x hx)
    have hfate := Answers.fate_ending_ne (w := w) c.plan.agent c.plan.partition item
    rw [hending] at hfate
    simpa using hfate
  · intro item hmem
    rw [hmuster.standing] at hmem
    rcases List.mem_cons.mp hmem with heq | hmem
    · cases heq
    · obtain ⟨e, he, heq⟩ := List.mem_map.mp hmem
      have hsteady := hforetold.steady e he
      cases e with
      | mk item' place phase =>
        cases heq
        exact hsteady

/-- If the run returns, it returns a summary. -/
theorem ok_of_returned (hquiet : c.Quiet w) (henvelope : envelope.Writable)
    (hrequeue : requeue.Willing)
    (h : (CrawlTask.machine c.plan).History (c.start (Input.lines input) envelope requeue) events
      last)
    {result : Except CrawlError CrawlSummary}
    (hreturned : last.tasks[readerTask]?.bind (·.result?) = some result) :
    ∃ summary, result = .ok summary := by
  obtain ⟨done, reader, crew, hmuster, hforetold⟩ :=
    (hquiet.kept_foretold henvelope hrequeue).of_history h
  have hreader := hmuster.reader_of_result hreturned
  rcases hforetold.writable with ⟨-, hgoes⟩ | ⟨summary, hsummary⟩
  · exact absurd hreader (hgoes result)
  · rw [hreader] at hsummary
    cases hsummary
    exact ⟨summary, rfl⟩

end Crawler.Quiet

end PoliteCrawl

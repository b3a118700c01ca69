import PoliteCrawl.Crawl.Run
import PoliteCrawl.Proofs.Crawl.Counts
import PoliteCrawl.Proofs.Schedule.History

namespace PoliteCrawl

variable {ψ ε : Type}

structure Errand (ψ : Type) where
  item : WorkItem
  /-- Where the item stands in the input. -/
  place : Nat
  phase : ItemPhase ψ

namespace Errand

def task (e : Errand ψ) : CrawlTask ψ := .item e.phase

def origin (e : Errand ψ) : WorkItem × Nat := (e.item, e.place)

def fresh (item : WorkItem) (place : Nat) : Errand ψ := ⟨item, place, .entering item (.start item)⟩

variable {P : Errand ψ → Prop}

/-- What all errands have in common they keep if the one that changes has it. -/
theorem forall_replaced {front back : List (Errand ψ)} {e e' : Errand ψ}
    (h : ∀ x ∈ front ++ e :: back, P x) (he : P e') : ∀ x ∈ front ++ e' :: back, P x := by
  intro x hx
  rcases List.mem_append.mp hx with hx | hx
  · exact h x (List.mem_append_left _ hx)
  · rcases List.mem_cons.mp hx with rfl | hx
    · exact he
    · exact h x (List.mem_append_right _ (List.mem_cons_of_mem e hx))

/-- What all errands have in common they keep if new ones have it. -/
theorem forall_started {crew : List (Errand ψ)} {place : Nat} (h : ∀ x ∈ crew, P x)
    (hfresh : ∀ item, P (.fresh item place)) (started : List WorkItem) :
    ∀ x ∈ crew ++ started.map (.fresh · place), P x := by
  intro x hx
  rcases List.mem_append.mp hx with hx | hx
  · exact h x hx
  · obtain ⟨item, -, rfl⟩ := List.mem_map.mp hx
    exact hfresh item

end Errand

/-- The items that get a task of their own, with their places. -/
def CrawlPlan.taken (plan : CrawlPlan ψ ε) (items : List WorkItem) : List (WorkItem × Nat) :=
  items.zipIdx.filter fun x => plan.takes x.1

theorem CrawlPlan.taken_append (plan : CrawlPlan ψ ε) (xs ys : List WorkItem) :
    plan.taken (xs ++ ys) =
      plan.taken xs ++ (ys.zipIdx xs.length).filter fun x => plan.takes x.1 := by
  rw [taken, List.zipIdx_append, List.filter_append, Nat.zero_add]
  rfl

theorem CrawlPlan.length_taken (plan : CrawlPlan ψ ε) (items : List WorkItem) :
    (plan.taken items).length = items.countP plan.takes := by
  have hcount := congrArg (List.countP plan.takes) (List.zipIdx_map_fst 0 items)
  rw [List.countP_map, Function.comp_def] at hcount
  rw [← hcount, List.countP_eq_length_filter, taken]

/-- Together with the items that are not taken, those that are have all places. -/
theorem CrawlPlan.places_perm (plan : CrawlPlan ψ ε) (items : List WorkItem) :
    ((items.zipIdx.filter fun x => !plan.takes x.1).map (·.2) ++
      (plan.taken items).map (·.2)).Perm (List.range items.length) := by
  have hall : List.range items.length = items.zipIdx.map (·.2) := by
    rw [List.zipIdx_map_snd, List.range_eq_range']
  rw [hall, ← List.map_append]
  exact (List.perm_append_comm.trans (List.filter_append_perm _ _)).map _

/-- The tasks of a crawl: the reader, done with some of the items, and one for each item taken. -/
structure Muster (plan : CrawlPlan ψ ε) (items done : List WorkItem) (reader : ReaderPhase)
    (crew : List (Errand ψ)) (tasks : List (CrawlTask ψ)) : Prop where
  standing : tasks = .reader reader :: crew.map Errand.task
  order : items = done ++ reader.ahead plan.format
  origins : crew.map Errand.origin = plan.taken done
  own : ∀ e ∈ crew, e.phase.Of e.item
  fair : reader.Fair plan

namespace Muster

variable {plan : CrawlPlan ψ ε} {items done : List WorkItem} {reader : ReaderPhase}
  {crew : List (Errand ψ)} {c : Configuration (CrawlTask ψ) (CrawlState ε)} {task : Nat}
  {turn : Turn (CrawlTask ψ) (CrawlState ε)}

theorem start (plan : CrawlPlan ψ ε) (lines : List String) :
    Muster plan (Input.itemsOn plan.format lines) [] (.reading lines) [] [.reader (.reading lines)]
    where
  standing := rfl
  order := rfl
  origins := rfl
  own := by simp
  fair := trivial

/-- The tasks other than the reader are those of the errands, in their order. -/
theorem errand_of_getElem? {phase : CrawlTask ψ} {k : Nat}
    (h : Muster plan items done reader crew c.tasks) (hphase : c.tasks[k + 1]? = some phase) :
    ∃ front e back, crew = front ++ e :: back ∧ k = front.length ∧ phase = .item e.phase := by
  rw [h.standing, List.getElem?_cons_succ, List.getElem?_map] at hphase
  obtain ⟨e, he, rfl⟩ := Option.map_eq_some_iff.mp hphase
  obtain ⟨hlt, hget⟩ := List.getElem?_eq_some_iff.mp he
  refine ⟨crew.take k, e, crew.drop (k + 1), ?_, ?_, rfl⟩
  · rw [← hget, List.getElem_cons_drop, List.take_append_drop]
  · rw [List.length_take, Nat.min_eq_left (Nat.le_of_lt hlt)]

/-- The task of an item is that of an errand. -/
theorem errand_of_item {phase : ItemPhase ψ} (h : Muster plan items done reader crew c.tasks)
    (hphase : c.tasks[task]? = some (.item phase)) :
    ∃ front e back, crew = front ++ e :: back ∧ task = front.length + 1 ∧ phase = e.phase := by
  cases task with
  | zero =>
    rw [h.standing] at hphase
    cases hphase
  | succ k =>
    obtain ⟨front, e, back, hcrew, rfl, heq⟩ := h.errand_of_getElem? hphase
    exact ⟨front, e, back, hcrew, rfl, CrawlTask.item.inj heq⟩

/-- The reader has a task of its own. -/
theorem eq_of_reader {reader' : ReaderPhase} (h : Muster plan items done reader crew c.tasks)
    (hphase : c.tasks[task]? = some (.reader reader')) : reader' = reader := by
  cases task with
  | zero =>
    rw [h.standing] at hphase
    cases hphase
    rfl
  | succ k =>
    obtain ⟨_, _, _, -, -, heq⟩ := h.errand_of_getElem? hphase
    cases heq

/-- Who took a step: the reader, or the task of an errand. -/
theorem act (h : Muster plan items done reader crew c.tasks)
    (hstep : (CrawlTask.machine plan).stepAt c task = some turn) :
    (task = readerTask ∧ ∃ reader' started, reader.Leads plan c.shared reader' turn.shared started ∧
      turn.phase = .reader reader' ∧ turn.spawned = started.map .ofItem) ∨
    ∃ front e back phase', crew = front ++ e :: back ∧ task = front.length + 1 ∧
      e.phase.Leads plan c.now task c.shared phase' turn.shared ∧ turn.phase = .item phase' ∧
        turn.spawned = [] := by
  obtain ⟨phase, hphase, hturn⟩ := (CrawlTask.machine plan).stepAt_eq_some hstep
  cases task with
  | zero =>
    rw [h.standing] at hphase
    cases hphase
    obtain ⟨⟨reader', s', started⟩, hreader, rfl⟩ := Option.map_eq_some_iff.mp hturn
    exact .inl ⟨rfl, reader', started, ReaderPhase.leads_of_step hreader, rfl, rfl⟩
  | succ k =>
    obtain ⟨front, e, back, rfl, rfl, rfl⟩ := h.errand_of_getElem? hphase
    obtain ⟨p, hp, rfl⟩ := Option.map_eq_some_iff.mp hturn
    exact .inr ⟨front, e, back, p.phase, rfl, rfl, ItemPhase.leads_of_step hp, rfl, rfl⟩

/-- The reader goes on, past an item or not, and an item that is taken gets a task. -/
theorem reader_act {reader' : ReaderPhase} {gone started : List WorkItem}
    (h : Muster plan items done reader crew c.tasks)
    (hahead : reader.ahead plan.format = gone ++ reader'.ahead plan.format)
    (hstarted : gone.filter plan.takes = started) (hgone : gone.length ≤ 1)
    (hfair : reader'.Fair plan) (hphase : turn.phase = .reader reader')
    (hspawned : turn.spawned = started.map .ofItem) :
    Muster plan items (done ++ gone) reader' (crew ++ started.map (.fresh · done.length))
      (c.after readerTask turn).tasks where
  standing := by
    simp only [Configuration.after, readerTask, h.standing, hphase, hspawned, List.set_cons_zero,
      List.cons_append, List.map_append, List.map_map]
    rfl
  order := by rw [h.order, hahead, List.append_assoc]
  origins := by
    rw [List.map_append, h.origins, plan.taken_append, List.map_map]
    congr 1
    -- At most one item is gone, and it has a task just if it is taken.
    subst hstarted
    rcases gone with _ | ⟨item, _ | ⟨next, gone⟩⟩
    · rfl
    · cases htakes : plan.takes item with
      | true => simp [htakes, Errand.origin, Errand.fresh]
      | false => simp [htakes]
    · simp at hgone
  own := Errand.forall_started h.own (fun item => ⟨rfl, rfl⟩) started
  fair := hfair

theorem errand_act {front back : List (Errand ψ)} {e : Errand ψ} {phase' : ItemPhase ψ}
    (h : Muster plan items done reader (front ++ e :: back) c.tasks)
    (hof : phase'.Of e.item) (hphase : turn.phase = .item phase') (hspawned : turn.spawned = []) :
    Muster plan items done reader (front ++ { e with phase := phase' } :: back)
      (c.after (front.length + 1) turn).tasks where
  standing := by
    simp [Configuration.after, h.standing, hphase, hspawned, Errand.task]
  order := h.order
  origins := by
    rw [← h.origins]
    simp [Errand.origin]
  own := Errand.forall_replaced h.own hof
  fair := h.fair

theorem reader_of_result {result : Except CrawlError CrawlSummary}
    (h : Muster plan items done reader crew c.tasks)
    (hresult : c.tasks[readerTask]?.bind (·.result?) = some result) : reader = .returned result := by
  rw [h.standing] at hresult
  cases reader with
  | returned result' =>
    cases hresult
    rfl
  | _ => cases hresult

/-- A count of tasks that leaves out the reader is one of errands. -/
theorem countP_tasks (h : Muster plan items done reader crew c.tasks) {p : CrawlTask ψ → Bool}
    (hreader : p (.reader reader) = false) :
    c.tasks.countP p = crew.countP fun e => p (.item e.phase) := by
  rw [h.standing, List.countP_cons_of_neg (by simp [hreader]), List.countP_map]
  rfl

/-- A task of an errand works for an item that can be fetched and has the errand's place. -/
theorem origin_mem (h : Muster plan items done reader crew c.tasks) {e : Errand ψ} (he : e ∈ crew) :
    items[e.place]? = some e.item ∧ plan.takes e.item = true := by
  have hmem : e.origin ∈ plan.taken done := h.origins ▸ List.mem_map_of_mem he
  obtain ⟨hmem, htakes⟩ := List.mem_filter.mp hmem
  refine ⟨?_, htakes⟩
  have hget := List.mk_mem_zipIdx_iff_getElem?.mp hmem
  rw [h.order, List.getElem?_append_left (List.getElem?_eq_some_iff.mp hget).1]
  exact hget

theorem place_lt (h : Muster plan items done reader crew c.tasks) {e : Errand ψ} (he : e ∈ crew) :
    e.place < done.length := by
  have hmem : e.origin ∈ plan.taken done := h.origins ▸ List.mem_map_of_mem he
  have hget := List.mk_mem_zipIdx_iff_getElem?.mp (List.mem_filter.mp hmem).1
  exact (List.getElem?_eq_some_iff.mp hget).1

/-- No two tasks work for one item. -/
theorem places_nodup (h : Muster plan items done reader crew c.tasks) :
    (crew.map (·.place)).Nodup := by
  have hplaces : crew.map (·.place) = (plan.taken done).map (·.2) := by
    rw [← h.origins, List.map_map]
    rfl
  have hall : (done.zipIdx.map (·.2)).Nodup := by
    rw [List.zipIdx_map_snd]
    exact List.nodup_range'
  rw [hplaces]
  exact hall.sublist (List.filter_sublist.map _)

theorem phase?_reader (h : Muster plan items done reader crew c.tasks) :
    (Act.mk c readerTask turn).phase? = some (.reader reader) := by
  rw [Act.phase?, h.standing]
  rfl

theorem phase?_errand {front back : List (Errand ψ)} {e : Errand ψ}
    (h : Muster plan items done reader (front ++ e :: back) c.tasks) :
    (Act.mk c (front.length + 1) turn).phase? = some (.item e.phase) := by
  rw [Act.phase?, h.standing, List.getElem?_cons_succ, List.getElem?_map]
  simp [Errand.task]

/-- The places at which the items of tasks stand, by the number of the task. -/
theorem taken_getElem? {front back : List (Errand ψ)} {e : Errand ψ}
    (h : Muster plan items done reader (front ++ e :: back) c.tasks) :
    (plan.taken items)[front.length]? = some e.origin := by
  have hlen : front.length < (plan.taken done).length := by
    rw [← h.origins]
    simp
  rw [h.order, plan.taken_append, List.getElem?_append_left hlen, ← h.origins]
  simp

end Muster

/-- The items that a step of the reader leaves behind, of which those that are taken get a task. -/
theorem ReaderPhase.Move.gone {plan : CrawlPlan ψ ε} {reader reader' : ReaderPhase} {t t' : Tally}
    {started : List WorkItem} (h : reader.Move plan reader' t t' started) :
    ∃ gone, reader.ahead plan.format = gone ++ reader'.ahead plan.format ∧
      gone.filter plan.takes = started ∧ gone.length ≤ 1 := by
  cases h with
  | quiet _ hahead | reads _ _ hahead | dispatches _ hahead =>
    exact ⟨[], hahead.symm, rfl, Nat.zero_le _⟩
  | sorts item _ _ _ hahead _ _ _ _ htakes | starts item _ hahead _ _ _ _ htakes =>
    exact ⟨[item], hahead, by simp [htakes], Nat.le_refl _⟩

/-- The errands of a crawl are told by its tasks and by the items that the reader is done with. -/
theorem Muster.unique {plan : CrawlPlan ψ ε} {items done done' : List WorkItem}
    {reader reader' : ReaderPhase} {crew crew' : List (Errand ψ)} {tasks : List (CrawlTask ψ)}
    (h : Muster plan items done reader crew tasks)
    (h' : Muster plan items done' reader' crew' tasks) :
    done = done' ∧ reader = reader' ∧ crew = crew' := by
  have htasks := h.standing.symm.trans h'.standing
  obtain ⟨hreader, hphases⟩ := List.cons.inj htasks
  cases hreader
  have hdone : done = done' := List.append_cancel_right (h.order.symm.trans h'.order)
  subst hdone
  refine ⟨rfl, rfl, ?_⟩
  -- An errand is what it was started for, together with its phase.
  have hinjective : ∀ e e' : Errand ψ, (e.origin, e.task) = (e'.origin, e'.task) → e = e' := by
    rintro ⟨item, place, phase⟩ ⟨item', place', phase'⟩ heq
    cases heq
    rfl
  have hzip : ∀ crew : List (Errand ψ), crew.map (fun e => (e.origin, e.task)) =
      (crew.map Errand.origin).zip (crew.map Errand.task) := by
    intro crew
    rw [List.zip_map']
  apply (List.map_inj_right hinjective).mp
  rw [hzip, hzip, h.origins, h'.origins, hphases]

/-- What holds of a crawl at its start and is kept by each step: of the items that the reader is
done with, of the reader, the errands, the events so far and the state. -/
structure Crawler.Kept (c : Crawler ψ ε) (input : List UInt8) (envelope : Envelope)
    (requeue : RequeueStream)
    (P : List WorkItem → ReaderPhase → List (Errand ψ) →
      List (Event (CrawlTask ψ) (CrawlState ε)) → CrawlState ε → Prop) : Prop where
  start : P [] (.reading (Input.lines input)) [] []
    (c.start (Input.lines input) envelope requeue).shared
  reader : ∀ {done reader crew events d turn reader' gone started},
    (CrawlTask.machine c.plan).History (c.start (Input.lines input) envelope requeue) events d →
    Muster c.plan (Input.items c.plan.format input) done reader crew d.tasks →
    P done reader crew events d.shared →
    reader.Leads c.plan d.shared reader' turn.shared started →
    reader.ahead c.plan.format = gone ++ reader'.ahead c.plan.format →
    P (done ++ gone) reader' (crew ++ started.map (.fresh · done.length))
      (events ++ [.act ⟨d, readerTask, turn⟩]) turn.shared
  errand : ∀ {done reader front e back events d turn phase'},
    (CrawlTask.machine c.plan).History (c.start (Input.lines input) envelope requeue) events d →
    Muster c.plan (Input.items c.plan.format input) done reader (front ++ e :: back) d.tasks →
    P done reader (front ++ e :: back) events d.shared →
    e.phase.Leads c.plan d.now (front.length + 1) d.shared phase' turn.shared →
    P done reader (front ++ { e with phase := phase' } :: back)
      (events ++ [.act ⟨d, front.length + 1, turn⟩]) turn.shared
  pass : ∀ {done reader crew events d later}, P done reader crew events d.shared →
    P done reader crew (events ++ [.pass d later]) d.shared

theorem Crawler.Kept.of_history {c : Crawler ψ ε} {input : List UInt8} {envelope : Envelope}
    {requeue : RequeueStream}
    {P : List WorkItem → ReaderPhase → List (Errand ψ) →
      List (Event (CrawlTask ψ) (CrawlState ε)) → CrawlState ε → Prop}
    {events : List (Event (CrawlTask ψ) (CrawlState ε))}
    {last : Configuration (CrawlTask ψ) (CrawlState ε)} (hkept : c.Kept input envelope requeue P)
    (h : (CrawlTask.machine c.plan).History (c.start (Input.lines input) envelope requeue) events
      last) :
    ∃ done reader crew,
      Muster c.plan (Input.items c.plan.format input) done reader crew last.tasks ∧
        P done reader crew events last.shared := by
  induction h with
  | refl =>
    refine ⟨[], .reading (Input.lines input), [], ?_, hkept.start⟩
    rw [← Input.itemsOn_lines]
    exact .start c.plan (Input.lines input)
  | act h hstep ih =>
    obtain ⟨done, reader, crew, hmuster, hP⟩ := ih
    -- a step is the reader's, or that of the errand at the task's number
    rcases hmuster.act hstep with ⟨rfl, reader', started, hreader, hphase, hspawned⟩ |
      ⟨front, e, back, phase', rfl, rfl, hleads, hphase, hspawned⟩
    · obtain ⟨hfair, hmove⟩ := hreader.move hmuster.fair
      obtain ⟨gone, hahead, hstarted, hgone⟩ := hmove.gone
      exact ⟨_, _, _, hmuster.reader_act hahead hstarted hgone hfair hphase hspawned,
        hkept.reader h hmuster hP hreader hahead⟩
    · have he : e ∈ front ++ e :: back := List.mem_append_cons_self
      exact ⟨_, _, _, hmuster.errand_act (hleads.of (hmuster.own e he)) hphase hspawned,
        hkept.errand h hmuster hP hleads⟩
  | pass _ _ ih =>
    obtain ⟨done, reader, crew, hmuster, hP⟩ := ih
    exact ⟨done, reader, crew, hmuster, hkept.pass hP⟩

/-- What is kept holds of the errands, however they were told. -/
theorem Crawler.Kept.of_muster {c : Crawler ψ ε} {input : List UInt8} {envelope : Envelope}
    {requeue : RequeueStream}
    {P : List WorkItem → ReaderPhase → List (Errand ψ) →
      List (Event (CrawlTask ψ) (CrawlState ε)) → CrawlState ε → Prop}
    {events : List (Event (CrawlTask ψ) (CrawlState ε))}
    {last : Configuration (CrawlTask ψ) (CrawlState ε)} {done : List WorkItem}
    {reader : ReaderPhase} {crew : List (Errand ψ)} (hkept : c.Kept input envelope requeue P)
    (h : (CrawlTask.machine c.plan).History (c.start (Input.lines input) envelope requeue) events
      last)
    (hmuster : Muster c.plan (Input.items c.plan.format input) done reader crew last.tasks) :
    P done reader crew events last.shared := by
  obtain ⟨done', reader', crew', hmuster', hP⟩ := hkept.of_history h
  obtain ⟨rfl, rfl, rfl⟩ := hmuster.unique hmuster'
  exact hP

theorem Crawler.muster_of_history {c : Crawler ψ ε} {input : List UInt8} {envelope : Envelope}
    {requeue : RequeueStream} {events : List (Event (CrawlTask ψ) (CrawlState ε))}
    {last : Configuration (CrawlTask ψ) (CrawlState ε)}
    (h : (CrawlTask.machine c.plan).History (c.start (Input.lines input) envelope requeue) events
      last) :
    ∃ done reader crew,
      Muster c.plan (Input.items c.plan.format input) done reader crew last.tasks := by
  have hkept : c.Kept input envelope requeue fun _ _ _ _ _ => True :=
    ⟨trivial, fun _ _ _ _ _ => trivial, fun _ _ _ _ => trivial, fun _ => trivial⟩
  obtain ⟨done, reader, crew, hmuster, -⟩ := hkept.of_history h
  exact ⟨done, reader, crew, hmuster⟩

end PoliteCrawl

import PoliteCrawl.Proofs.Crawl.OpenStreams
import PoliteCrawl.Proofs.Crawl.Written
import PoliteCrawl.Proofs.Output.Elements
import PoliteCrawl.Proofs.Schedule.Simulation

namespace PoliteCrawl

variable {ψ ε : Type}

namespace RequeueStream

variable {r : RequeueStream}

theorem Willing.addAll (h : r.Willing) (items : List WorkItem) : (r.addAll items).Willing := by
  induction items generalizing r with
  | nil => exact h
  | cons item items ih => exact ih (h.add item)

theorem flush_eq_error {error : CrawlError} (h : r.flush.1 = .error error) :
    ∃ reason, error = .io reason := by
  unfold flush at h
  split at h
  · cases h
  · dsimp only at h
    split at h <;> cases h
    exact ⟨_, rfl⟩

end RequeueStream

namespace Envelope

/-- What a run that returned has left of its envelope, by the records that it wrote and by what came
of flushing the stream of items to be tried again. -/
inductive LeftBy (envelope : Envelope) (pages : List FetchRecord) (flushed : Except CrawlError Unit) :
    Except CrawlError CrawlSummary → Envelope → Prop where
  /-- It was closed before, and took no record. -/
  | untouched {result : Except CrawlError CrawlSummary} (hclosed : envelope.closed = true) :
    LeftBy envelope pages flushed result envelope
  | complete {summary : CrawlSummary} {e : Envelope} {text : List Char}
    (hflushed : flushed = .ok ()) (hlists : Lists pages text)
    (hcomplete : e.Complete (envelope.text ++ text ++ closing.toList))
    (hrecords : e.records = envelope.records + pages.length) :
    LeftBy envelope pages flushed (.ok summary) e
  | unclosed {error : CrawlError} {e : Envelope} {text : List Char}
    (hflushed : flushed = .error error) (hopen : e.closed = false) (hlists : Lists pages text)
    (htext : e.finalText = envelope.text ++ text)
    (hrecords : e.records = envelope.records + pages.length) :
    LeftBy envelope pages flushed (.error error) e

end Envelope

theorem Streams.left {envelope e : Envelope} {pages : List FetchRecord} {requeue : RequeueStream}
    {result : Except CrawlError CrawlSummary} {s : CrawlState ε}
    (h : Streams e requeue (.returned result) s) (hgrown : envelope.Grown pages e)
    (hwilling : envelope.buffer.sink.Willing) :
    envelope.LeftBy pages requeue.flush.1 result s.envelope := by
  generalize hreader : ReaderPhase.returned result = reader at h
  -- an envelope that was closed when the run began has taken nothing, whichever way it ended
  cases h with
  | inUse _ _ hresult => exact absurd hreader.symm (hresult _)
  | flushed => cases hreader
  | brokenOff henvelope _ hflush =>
    cases hreader
    rw [henvelope]
    cases hopen : envelope.closed with
    | true =>
      rw [hgrown.untouched hopen]
      exact .untouched hopen
    | false =>
      have hwritable := hgrown.writable ⟨hopen, hwilling⟩
      have htext := hwritable.finalText.trans hgrown.text
      exact .unclosed hflush hwritable.unclosed (Envelope.lists_elements pages) htext
        hgrown.records
  | closed henvelope _ hflush =>
    cases hreader
    rw [henvelope]
    cases hopen : envelope.closed with
    | true =>
      rw [hgrown.untouched hopen, Envelope.close_of_closed hopen]
      exact .untouched hopen
    | false =>
      have hwritable := hgrown.writable ⟨hopen, hwilling⟩
      have hclose := hwritable.close
      rw [hclose]
      refine .complete hflush (Envelope.lists_elements pages) ?_
        ((Envelope.records_close e).trans hgrown.records)
      rw [← hgrown.text]
      exact Envelope.complete_close hwritable.unclosed hclose

namespace Crawler

/-- What a crawl over streams may come to, in whatever order its tasks run: its input, the events of
its run and its report. If it ends before it begins there is no input and nothing happens. -/
inductive Streamed (c : Crawler ψ ε) (s : StreamSettings) (w : Surroundings) : List UInt8 →
    List (Event (CrawlTask ψ) (CrawlState ε)) → StreamReport ψ ε → Prop where
  | unopened {error : CrawlError} {w' : Surroundings}
    (hopened : w.openStreams s = .error (error, w')) :
    Streamed c s w [] [] { result := some (.error error), surroundings := w', crawler := c }
  | ran {w' : Surroundings} {events : List (Event (CrawlTask ψ) (CrawlState ε))}
    {last : Configuration (CrawlTask ψ) (CrawlState ε)} (hopened : w.openStreams s = .ok w')
    (hhistory : (CrawlTask.machine c.plan).History
      (c.start (Input.lines (w'.inputBytes s.inputPath)) (w'.envelope s)
        (w'.requeue s c.plan.format)) events last) :
    Streamed c s w (w'.inputBytes s.inputPath) events
      { result := (c.finish last).1.result
        surroundings := w'.leave s (c.finish last).1
        crawler := (c.finish last).2 }

/-- The order of the simulation is one of these orders. -/
theorem streamed_runStreams (c : Crawler ψ ε) (s : StreamSettings) (w : Surroundings) :
    ∃ input events, c.Streamed s w input events (c.runStreams s w) := by
  unfold runStreams
  split
  · rename_i error w' hopened
    exact ⟨[], [], .unopened hopened⟩
  · rename_i w' hopened
    obtain ⟨events, hhistory⟩ := (CrawlTask.machine c.plan).steps_iff_history.mp
      (Simulation.steps_complete (CrawlTask.machine c.plan) (· = readerTask)
        (c.start (Input.lines (w'.inputBytes s.inputPath)) (w'.envelope s)
          (w'.requeue s c.plan.format)))
    exact ⟨_, events, .ran hopened hhistory⟩

end Crawler

namespace Surroundings

/-- What a crawl over streams that returned has left of its output, by the records that it wrote. -/
inductive OutputLeft (w : Surroundings) (s : StreamSettings) (pages : List FetchRecord) :
    Except CrawlError CrawlSummary → Surroundings → Prop where
  /-- The input or the output could not be opened. -/
  | unopened {file reason : String} (hpath : s.inputPath = some file ∨ s.outputPath = some file) :
    OutputLeft w s pages (.error (.openFile file reason)) w
  /-- The stream of items to be tried again could not be opened. -/
  | started {file reason : String} {w' : Surroundings} (hpath : s.requeuePath = some file)
    (hnone : pages = []) (hshows : w.Shows s.outputPath Envelope.opening.toList w') :
    OutputLeft w s pages (.error (.openFile file reason)) w'
  | complete {summary : CrawlSummary} {w' : Surroundings} {text : List Char}
    (hlists : Envelope.Lists pages text)
    (hshows : w.Shows s.outputPath
      (Envelope.opening.toList ++ text ++ Envelope.closing.toList) w') :
    OutputLeft w s pages (.ok summary) w'
  /-- The stream of items to be tried again took not all that it was given. -/
  | unclosed {file reason : String} {w' : Surroundings} {text : List Char}
    (hpath : s.requeuePath = some file)
    (hrefuses : ¬ Sink.Willing { toDevice := w.disk.device file })
    (hlists : Envelope.Lists pages text)
    (hshows : w.Shows s.outputPath (Envelope.opening.toList ++ text) w') :
    OutputLeft w s pages (.error (.io reason)) w'

/-- To flush the stream of items to be tried again can only fail if there is a file for it, which
refuses something. -/
theorem requeue_refuses {w : Surroundings} {s : StreamSettings} {format : LineFormat}
    {items : List WorkItem} {error : CrawlError}
    (h : ((w.requeue s format).addAll items).flush.1 = .error error) :
    ∃ file reason, s.requeuePath = some file ∧ error = .io reason ∧
      ¬ Sink.Willing { toDevice := w.disk.device file } := by
  have hrefuses : ¬ (w.requeue s format).Willing := by
    intro hwilling
    rw [(hwilling.addAll items).flush.1] at h
    cases h
  obtain ⟨reason, rfl⟩ := RequeueStream.flush_eq_error h
  cases hpath : s.requeuePath with
  | none =>
    refine absurd ?_ hrefuses
    intro b hb
    simp [requeue, hpath, RequeueStream.disabled] at hb
  | some file =>
    -- Nothing is in the buffer yet, so that the file decides.
    refine ⟨file, reason, rfl, rfl, fun hwilling => hrefuses ?_⟩
    intro b hb
    simp only [requeue, hpath, RequeueStream.appending, Option.some.injEq] at hb
    rw [← hb]
    exact hwilling

end Surroundings

namespace Crawler

variable {c : Crawler ψ ε}

def pages (c : Crawler ψ ε) (input : List UInt8)
    (events : List (Event (CrawlTask ψ) (CrawlState ε))) : List FetchRecord :=
  (CrawlTask.written c.plan (Input.items c.plan.format input) events).map (·.2)

theorem left_of_history {total : Nat} {input : List UInt8} {envelope : Envelope}
    {requeue : RequeueStream} {events : List (Event (CrawlTask ψ) (CrawlState ε))}
    {last : Configuration (CrawlTask ψ) (CrawlState ε)} {result : Except CrawlError CrawlSummary}
    (hslots : c.slots = { free := total }) (hwilling : envelope.buffer.sink.Willing)
    (h : (CrawlTask.machine c.plan).History (c.start (Input.lines input) envelope requeue) events
      last) (hreturned : last.tasks[readerTask]?.bind (·.result?) = some result) :
    envelope.LeftBy (c.pages input events) (requeue.addAll (CrawlTask.given events)).flush.1 result
      last.shared.envelope := by
  obtain ⟨done, reader, crew, hmuster, e, hgrown, hstreams⟩ := (kept_streams hslots).of_history h
  obtain rfl := hmuster.reader_of_result hreturned
  exact hstreams.left hgrown hwilling

theorem outputLeft_of_streamed {total : Nat} {s : StreamSettings} {w : Surroundings}
    {input : List UInt8} {events : List (Event (CrawlTask ψ) (CrawlState ε))}
    {report : StreamReport ψ ε} {result : Except CrawlError CrawlSummary}
    (hslots : c.slots = { free := total })
    (hwilling : Sink.Willing { toDevice := w.device s.outputPath })
    (hapart : ∀ file, s.outputPath = some file → s.requeuePath ≠ some file)
    (h : c.Streamed s w input events report) (hreturned : report.result = some result) :
    w.OutputLeft s (c.pages input events) result report.surroundings := by
  cases h with
  | unopened hopened =>
    cases hreturned
    rcases Surroundings.openStreams_eq_error hopened hwilling with
      ⟨file, reason, hpath, rfl, rfl⟩ | ⟨file, reason, hpath, rfl, hshows⟩
    · exact .unopened hpath
    · exact .started hpath rfl hshows
  | ran hopened hhistory =>
    rename_i w' last
    have hdevice := Surroundings.device_of_openStreams hopened
    have houtput := Surroundings.openStreams_eq_ok hopened hapart
    have hwilling' : (w'.envelope s).buffer.sink.Willing := by
      change Sink.Willing { toDevice := w'.device s.outputPath }
      rw [houtput.device]
      exact hwilling
    have hleft := left_of_history hslots hwilling' hhistory hreturned
    have hshows := houtput.shows_leave (c.finish last).1 hapart
    change w.Shows s.outputPath last.shared.envelope.finalText _ at hshows
    generalize last.shared.envelope = after at hleft hshows
    cases hleft with
    -- The envelope was started for this run.
    | untouched hclosed => cases hclosed
    | complete _ hlists hcomplete =>
      rw [hcomplete.finalText] at hshows
      exact .complete hlists hshows
    | unclosed hflushed _ hlists htext =>
      obtain ⟨file, reason, hpath, rfl, hrefuses⟩ := Surroundings.requeue_refuses hflushed
      rw [hdevice] at hrefuses
      rw [htext] at hshows
      exact .unclosed hpath hrefuses hlists hshows

/-- A run leaves its envelope complete, unless it was closed before or the stream of items to be tried
again could not be flushed. A crawl over streams leaves its output complete or as it was, unless that
stream could not be opened or refused something. -/
theorem output_of_returned {s : Settings} (hc : c.Ready s) :
    (∀ input envelope requeue events last result, envelope.buffer.sink.Willing →
      (CrawlTask.machine c.plan).History (c.start (Input.lines input) envelope requeue) events
        last →
      last.tasks[readerTask]?.bind (·.result?) = some result →
      envelope.LeftBy (c.pages input events) (requeue.addAll (CrawlTask.given events)).flush.1
        result last.shared.envelope) ∧
    ∀ (streams : StreamSettings) w input events report result,
      Sink.Willing { toDevice := Surroundings.device w streams.outputPath } →
      (∀ file, streams.outputPath = some file → streams.requeuePath ≠ some file) →
      c.Streamed streams w input events report → report.result = some result →
      w.OutputLeft streams (c.pages input events) result report.surroundings := by
  refine ⟨?_, ?_⟩
  · intro input envelope requeue events last result hwilling h hreturned
    exact left_of_history hc.slots hwilling h hreturned
  · intro streams w input events report result hwilling hapart h hreturned
    exact outputLeft_of_streamed hc.slots hwilling hapart h hreturned

def walledOff : Except CrawlError (Crawler Unit Unit) :=
  (ofSettings oneSlot (fun _ _ => { answer := .ok none })
    (fun _ _ => { result := .failed .writerClosed }) (.seeded 0) (.seeded 0)).map
      (·.withValve { threshold := 0, baseWait := 0, jitter := .seeded 0 } (.own (.fixed false)) ())

/-- The first item is turned away, is given back, and cannot be written when the run ends. -/
def fullRun (c : Crawler Unit Unit) : List (Event (CrawlTask Unit) (CrawlState Unit)) ×
    Configuration (CrawlTask Unit) (CrawlState Unit) :=
  (CrawlTask.machine c.plan).follow (c.start (Input.lines twoHosts) (.start {})
    (.appending .full .raw)) [] (List.replicate 8 (.inl 0) ++ List.replicate 8 (.inl 1) ++
      List.replicate 8 (.inl 0) ++ List.replicate 8 (.inl 2) ++ List.replicate 4 (.inl 0))

def noDirectory : String := "Is a directory (os error 21)"

/-- The standard streams, and a directory where the items to be tried again should go. -/
def misplaced : Surroundings where
  disk := { refusal? := fun path => if path = "again" then some noDirectory else none }

theorem output_fullRun : ∃ c, walledOff = .ok c ∧ c.Ready oneSlot ∧
    (fullRun c).2.tasks[readerTask]?.bind (·.result?) =
      some (.error (.io "No space left on device (os error 28)")) ∧
    (Envelope.start {}).LeftBy (c.pages twoHosts (fullRun c).1)
      ((RequeueStream.appending .full .raw).addAll (CrawlTask.given (fullRun c).1)).flush.1
      (.error (.io "No space left on device (os error 28)")) (fullRun c).2.shared.envelope ∧
    (fullRun c).2.shared.envelope.closed = false ∧
    ∃ w', misplaced.OutputLeft { requeuePath := some "again" } []
      (.error (.openFile "again" noDirectory)) w' ∧ w'.output = Envelope.opening.toList := by
  obtain ⟨c, hc⟩ : ∃ c, walledOff = .ok c := ⟨_, rfl⟩
  have hready : c.Ready oneSlot := by
    cases hc
    exact .refitted (.made rfl) _ _ _
  have hreturned : (fullRun c).2.tasks[readerTask]?.bind (·.result?) =
      some (.error (.io "No space left on device (os error 28)")) := by
    cases hc
    decide +kernel
  have hopen : (fullRun c).2.shared.envelope.closed = false := by
    cases hc
    decide +kernel
  obtain ⟨hrun, hstreams⟩ := output_of_returned hready
  have hhistory : (CrawlTask.machine c.plan).History
      (c.start (Input.lines twoHosts) (.start {}) (.appending .full .raw)) (fullRun c).1
      (fullRun c).2 := (CrawlTask.machine c.plan).history_follow (.refl _) _
  have hleft := hrun twoHosts (.start {}) (.appending .full .raw) _ _ _ (fun _ _ _ => rfl)
    hhistory hreturned
  have hopened : misplaced.openStreams { requeuePath := some "again" } =
      .error (.openFile "again" noDirectory,
        { misplaced with output := Envelope.opening.toList }) := by
    rfl
  have hmisplaced := hstreams { requeuePath := some "again" } misplaced [] []
    { result := some (.error (.openFile "again" noDirectory))
      surroundings := { misplaced with output := Envelope.opening.toList }
      crawler := c } _ (fun _ _ _ => rfl) (by simp) (.unopened hopened) rfl
  exact ⟨c, hc, hready, hreturned, hleft, hopen, _, hmisplaced, rfl⟩

end Crawler

end PoliteCrawl

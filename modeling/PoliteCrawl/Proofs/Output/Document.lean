import Mathlib.Data.List.Induction
import PoliteCrawl.Proofs.Output.Envelope

namespace PoliteCrawl

namespace Sink

theorem prefix_offer (s : Sink) (piece : List Char) : s.taken <+: (s.offer piece).2.taken := by
  rw [taken_offer]
  split
  · exact List.prefix_append _ _
  · exact List.prefix_rfl

end Sink

namespace BufferedSink

variable {b : BufferedSink}

theorem prefix_content (b : BufferedSink) : b.sink.taken <+: b.content := List.prefix_append _ _

theorem prefix_flush (b : BufferedSink) : b.sink.taken <+: b.flush.2.sink.taken := by
  have hoffer := b.sink.prefix_offer b.pending
  unfold flush
  split
  · exact List.prefix_rfl
  · split <;> rename_i sink heq <;> rw [heq] at hoffer <;> exact hoffer

theorem prefix_put (b : BufferedSink) (piece : List Char) :
    b.sink.taken <+: (b.put piece).2.sink.taken := by
  unfold put
  split
  · exact b.sink.prefix_offer piece
  · exact List.prefix_rfl

theorem prefix_write (b : BufferedSink) (piece : List Char) :
    b.sink.taken <+: (b.write piece).2.sink.taken := by
  have hflush := b.prefix_flush
  unfold write
  split
  · split
    · rename_i b' heq
      rw [heq] at hflush
      exact hflush.trans (b'.prefix_put piece)
    · rename_i b' heq
      rw [heq] at hflush
      exact hflush
  · exact b.prefix_put piece

theorem prefix_close (b : BufferedSink) : b.sink.taken <+: b.close.taken := b.prefix_flush

/-- Giving up a buffer adds nothing that was not written to it. -/
theorem close_prefix (b : BufferedSink) : b.close.taken <+: b.content := by
  rw [← b.content_flush.1]
  exact prefix_content _

end BufferedSink

inductive EnvelopeCall where
  | write (record : FetchRecord)
  | close

namespace Envelope

variable {e : Envelope}

def answer (e : Envelope) : EnvelopeCall → Except CrawlError Unit × Envelope
  | .write record => e.write record
  | .close => e.close

theorem write_of_closed (h : e.closed = true) (record : FetchRecord) :
    e.write record = (.error .writerClosed, e) := by
  rw [write, if_pos h]

theorem records_write (e : Envelope) (record : FetchRecord) :
    (e.write record).2.records =
      if (e.write record).1.isOk then e.records + 1 else e.records := by
  rw [(e.grown_write record).records]
  split <;> rfl

/-- What an envelope becomes by its first closing: nothing is pending any more, be it that all of it
has arrived or that some was given up. -/
theorem shut_close (hopen : e.closed = false) :
    e.close.2.closed = true ∧ e.close.2.buffer.pending = [] ∧
      e.close.2.text <+: e.text ++ closing.toList := by
  have hwritten := BufferedSink.content_write e.buffer closing.toList
  have hflushed := (BufferedSink.content_flush (e.buffer.write closing.toList).2).1
  have hle : (e.buffer.write closing.toList).2.content <+: e.text ++ closing.toList := by
    rw [hwritten]
    split
    · exact List.prefix_rfl
    · exact List.prefix_append _ _
  unfold close
  rw [if_neg (by rw [hopen]; exact Bool.false_ne_true)]
  refine ⟨rfl, rfl, ?_⟩
  rw [text, BufferedSink.content, List.append_nil]
  refine (BufferedSink.close_prefix _).trans ?_
  split
  · rw [hflushed]
    exact hle
  · exact hle

theorem prefix_close (e : Envelope) :
    e.buffer.sink.taken <+: e.close.2.buffer.sink.taken := by
  have hwrite := e.buffer.prefix_write closing.toList
  unfold close
  split
  · exact List.prefix_rfl
  · refine (hwrite.trans ?_).trans (BufferedSink.prefix_close _)
    split
    · exact BufferedSink.prefix_flush _
    · exact List.prefix_rfl

theorem prefix_write (e : Envelope) (record : FetchRecord) :
    e.buffer.sink.taken <+: (e.write record).2.buffer.sink.taken := by
  have hwrite := e.buffer.prefix_write record.markup.toList
  unfold write
  split
  · exact List.prefix_rfl
  · split <;> rename_i buffer heq <;> rw [heq] at hwrite <;> exact hwrite

/-- Nothing is taken back from a destination. -/
theorem prefix_answer (e : Envelope) (c : EnvelopeCall) :
    e.buffer.sink.taken <+: (e.answer c).2.buffer.sink.taken := by
  cases c with
  | write record => exact e.prefix_write record
  | close => exact e.prefix_close

end Envelope

abbrev EnvelopeLog := List (EnvelopeCall × Except CrawlError Unit)

namespace EnvelopeLog

def added? : EnvelopeCall × Except CrawlError Unit → Option FetchRecord
  | (.write record, .ok ()) => some record
  | _ => none

def closing? : EnvelopeCall × Except CrawlError Unit → Option (Except CrawlError Unit)
  | (.close, answer) => some answer
  | (.write _, _) => none

def accepted (log : EnvelopeLog) : List FetchRecord := log.filterMap added?

def closeAnswer? (log : EnvelopeLog) : Option (Except CrawlError Unit) := log.findSome? closing?

/-- The text that calls with these answers ask for. -/
def document (log : EnvelopeLog) : List Char :=
  Envelope.opening.toList ++ Envelope.elements (accepted log) ++
    if (closeAnswer? log).isSome then Envelope.closing.toList else []

variable {log : EnvelopeLog} {answer : Except CrawlError Unit}

theorem accepted_write (log : EnvelopeLog) (record : FetchRecord)
    (answer : Except CrawlError Unit) :
    accepted (log ++ [(.write record, answer)]) =
      accepted log ++ if answer.isOk then [record] else [] := by
  cases answer <;> simp [accepted, added?, Except.isOk, Except.toBool]

theorem accepted_close (log : EnvelopeLog) (answer : Except CrawlError Unit) :
    accepted (log ++ [(.close, answer)]) = accepted log := by
  simp [accepted, added?]

theorem closeAnswer?_write (log : EnvelopeLog) (record : FetchRecord)
    (answer : Except CrawlError Unit) :
    closeAnswer? (log ++ [(.write record, answer)]) = closeAnswer? log := by
  simp [closeAnswer?, closing?]

theorem closeAnswer?_close (log : EnvelopeLog) (answer : Except CrawlError Unit) :
    closeAnswer? (log ++ [(.close, answer)]) = (closeAnswer? log).or (some answer) := by
  simp [closeAnswer?, closing?]

theorem document_write (h : closeAnswer? log = none) (record : FetchRecord) :
    document (log ++ [(.write record, answer)]) =
      document log ++ Envelope.elements (if answer.isOk then [record] else []) := by
  simp [document, accepted_write, closeAnswer?_write, h, Envelope.elements]

theorem document_close (h : closeAnswer? log = none) :
    document (log ++ [(.close, answer)]) = document log ++ Envelope.closing.toList := by
  simp [document, accepted_close, closeAnswer?_close, h]

end EnvelopeLog

structure EnvelopeUse where
  log : EnvelopeLog := []
  envelope : Envelope

namespace EnvelopeUse

open EnvelopeLog

def call (u : EnvelopeUse) (c : EnvelopeCall) : EnvelopeUse where
  log := u.log ++ [(c, (u.envelope.answer c).1)]
  envelope := (u.envelope.answer c).2

/-- The use of a new envelope on a device by calls in the order in which they got hold of it. -/
def onDevice (device : Device) (calls : List EnvelopeCall) : EnvelopeUse :=
  calls.foldl call { envelope := .start { toDevice := device } }

theorem onDevice_snoc (device : Device) (calls : List EnvelopeCall) (c : EnvelopeCall) :
    onDevice device (calls ++ [c]) = (onDevice device calls).call c := by
  rw [onDevice, List.foldl_append, onDevice, List.foldl_cons, List.foldl_nil]

def reached (u : EnvelopeUse) : List Char := u.envelope.buffer.sink.taken

/-- How an envelope stands to the document that its calls ask for. -/
inductive Tracks (u : EnvelopeUse) : Prop where
  | unclosed (hclose : closeAnswer? u.log = none) (hopen : u.envelope.closed = false)
      (htext : u.envelope.text = document u.log)
  | closed (answer : Except CrawlError Unit) (hclose : closeAnswer? u.log = some answer)
      (hshut : u.envelope.closed = true) (hpending : u.envelope.buffer.pending = [])
      (harrived : u.reached <+: document u.log)
      (hwhole : answer = .ok () → u.reached = document u.log)

variable {u : EnvelopeUse}

theorem tracks_start (device : Device) :
    EnvelopeUse.Tracks { envelope := .start { toDevice := device } } := by
  refine .unclosed rfl rfl ?_
  simp [Envelope.text, Envelope.start, BufferedSink.content, document, accepted, closeAnswer?,
    Envelope.elements]

/-- A closed envelope answers every call without a change. -/
theorem call_of_closed (h : u.envelope.closed = true) (c : EnvelopeCall) :
    (u.call c).envelope = u.envelope ∧ accepted (u.call c).log = accepted u.log := by
  cases c with
  | write record =>
    have hwrite := Envelope.write_of_closed h record
    refine ⟨congrArg Prod.snd hwrite, ?_⟩
    rw [call, Envelope.answer, accepted_write, hwrite]
    exact List.append_nil _
  | close => exact ⟨congrArg Prod.snd (Envelope.close_of_closed h), accepted_close _ _⟩

theorem closeAnswer?_call {answer : Except CrawlError Unit} (h : closeAnswer? u.log = some answer)
    (c : EnvelopeCall) : closeAnswer? (u.call c).log = some answer := by
  cases c with
  | write record => exact (closeAnswer?_write _ _ _).trans h
  | close => rw [call, closeAnswer?_close, h, Option.some_or]

theorem Tracks.call (h : u.Tracks) (c : EnvelopeCall) : (u.call c).Tracks := by
  cases h with
  | closed answer hclose hshut hpending harrived hwhole =>
    obtain ⟨henvelope, haccepted⟩ := call_of_closed hshut c
    have hclose' := closeAnswer?_call hclose c
    have hdocument : document (u.call c).log = document u.log := by
      rw [document, document, haccepted, hclose', hclose]
    have hreached : (u.call c).reached = u.reached := by rw [reached, henvelope, reached]
    -- whatever is asked of a closed envelope, it stays as it is
    refine .closed answer hclose' (by rw [henvelope, hshut]) (by rw [henvelope, hpending]) ?_ ?_
    · rw [hreached, hdocument]
      exact harrived
    · rw [hreached, hdocument]
      exact hwhole
  | unclosed hclose hopen htext =>
    cases c with
    | write record =>
      have hgrown := u.envelope.grown_write record
      refine .unclosed ((closeAnswer?_write _ _ _).trans hclose) (hgrown.closed.trans hopen) ?_
      exact hgrown.text.trans (by rw [htext]; exact (document_write hclose record).symm)
    | close =>
      obtain ⟨hshut, hpending, htext'⟩ := Envelope.shut_close hopen
      have hdocument :
          document (u.call .close).log = u.envelope.text ++ Envelope.closing.toList := by
        rw [htext]
        exact document_close hclose
      refine .closed u.envelope.close.1 ?_ hshut hpending ?_ fun hok => ?_
      · rw [EnvelopeUse.call, closeAnswer?_close, hclose, Option.none_or]
        rfl
      · rw [hdocument]
        exact (BufferedSink.prefix_content _).trans htext'
      · rw [hdocument]
        exact (Envelope.complete_close hopen hok).taken

theorem tracks_onDevice (device : Device) (calls : List EnvelopeCall) :
    (onDevice device calls).Tracks := by
  induction calls using List.reverseRecOn with
  | nil => exact tracks_start device
  | append_singleton calls c ih =>
    rw [onDevice_snoc]
    exact ih.call c

theorem records_call (h : u.envelope.records = (accepted u.log).length) (c : EnvelopeCall) :
    (u.call c).envelope.records = (accepted (u.call c).log).length := by
  cases c with
  | write record =>
    refine (Envelope.records_write _ _).trans ?_
    rw [call, accepted_write, List.length_append, ← h, Envelope.answer]
    split <;> rfl
  | close =>
    rw [call, accepted_close, ← h]
    exact u.envelope.records_close

theorem records_onDevice (device : Device) (calls : List EnvelopeCall) :
    (onDevice device calls).envelope.records = (accepted (onDevice device calls).log).length := by
  induction calls using List.reverseRecOn with
  | nil => rfl
  | append_singleton calls c ih =>
    rw [onDevice_snoc]
    exact records_call ih c

/-- An envelope that was used gives the beginning of the document asked for, and nothing else. -/
structure Faithful (u : EnvelopeUse) : Prop where
  arrived : u.reached <+: document u.log
  /-- Also when it is given up as it is. -/
  final : u.envelope.finalText <+: document u.log
  /-- During a call the destination holds something between what it held before and after it. -/
  grows : ∀ c, u.reached <+: (u.call c).reached
  records : u.envelope.records = (accepted u.log).length
  refused : ∀ record, (u.envelope.write record).1.isOk = false →
    (u.envelope.write record).2.records = u.envelope.records ∧
      (u.envelope.write record).2.text = u.envelope.text
  whole : closeAnswer? u.log = some (.ok ()) → u.reached = document u.log
  closed : (closeAnswer? u.log).isSome →
    (∀ record, u.envelope.write record = (.error .writerClosed, u.envelope)) ∧
      u.envelope.close = (.ok (), u.envelope)

theorem Tracks.text_prefix (h : u.Tracks) : u.envelope.text <+: document u.log := by
  cases h with
  | unclosed hclose hopen htext => exact htext ▸ List.prefix_rfl
  | closed answer hclose hshut hpending harrived hwhole =>
    rw [Envelope.text, BufferedSink.content, hpending, List.append_nil]
    exact harrived

/-- A successful closing gives the destination the whole document. -/
theorem Tracks.whole (h : u.Tracks) (hclosed : closeAnswer? u.log = some (.ok ())) :
    u.reached = document u.log := by
  cases h with
  | unclosed hclose hopen htext =>
    rw [hclose] at hclosed
    cases hclosed
  | closed answer hclose hshut hpending harrived hwhole =>
    rw [hclose] at hclosed
    exact hwhole (Option.some.inj hclosed)

theorem Tracks.faithful (h : u.Tracks) (hrecords : u.envelope.records = (accepted u.log).length) :
    u.Faithful where
  arrived := (BufferedSink.prefix_content _).trans h.text_prefix
  final := (BufferedSink.close_prefix _).trans h.text_prefix
  grows c := u.envelope.prefix_answer c
  records := hrecords
  refused record hrefused := by
    have hgrown := u.envelope.grown_write record
    rw [hrefused, if_neg Bool.false_ne_true] at hgrown
    exact ⟨hgrown.records, hgrown.text.trans (List.append_nil _)⟩
  whole := h.whole
  closed hsome := by
    cases h with
    | unclosed hclose hopen htext =>
      rw [hclose] at hsome
      cases hsome
    | closed answer hclose hshut hpending harrived hwhole =>
      exact ⟨Envelope.write_of_closed hshut, Envelope.close_of_closed hshut⟩

theorem faithful_onDevice (device : Device) (calls : List EnvelopeCall) :
    (onDevice device calls).Faithful :=
  (tracks_onDevice device calls).faithful (records_onDevice device calls)

end EnvelopeUse

end PoliteCrawl

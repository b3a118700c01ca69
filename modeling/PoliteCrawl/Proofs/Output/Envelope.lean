import PoliteCrawl.Output.Envelope
import PoliteCrawl.Proofs.Output.Requeue

namespace PoliteCrawl.Envelope

variable {e e' e'' : Envelope}

/-- All that was written, whether it has reached the destination or not. -/
def text (e : Envelope) : List Char := e.buffer.content

def elements (pages : List FetchRecord) : List Char := pages.flatMap (·.markup.toList)

structure Grown (e : Envelope) (pages : List FetchRecord) (e' : Envelope) : Prop where
  closed : e'.closed = e.closed
  device : e'.buffer.sink.toDevice = e.buffer.sink.toDevice
  untouched : e.closed = true → e' = e
  text : e'.text = e.text ++ elements pages
  records : e'.records = e.records + pages.length

theorem Grown.refl (e : Envelope) : e.Grown [] e :=
  ⟨rfl, rfl, fun _ => rfl, (List.append_nil _).symm, rfl⟩

theorem Grown.trans {pages more : List FetchRecord} (h : e.Grown pages e')
    (h' : e'.Grown more e'') : e.Grown (pages ++ more) e'' where
  closed := h'.closed.trans h.closed
  device := h'.device.trans h.device
  untouched hclosed := (h'.untouched (h.closed.trans hclosed)).trans (h.untouched hclosed)
  text := by
    rw [h'.text, h.text, elements, elements, elements, List.flatMap_append, List.append_assoc]
  records := by
    rw [h'.records, h.records, List.length_append, Nat.add_assoc]

/-- A record that is refused leaves no trace, be it by the destination or because the envelope is
closed. -/
theorem grown_write (e : Envelope) (record : FetchRecord) :
    e.Grown (if (e.write record).1.isOk then [record] else []) (e.write record).2 := by
  have hcontent := BufferedSink.content_write e.buffer record.markup.toList
  have hdevice := BufferedSink.device_write e.buffer record.markup.toList
  unfold write
  split
  · exact .refl e
  · rename_i hopen
    split
    · rename_i buffer hwrite
      rw [hwrite] at hdevice
      rw [hwrite, if_pos rfl] at hcontent
      refine ⟨rfl, hdevice, fun hclosed => absurd hclosed hopen, ?_, rfl⟩
      simpa [text, elements, Except.isOk, Except.toBool] using hcontent
    · rename_i buffer hwrite
      rw [hwrite] at hdevice
      rw [hwrite, if_neg Bool.false_ne_true] at hcontent
      exact ⟨rfl, hdevice, fun hclosed => absurd hclosed hopen,
        hcontent.trans (List.append_nil _).symm, rfl⟩

/-- The envelope is closed, and a text is all that its destination holds. -/
structure Complete (e : Envelope) (text : List Char) : Prop where
  closed : e.closed = true
  taken : e.buffer.sink.taken = text
  flushed : e.buffer.pending = []

theorem Complete.finalText {text : List Char} (h : e.Complete text) : e.finalText = text := by
  rw [Envelope.finalText, BufferedSink.close_of_flushed h.flushed, h.taken]

@[simp] theorem records_close (e : Envelope) : e.close.2.records = e.records := by
  unfold close
  split <;> rfl

/-- If an envelope could be closed, all that was written has arrived. -/
theorem complete_close (hopen : e.closed = false) (h : e.close.1 = .ok ()) :
    e.close.2.Complete (e.text ++ closing.toList) := by
  have hwritten := BufferedSink.content_write e.buffer closing.toList
  obtain ⟨hflushed, hempty⟩ := BufferedSink.content_flush (e.buffer.write closing.toList).2
  unfold close at h ⊢
  rw [if_neg (by rw [hopen]; exact Bool.false_ne_true)] at h ⊢
  cases hwrite : (e.buffer.write closing.toList).1 with
  | false => simp [hwrite] at h
  | true =>
    cases hflush : (e.buffer.write closing.toList).2.flush.1 with
    | false => simp [hwrite, hflush] at h
    | true =>
      have harrived := hempty hflush
      rw [hwrite, if_pos rfl] at hwritten
      rw [BufferedSink.content, harrived, List.append_nil, hwritten] at hflushed
      refine ⟨rfl, ?_, rfl⟩
      simp only [hwrite, if_true]
      rw [BufferedSink.close_of_flushed harrived]
      exact hflushed

theorem close_of_closed (h : e.closed = true) : e.close = (.ok (), e) := by
  rw [close, if_pos h]

/-- An envelope that has not been closed, on a destination that takes every piece. -/
structure Writable (e : Envelope) : Prop where
  unclosed : e.closed = false
  willing : e.buffer.sink.Willing

theorem Grown.willing {pages : List FetchRecord} (h : e.Grown pages e')
    (hwilling : e.buffer.sink.Willing) : e'.buffer.sink.Willing :=
  hwilling.of_device h.device

theorem Grown.writable {pages : List FetchRecord} (h : e.Grown pages e') (he : e.Writable) :
    e'.Writable := ⟨h.closed.trans he.unclosed, h.willing he.willing⟩

theorem writable_start {sink : Sink} (h : sink.Willing) : (start sink).Writable := ⟨rfl, h⟩

theorem Writable.write (h : e.Writable) (record : FetchRecord) :
    (e.write record).1 = .ok () ∧ (e.write record).2.Writable := by
  obtain ⟨hwritten, hwilling, -⟩ := BufferedSink.write_willing h.willing record.markup.toList
  unfold Envelope.write
  rw [if_neg (by rw [h.unclosed]; exact Bool.false_ne_true)]
  split
  · rename_i buffer hwrite
    rw [hwrite] at hwilling
    exact ⟨rfl, h.unclosed, hwilling⟩
  · rename_i buffer hwrite
    rw [hwrite] at hwritten
    cases hwritten

theorem Writable.exists_write (h : e.Writable) (record : FetchRecord) :
    ∃ e', e.write record = (.ok (), e') ∧ e'.Writable :=
  ⟨_, Prod.ext (h.write record).1 rfl, (h.write record).2⟩

/-- What has been written arrives even if the envelope is given up without being closed. -/
theorem Writable.finalText (h : e.Writable) : e.finalText = e.text :=
  (BufferedSink.flush_willing h.willing).2.2.2

theorem Writable.close (h : e.Writable) : e.close.1 = .ok () := by
  obtain ⟨hwritten, hwilling, -⟩ := BufferedSink.write_willing h.willing closing.toList
  obtain ⟨hflushed, -⟩ := BufferedSink.flush_willing hwilling
  unfold Envelope.close
  rw [if_neg (by rw [h.unclosed]; exact Bool.false_ne_true)]
  simp only [hwritten, hflushed, if_true]

end PoliteCrawl.Envelope

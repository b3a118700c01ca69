import PoliteCrawl.Output.Requeue
import PoliteCrawl.Proofs.Output.Sink

namespace PoliteCrawl

namespace RequeueStream

variable {r : RequeueStream}

def addAll (r : RequeueStream) (items : List WorkItem) : RequeueStream :=
  items.foldl (fun r item => (r.add item).2) r

@[simp] theorem addAll_append (r : RequeueStream) (xs ys : List WorkItem) :
    r.addAll (xs ++ ys) = (r.addAll xs).addAll ys := List.foldl_append

@[simp] theorem written_flush (r : RequeueStream) : r.flush.2.written = r.written := by
  unfold flush
  split <;> rfl

def lineOf (format : LineFormat) (item : WorkItem) : List Char :=
  (item.toLine format).toList ++ ['\n']

/-- The stream has a destination that takes everything, and has written so many items. -/
structure Holds (r : RequeueStream) (format : LineFormat) (text : List Char) (written : Nat) :
    Prop where
  buffer : ∃ b, r.buffer = some b ∧ b.sink.Willing ∧ b.content = text
  format : r.format = format
  written : r.written = written

variable {format : LineFormat} {text : List Char} {written : Nat}

theorem holds_appending {sink : Sink} (h : sink.Willing) (format : LineFormat) :
    (appending sink format).Holds format sink.taken 0 :=
  ⟨⟨_, rfl, h, List.append_nil _⟩, rfl, rfl⟩

theorem Holds.add (h : r.Holds format text written) (item : WorkItem) :
    (r.add item).2.Holds format (text ++ lineOf format item) (written + 1) := by
  obtain ⟨⟨b, hbuffer, hwilling, rfl⟩, rfl, rfl⟩ := h
  obtain ⟨hline, hwilling', hcontent⟩ :=
    BufferedSink.write_willing hwilling (item.toLine r.format).toList
  obtain ⟨hend, hwilling'', hcontent'⟩ := BufferedSink.write_willing hwilling' ['\n']
  simp only [RequeueStream.add, hbuffer, hline, hend, if_true]
  refine ⟨⟨_, rfl, hwilling'', ?_⟩, rfl, rfl⟩
  rw [hcontent', hcontent, lineOf, List.append_assoc]

theorem Holds.addAll (h : r.Holds format text written) (items : List WorkItem) :
    (r.addAll items).Holds format (text ++ items.flatMap (lineOf format))
      (written + items.length) := by
  induction items generalizing r text written with
  | nil =>
    rw [List.flatMap_nil, List.append_nil]
    exact h
  | cons item items ih =>
    rw [List.flatMap_cons, ← List.append_assoc, List.length_cons, Nat.add_comm items.length,
      ← Nat.add_assoc]
    exact ih (h.add item)

theorem Holds.flush (h : r.Holds format text written) : r.flush.2.text? = some text := by
  obtain ⟨⟨b, hbuffer, hwilling, rfl⟩, -, -⟩ := h
  obtain ⟨-, -, -, htaken⟩ := BufferedSink.flush_willing hwilling
  simp only [RequeueStream.flush, hbuffer, text?, Option.map_some, htaken]

/-- What a new stream comes to on a destination that takes everything. -/
theorem flush_addAll_appending {sink : Sink} (h : sink.Willing) (format : LineFormat)
    (items : List WorkItem) :
    ((appending sink format).addAll items).flush.2.text? =
        some (sink.taken ++ items.flatMap (lineOf format)) ∧
      ((appending sink format).addAll items).flush.2.written = items.length := by
  have hholds := (holds_appending h format).addAll items
  refine ⟨hholds.flush, ?_⟩
  rw [written_flush, hholds.written, Nat.zero_add]

/-- Without a destination, items are only counted. -/
theorem addAll_of_disabled (h : r.buffer = none) (items : List WorkItem) :
    r.addAll items = { r with dropped := r.dropped + items.length } := by
  induction items generalizing r with
  | nil => rfl
  | cons item items ih =>
    have hadd : (r.add item).2 = { r with dropped := r.dropped + 1 } := by
      unfold add
      rw [h]
    change ((r.add item).2).addAll items = _
    rw [hadd, ih (r := { r with dropped := r.dropped + 1 }) h, List.length_cons, Nat.add_assoc,
      Nat.add_comm 1]

theorem flush_of_disabled (h : r.buffer = none) : r.flush.2 = r := by
  unfold flush
  rw [h]

def Willing (r : RequeueStream) : Prop := ∀ b, r.buffer = some b → b.sink.Willing

theorem Willing.add (h : r.Willing) (item : WorkItem) : (r.add item).2.Willing := by
  cases hbuffer : r.buffer with
  | none =>
    intro b hb
    simp only [RequeueStream.add, hbuffer] at hb
    cases hb
  | some buffer =>
    obtain ⟨hline, hwilling, -⟩ :=
      BufferedSink.write_willing (h buffer hbuffer) (item.toLine r.format).toList
    obtain ⟨hend, hwilling', -⟩ := BufferedSink.write_willing hwilling ['\n']
    intro b hb
    simp only [RequeueStream.add, hbuffer, hline, hend, if_true] at hb
    cases hb
    exact hwilling'

theorem Willing.flush (h : r.Willing) : r.flush.1 = .ok () ∧ r.flush.2.Willing := by
  cases hbuffer : r.buffer with
  | none =>
    rw [flush_of_disabled hbuffer]
    refine ⟨?_, h⟩
    unfold RequeueStream.flush
    rw [hbuffer]
  | some buffer =>
    obtain ⟨hflushed, hwilling, -⟩ := BufferedSink.flush_willing (h buffer hbuffer)
    refine ⟨?_, ?_⟩
    · simp only [RequeueStream.flush, hbuffer, hflushed, if_true]
    · intro b hb
      simp only [RequeueStream.flush, hbuffer] at hb
      cases hb
      exact hwilling

end RequeueStream

end PoliteCrawl

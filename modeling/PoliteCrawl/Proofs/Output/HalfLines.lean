import Mathlib.Data.List.Induction
import PoliteCrawl.Proofs.Output.Requeue

namespace PoliteCrawl

namespace Sink

theorem byteCount_replicate (n : Nat) (c : Char) :
    byteCount (List.replicate n c) = n * c.utf8Size := by
  induction n with
  | zero => rw [List.replicate_zero, byteCount_nil, Nat.zero_mul]
  | succ n ih => rw [List.replicate_succ, byteCount_cons, ih, Nat.succ_mul, Nat.add_comm]

theorem byteCount_pos {cs : List Char} (h : cs ≠ []) : 0 < byteCount cs :=
  Nat.pos_of_ne_zero fun hzero => h (byteCount_eq_zero hzero)

end Sink

namespace BufferedSink

variable {b : BufferedSink} {piece line : List Char}

theorem write_of_fits (hroom : Sink.byteCount b.pending + Sink.byteCount piece ≤ capacity)
    (hsmall : Sink.byteCount piece < capacity) :
    b.write piece = (true, { b with pending := b.pending ++ piece }) := by
  rw [write, if_neg (Nat.not_lt.mpr hroom), put, if_neg (Nat.not_le.mpr hsmall)]

/-- A line end is refused if and only if the buffer is full and the sink does not take it. -/
theorem write_newline_refused_iff : (b.write ['\n']).1 = false ↔
    capacity ≤ Sink.byteCount b.pending ∧
      b.sink.accepts b.sink.offers b.sink.taken b.pending = false := by
  have hone : Sink.byteCount ['\n'] = 1 := rfl
  rcases Nat.lt_or_ge (Sink.byteCount b.pending) capacity with hroom | hfull
  · rw [write_of_fits (hone ▸ hroom) (by decide)]
    simp [Nat.not_le.mpr hroom]
  · have hpending : b.pending ≠ [] := by
      intro hempty
      rw [hempty] at hfull
      exact absurd hfull (by decide)
    rw [write, if_pos (by omega), flush, if_neg hpending, Sink.offer]
    cases haccepts : b.sink.accepts b.sink.offers b.sink.taken b.pending with
    | true => simp [put, hone, capacity]
    | false => simp [hfull]

/-- What a piece that was written leaves room for: one more byte, or none if it went behind what was
pending and filled the buffer. -/
theorem pending_write (h : (b.write piece).1 = true) :
    Sink.byteCount (b.write piece).2.pending < capacity ∨
      Sink.byteCount b.pending + Sink.byteCount piece = capacity ∧
        Sink.byteCount piece < capacity := by
  by_cases hroom : capacity < Sink.byteCount b.pending + Sink.byteCount piece
  · left
    have hempty := (content_flush b).2
    rw [write, if_pos hroom] at h ⊢
    split at h
    · rename_i b' hflush
      rw [hflush] at hempty
      have hpending : b'.pending = [] := hempty rfl
      rw [put, hpending]
      split
      · exact Nat.zero_lt_succ _
      · rename_i hsmall
        exact Nat.not_le.mp hsmall
    · cases h
  · by_cases hsmall : Sink.byteCount piece < capacity
    · rw [write_of_fits (Nat.not_lt.mp hroom) hsmall, Sink.byteCount_append]
      omega
    · -- A piece as large as the buffer goes to the sink at once, and only if nothing is pending.
      left
      have hpending : b.pending = [] := Sink.byteCount_eq_zero (by omega)
      rw [write, if_neg hroom, put, if_pos (Nat.not_lt.mp hsmall), hpending]
      decide

/-- A line fills the buffer behind other text, and the sink does not take what is in it then. -/
structure Tears (b : BufferedSink) (line : List Char) : Prop where
  behind : b.pending ≠ []
  nonempty : line ≠ []
  filled : Sink.byteCount b.pending + Sink.byteCount line = capacity
  refused : b.sink.accepts b.sink.offers b.sink.taken (b.pending ++ line) = false

/-- These are the lines that are written without their end. -/
theorem tears_iff : b.Tears line ↔
    line ≠ [] ∧ (b.write line).1 = true ∧ ((b.write line).2.write ['\n']).1 = false := by
  constructor
  · rintro ⟨hpending, hline, hfilled, hrefused⟩
    have hpos := Sink.byteCount_pos hpending
    rw [write_of_fits (Nat.le_of_eq hfilled) (by omega)]
    refine ⟨hline, rfl, write_newline_refused_iff.mpr ⟨?_, hrefused⟩⟩
    exact Nat.le_of_eq ((Sink.byteCount_append _ _).trans hfilled).symm
  · rintro ⟨hline, hwritten, hend⟩
    obtain ⟨hfull, hrefused⟩ := write_newline_refused_iff.mp hend
    obtain hroom | ⟨hfilled, hsmall⟩ := pending_write hwritten
    · omega
    · rw [write_of_fits (Nat.le_of_eq hfilled) hsmall] at hrefused
      refine ⟨fun hempty => ?_, hline, hfilled, hrefused⟩
      rw [hempty, Sink.byteCount_nil] at hfilled
      omega

end BufferedSink

namespace RequeueStream

variable {r : RequeueStream} {text : List Char}

def content? (r : RequeueStream) : Option (List Char) := r.buffer.map (·.content)

/-- The line of an item would be left without its end. -/
def Tears (r : RequeueStream) (item : WorkItem) : Prop :=
  ∃ b, r.buffer = some b ∧ b.Tears (item.toLine r.format).toList

@[simp] theorem format_add (r : RequeueStream) (item : WorkItem) :
    (r.add item).2.format = r.format := by
  unfold add
  split
  · rfl
  · dsimp only
    split <;> split <;> rfl

@[simp] theorem format_flush (r : RequeueStream) : r.flush.2.format = r.format := by
  unfold flush
  split <;> rfl

theorem content?_flush (r : RequeueStream) : r.flush.2.content? = r.content? := by
  unfold flush
  split
  · rfl
  · rename_i buffer hbuffer
    rw [content?, content?, hbuffer]
    exact congrArg some buffer.content_flush.1

/-- An item is written with its line end and counted, or it is refused and neither counted nor
written, except that its line stays if that tears. -/
theorem add_whole_or_refused (h : r.content? = some text) (item : WorkItem) :
    ((r.add item).1 = .ok true ∧ ¬ r.Tears item ∧
        (r.add item).2.content? = some (text ++ lineOf r.format item) ∧
        (r.add item).2.written = r.written + 1) ∨
      ((∃ reason, (r.add item).1 = .error (.io reason)) ∧
        (r.Tears item → (r.add item).2.content? =
          some (text ++ (item.toLine r.format).toList)) ∧
        (¬ r.Tears item → (r.add item).2.content? = some text) ∧
        (r.add item).2.written = r.written) := by
  obtain ⟨b, hbuffer, rfl⟩ := Option.map_eq_some_iff.mp h
  have htears : r.Tears item ↔ b.Tears (item.toLine r.format).toList := by
    simp [Tears, hbuffer]
  have hline := b.content_write (item.toLine r.format).toList
  rw [htears, BufferedSink.tears_iff]
  rcases hwrite : b.write (item.toLine r.format).toList with ⟨lineOk, b'⟩
  have hend := b'.content_write ['\n']
  rcases hwrite' : b'.write ['\n'] with ⟨endOk, b''⟩
  rw [hwrite] at hline
  rw [hwrite'] at hend
  cases lineOk with
  | false =>
    have hadd : r.add item = (.error (.io b'.sink.reason), { r with buffer := some b' }) := by
      simp [add, hbuffer, hwrite]
    rw [hadd]
    exact .inr ⟨⟨_, rfl⟩, fun htorn => absurd htorn.2.1 Bool.false_ne_true,
      fun _ => congrArg some hline, rfl⟩
  | true =>
    have hline' : b'.content = b.content ++ (item.toLine r.format).toList := hline
    cases endOk with
    | true =>
      have hadd : r.add item =
          (.ok true, { r with buffer := some b'', written := r.written + 1 }) := by
        simp [add, hbuffer, hwrite, hwrite']
      have hend' : b''.content = b'.content ++ ['\n'] := hend
      rw [hline', List.append_assoc] at hend'
      rw [hadd]
      exact .inl ⟨rfl, fun htorn => absurd htorn.2.2 Bool.noConfusion, congrArg some hend', rfl⟩
    | false =>
      have hadd : r.add item = (.error (.io b''.sink.reason), { r with buffer := some b'' }) := by
        simp [add, hbuffer, hwrite, hwrite']
      have hend' : b''.content = b.content ++ (item.toLine r.format).toList := hend.trans hline'
      rw [hadd]
      -- An empty line does not tear: what is left of it is nothing.
      refine .inr ⟨⟨_, rfl⟩, fun _ => congrArg some hend', fun hnot => ?_, rfl⟩
      have hempty : (item.toLine r.format).toList = [] := by
        by_contra hne
        exact hnot ⟨hne, rfl, rfl⟩
      rw [hempty, List.append_nil] at hend'
      exact congrArg some hend'

end RequeueStream

inductive RequeueCall where
  | add (item : WorkItem)
  | flush

structure RequeueUse where
  log : List (WorkItem × Except CrawlError Bool) := []
  stream : RequeueStream

namespace RequeueUse

def call (u : RequeueUse) : RequeueCall → RequeueUse
  | .add item =>
    { log := u.log ++ [(item, (u.stream.add item).1)], stream := (u.stream.add item).2 }
  | .flush => { u with stream := u.stream.flush.2 }

def onSink (sink : Sink) (format : LineFormat) (calls : List RequeueCall) : RequeueUse :=
  calls.foldl call { stream := .appending sink format }

def written? : WorkItem × Except CrawlError Bool → Option WorkItem
  | (item, .ok true) => some item
  | _ => none

def accepted (u : RequeueUse) : List WorkItem := u.log.filterMap written?

variable {sink : Sink} {format : LineFormat}

theorem onSink_snoc (sink : Sink) (format : LineFormat) (calls : List RequeueCall)
    (c : RequeueCall) :
    onSink sink format (calls ++ [c]) = (onSink sink format calls).call c := by
  rw [onSink, List.foldl_append, onSink, List.foldl_cons, List.foldl_nil]

theorem accepted_add_of_ok {u : RequeueUse} {item : WorkItem}
    (h : (u.stream.add item).1 = .ok true) :
    (u.call (.add item)).accepted = u.accepted ++ [item] := by
  simp [accepted, call, h, written?]

theorem accepted_add_of_error {u : RequeueUse} {item : WorkItem} {error : CrawlError}
    (h : (u.stream.add item).1 = .error error) : (u.call (.add item)).accepted = u.accepted := by
  simp [accepted, call, h, written?]

/-- A stream that has a destination, keeps its format and counts what it says it has written. -/
structure Counts (u : RequeueUse) (format : LineFormat) : Prop where
  enabled : ∃ text, u.stream.content? = some text
  format : u.stream.format = format
  written : u.stream.written = u.accepted.length

theorem Counts.call {u : RequeueUse} (h : u.Counts format) (c : RequeueCall) :
    (u.call c).Counts format := by
  obtain ⟨⟨text, htext⟩, hformat, hwritten⟩ := h
  cases c with
  | flush =>
    exact ⟨⟨text, (u.stream.content?_flush).trans htext⟩, (u.stream.format_flush).trans hformat,
      (u.stream.written_flush).trans hwritten⟩
  | add item =>
    obtain ⟨hok, -, hcontent, hcount⟩ | ⟨⟨reason, herror⟩, htorn, huntorn, hcount⟩ :=
      u.stream.add_whole_or_refused htext item
    · refine ⟨⟨_, hcontent⟩, (u.stream.format_add item).trans hformat, ?_⟩
      rw [accepted_add_of_ok hok, List.length_append, ← hwritten]
      exact hcount
    · refine ⟨?_, (u.stream.format_add item).trans hformat, ?_⟩
      · by_cases htears : u.stream.Tears item
        · exact ⟨_, htorn htears⟩
        · exact ⟨_, huntorn htears⟩
      · rw [accepted_add_of_error herror, ← hwritten]
        exact hcount

theorem counts_onSink (sink : Sink) (format : LineFormat) (calls : List RequeueCall) :
    (onSink sink format calls).Counts format := by
  induction calls using List.reverseRecOn with
  | nil => exact ⟨⟨_, rfl⟩, rfl, rfl⟩
  | append_singleton calls c ih =>
    rw [onSink_snoc]
    exact ih.call c

/-- All that was written is what the sink held at first, and whole lines of the items that the
stream said it has written. -/
def Whole (u : RequeueUse) (sink : Sink) (format : LineFormat) : Prop :=
  u.stream.content? = some (sink.taken ++ u.accepted.flatMap (RequeueStream.lineOf format))

theorem Whole.call_of_flush {u : RequeueUse} (h : u.Whole sink format) :
    (u.call .flush).Whole sink format := (u.stream.content?_flush).trans h

/-- One more item keeps the lines whole if and only if it does not tear. -/
theorem Whole.call_add_iff {u : RequeueUse} (h : u.Whole sink format)
    (hformat : u.stream.format = format) (item : WorkItem) :
    (u.call (.add item)).Whole sink format ↔ ¬ u.stream.Tears item := by
  subst hformat
  obtain ⟨hok, huntorn, hcontent, -⟩ | ⟨⟨reason, herror⟩, htorn, huntorn, -⟩ :=
    u.stream.add_whole_or_refused h item
  · refine iff_of_true ?_ huntorn
    rw [Whole, accepted_add_of_ok hok, List.flatMap_append, List.flatMap_singleton,
      ← List.append_assoc]
    exact hcontent
  · rw [Whole, accepted_add_of_error herror]
    refine ⟨fun hwhole htears => ?_, huntorn⟩
    have hsame := Option.some.inj ((htorn htears).symm.trans hwhole)
    obtain ⟨b, -, hb⟩ := htears
    exact hb.nonempty (List.append_right_eq_self.mp hsame)

/-- The lines are whole at every moment if and only if no item tears on the way. -/
theorem whole_iff (sink : Sink) (format : LineFormat) (calls : List RequeueCall) :
    (∀ before, before <+: calls → (onSink sink format before).Whole sink format) ↔
      ∀ before item, before ++ [.add item] <+: calls →
        ¬ (onSink sink format before).stream.Tears item := by
  constructor
  · intro hwhole before item hbefore
    have hnow := hwhole before ((List.prefix_append _ _).trans hbefore)
    have hnext := hwhole _ hbefore
    rw [onSink_snoc, hnow.call_add_iff (counts_onSink sink format before).format] at hnext
    exact hnext
  · -- Up to the first item that tears, each call keeps the lines whole.
    intro huntorn before
    induction before using List.reverseRecOn with
    | nil => exact fun _ => rfl
    | append_singleton before c ih =>
      intro hbefore
      have hnow := ih ((List.prefix_append _ _).trans hbefore)
      rw [onSink_snoc]
      cases c with
      | flush => exact hnow.call_of_flush
      | add item =>
        rw [hnow.call_add_iff (counts_onSink sink format before).format]
        exact huntorn before item hbefore

/-- The lines in a destination and in front of it are those of the items that were written, whole
and as many as were counted, unless some line filled the buffer to the last byte and was then
refused: such a line stays there without its end. No other refusal changes anything. -/
theorem lines_whole_unless_torn (sink : Sink) (format : LineFormat) :
    (∀ calls, (onSink sink format calls).stream.written =
      (onSink sink format calls).accepted.length) ∧
    (∀ calls, (∀ before, before <+: calls → (onSink sink format before).Whole sink format) ↔
      ∀ before item, before ++ [.add item] <+: calls →
        ¬ (onSink sink format before).stream.Tears item) ∧
    ∀ calls, ∃ text, (onSink sink format calls).stream.content? = some text ∧
      (onSink sink format (calls ++ [.flush])).stream.content? = some text ∧
      ∀ item,
        let u := onSink sink format calls
        let u' := onSink sink format (calls ++ [.add item])
        (((u.stream.add item).1 = .ok true ∧ ¬ u.stream.Tears item ∧
            u'.stream.content? = some (text ++ RequeueStream.lineOf format item) ∧
            u'.accepted = u.accepted ++ [item]) ∨
          ((∃ reason, (u.stream.add item).1 = .error (.io reason)) ∧
            (u.stream.Tears item →
              u'.stream.content? = some (text ++ (item.toLine format).toList)) ∧
            (¬ u.stream.Tears item → u'.stream.content? = some text) ∧
            u'.accepted = u.accepted)) := by
  refine ⟨fun calls => (counts_onSink sink format calls).written, whole_iff sink format,
    fun calls => ?_⟩
  obtain ⟨⟨text, htext⟩, hformat, -⟩ := counts_onSink sink format calls
  refine ⟨text, htext, ?_, fun item => ?_⟩
  · rw [onSink_snoc]
    exact (RequeueStream.content?_flush _).trans htext
  · obtain ⟨hok, huntorn, hcontent, -⟩ | ⟨⟨reason, herror⟩, htorn, huntorn, -⟩ :=
      RequeueStream.add_whole_or_refused htext item
    · rw [hformat] at hcontent
      rw [onSink_snoc]
      exact .inl ⟨hok, huntorn, hcontent, accepted_add_of_ok hok⟩
    · rw [hformat] at htorn
      rw [onSink_snoc]
      exact .inr ⟨⟨reason, herror⟩, htorn, huntorn, accepted_add_of_error herror⟩

/-- On a full device, an item tears behind another one if the two lines and one line end fill the
buffer. -/
theorem tears_on_full (format : LineFormat) (a b : WorkItem)
    (hroom : Sink.byteCount (RequeueStream.lineOf format a) +
      Sink.byteCount (b.toLine format).toList = BufferedSink.capacity)
    (hb : (b.toLine format).toList ≠ []) :
    (onSink .full format [.add a]).stream.content? = some (RequeueStream.lineOf format a) ∧
      (onSink .full format [.add a]).accepted = [a] ∧
      (onSink .full format [.add a]).stream.Tears b := by
  have hpos := Sink.byteCount_pos hb
  have hend : Sink.byteCount ['\n'] = 1 := rfl
  have hsize := Sink.byteCount_append (a.toLine format).toList ['\n']
  rw [← RequeueStream.lineOf] at hsize
  -- the first line and its end fit into the buffer, so that the device is not asked yet
  have hline : ({ sink := .full } : BufferedSink).write (a.toLine format).toList =
      (true, { sink := .full, pending := (a.toLine format).toList }) :=
    BufferedSink.write_of_fits (by rw [Sink.byteCount_nil]; omega) (by omega)
  have hlineEnd : ({ sink := .full, pending := (a.toLine format).toList } : BufferedSink).write
      ['\n'] = (true, { sink := .full, pending := RequeueStream.lineOf format a }) :=
    BufferedSink.write_of_fits (by dsimp only; omega) (by decide)
  have hadd : (RequeueStream.appending .full format).add a = (.ok true,
      { buffer := some { sink := .full, pending := RequeueStream.lineOf format a }, format,
        written := 1 }) := by
    simp only [RequeueStream.add, RequeueStream.appending, hline, hlineEnd, if_true, Nat.zero_add]
  have hstream : (onSink .full format [.add a]).stream = _ := congrArg Prod.snd hadd
  refine ⟨?_, accepted_add_of_ok (congrArg Prod.fst hadd), ?_⟩
  · rw [hstream]
    rfl
  · rw [hstream]
    exact ⟨_, rfl, List.append_ne_nil_of_right_ne_nil _ (List.cons_ne_nil _ _), hb, hroom, rfl⟩

def longItem (letter : Char) (length : Nat) : WorkItem :=
  { target := String.ofList (List.replicate length letter) }

/-- On a full device, a line that ends where the buffer does is refused and stays without its
end. -/
theorem lines_whole_unless_torn_at_brim :
    let first := longItem 'a' 4000
    let second := longItem 'b' 4191
    let u := onSink .full .raw [.add first, .add second]
    u.stream.content? =
        some (RequeueStream.lineOf .raw first ++ (second.toLine .raw).toList) ∧
      u.stream.written = 1 ∧ u.accepted = [first] ∧ ¬ u.Whole .full .raw := by
  intro first second u
  have hline (letter : Char) (length : Nat) :
      ((longItem letter length).toLine .raw).toList = List.replicate length letter :=
    String.toList_ofList
  have hsecond : (second.toLine .raw).toList ≠ [] := by
    rw [hline]
    exact List.cons_ne_nil _ _
  have hroom : Sink.byteCount (RequeueStream.lineOf .raw first) +
      Sink.byteCount (second.toLine .raw).toList = BufferedSink.capacity := by
    rw [RequeueStream.lineOf, Sink.byteCount_append, hline, hline, Sink.byteCount_replicate,
      Sink.byteCount_replicate]
    decide
  obtain ⟨hcontent, hfirst, htears⟩ := tears_on_full .raw first second hroom hsecond
  obtain ⟨hcount, -, hcalls⟩ := lines_whole_unless_torn .full .raw
  obtain ⟨text, htext, -, hnext⟩ := hcalls [.add first]
  obtain rfl := Option.some.inj (hcontent.symm.trans htext)
  obtain ⟨-, huntorn, -⟩ | ⟨-, htorn, -, haccepted⟩ := hnext second
  · exact absurd htears huntorn
  · have hleft : u.stream.content? =
        some (RequeueStream.lineOf .raw first ++ (second.toLine .raw).toList) := htorn htears
    have hone : u.accepted = [first] := haccepted.trans hfirst
    refine ⟨hleft, (hcount _).trans (congrArg List.length hone), hone, fun hwhole => ?_⟩
    have htaken : Sink.full.taken = [] := rfl
    rw [Whole, hone, hleft, htaken, List.nil_append, List.flatMap_singleton] at hwhole
    exact hsecond (List.append_right_eq_self.mp (Option.some.inj hwhole))

end RequeueUse

end PoliteCrawl

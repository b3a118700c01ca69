import PoliteCrawl.Output.Sink

namespace PoliteCrawl

def Sink.Willing (s : Sink) : Prop := ∀ offers taken piece, s.accepts offers taken piece = true

namespace Sink

variable {s : Sink}

/-- A piece is taken as a whole or not at all. -/
theorem taken_offer (s : Sink) (piece : List Char) :
    (s.offer piece).2.taken = if (s.offer piece).1 then s.taken ++ piece else s.taken := by
  rw [offer]
  split <;> rfl

@[simp] theorem device_offer (s : Sink) (piece : List Char) :
    (s.offer piece).2.toDevice = s.toDevice := by
  rw [offer]
  split <;> rfl

theorem Willing.of_device {s' : Sink} (h : s.Willing) (heq : s'.toDevice = s.toDevice) :
    s'.Willing := by
  intro offers taken piece
  rw [heq]
  exact h offers taken piece

theorem offer_willing (h : s.Willing) (piece : List Char) :
    (s.offer piece).1 = true ∧ (s.offer piece).2.Willing ∧
      (s.offer piece).2.taken = s.taken ++ piece := by
  rw [offer, if_pos (h _ _ _)]
  exact ⟨rfl, h, rfl⟩

theorem foldl_utf8Size (cs : List Char) (n : Nat) :
    cs.foldl (fun n c => n + c.utf8Size) n = n + byteCount cs := by
  induction cs generalizing n with
  | nil => rfl
  | cons c cs ih =>
    rw [byteCount, List.foldl_cons, List.foldl_cons, ih, ih, Nat.zero_add, Nat.add_assoc]

@[simp] theorem byteCount_nil : byteCount [] = 0 := rfl

@[simp] theorem byteCount_cons (c : Char) (cs : List Char) :
    byteCount (c :: cs) = c.utf8Size + byteCount cs := by
  rw [byteCount, List.foldl_cons, foldl_utf8Size, Nat.zero_add]

@[simp] theorem byteCount_append (cs ds : List Char) :
    byteCount (cs ++ ds) = byteCount cs + byteCount ds := by
  rw [byteCount, List.foldl_append, foldl_utf8Size]
  rfl

theorem byteCount_eq_zero {cs : List Char} (h : byteCount cs = 0) : cs = [] := by
  cases cs with
  | nil => rfl
  | cons c cs =>
    have hpos := c.utf8Size_pos
    rw [byteCount_cons] at h
    omega

end Sink

namespace BufferedSink

variable {b : BufferedSink}

def content (b : BufferedSink) : List Char := b.sink.taken ++ b.pending

/-- To flush changes nothing of what was written, and if it succeeds all of that has arrived. -/
theorem content_flush (b : BufferedSink) :
    b.flush.2.content = b.content ∧ (b.flush.1 = true → b.flush.2.pending = []) := by
  unfold flush
  split
  · rename_i hpending
    exact ⟨rfl, fun _ => hpending⟩
  · have htaken := Sink.taken_offer b.sink b.pending
    split
    · rename_i sink hoffer
      rw [hoffer, if_pos rfl] at htaken
      exact ⟨(List.append_nil _).trans htaken, fun _ => rfl⟩
    · rename_i sink hoffer
      rw [hoffer, if_neg Bool.false_ne_true] at htaken
      exact ⟨congrArg (· ++ b.pending) htaken, fun hflushed => by cases hflushed⟩

theorem content_put {piece : List Char}
    (hempty : capacity ≤ Sink.byteCount piece → b.pending = []) :
    (b.put piece).2.content = if (b.put piece).1 then b.content ++ piece else b.content := by
  unfold put
  split
  · rename_i hlarge
    have htaken := Sink.taken_offer b.sink piece
    simpa [content, hempty hlarge] using htaken
  · simp [content]

/-- A piece is written as a whole or not at all. -/
theorem content_write (b : BufferedSink) (piece : List Char) :
    (b.write piece).2.content = if (b.write piece).1 then b.content ++ piece else b.content := by
  unfold write
  split
  · obtain ⟨hcontent, hempty⟩ := content_flush b
    split
    · rename_i b' hflush
      rw [hflush] at hcontent hempty
      rw [← hcontent]
      exact content_put fun _ => hempty rfl
    · rename_i b' hflush
      rw [hflush] at hcontent
      exact hcontent
  · rename_i hfits
    apply content_put
    intro hlarge
    apply Sink.byteCount_eq_zero
    omega

@[simp] theorem device_flush (b : BufferedSink) :
    b.flush.2.sink.toDevice = b.sink.toDevice := by
  have hdevice := b.sink.device_offer b.pending
  unfold flush
  split
  · rfl
  · split <;> rename_i sink hoffer <;> rw [hoffer] at hdevice <;> exact hdevice

@[simp] theorem device_write (b : BufferedSink) (piece : List Char) :
    (b.write piece).2.sink.toDevice = b.sink.toDevice := by
  have hput : ∀ b : BufferedSink, (b.put piece).2.sink.toDevice = b.sink.toDevice := by
    intro b
    unfold put
    split
    · exact b.sink.device_offer piece
    · rfl
  have hdevice := b.device_flush
  unfold write
  split
  · split
    · rename_i b' hflush
      rw [hflush] at hdevice
      exact (hput b').trans hdevice
    · rename_i b' hflush
      rw [hflush] at hdevice
      exact hdevice
  · exact hput b

/-- A buffer that has nothing to offer gives up its destination as it is. -/
theorem close_of_flushed (h : b.pending = []) : b.close = b.sink := by
  rw [close, flush, if_pos h]

theorem flush_willing (h : b.sink.Willing) :
    b.flush.1 = true ∧ b.flush.2.sink.Willing ∧ b.flush.2.pending = [] ∧
      b.flush.2.sink.taken = b.content := by
  unfold flush content
  split
  · rename_i hpending
    exact ⟨rfl, h, hpending, by rw [hpending, List.append_nil]⟩
  · obtain ⟨htaken, hwilling, htext⟩ := Sink.offer_willing h b.pending
    split
    · rename_i sink hoffer
      rw [hoffer] at hwilling htext
      exact ⟨rfl, hwilling, rfl, htext⟩
    · rename_i sink hoffer
      rw [hoffer] at htaken
      cases htaken

/-- A piece that is too large to be gathered has to find the buffer empty. -/
theorem put_willing {piece : List Char} (h : b.sink.Willing)
    (hempty : capacity ≤ Sink.byteCount piece → b.pending = []) :
    (b.put piece).1 = true ∧ (b.put piece).2.sink.Willing ∧
      (b.put piece).2.content = b.content ++ piece := by
  unfold put content
  split
  · rename_i hlarge
    obtain ⟨htaken, hwilling, htext⟩ := Sink.offer_willing h piece
    refine ⟨htaken, hwilling, ?_⟩
    rw [htext, hempty hlarge, List.append_nil, List.append_nil]
  · exact ⟨rfl, h, (List.append_assoc _ _ _).symm⟩

theorem write_willing (h : b.sink.Willing) (piece : List Char) :
    (b.write piece).1 = true ∧ (b.write piece).2.sink.Willing ∧
      (b.write piece).2.content = b.content ++ piece := by
  unfold write
  split
  · obtain ⟨hflushed, hwilling, hempty, htaken⟩ := flush_willing h
    split
    · rename_i b' hflush
      rw [hflush] at hwilling hempty htaken
      have hcontent : b'.content = b.content := by
        rw [content, hempty, List.append_nil]
        exact htaken
      rw [← hcontent]
      exact put_willing hwilling fun _ => hempty
    · rename_i b' hflush
      rw [hflush] at hflushed
      cases hflushed
  · rename_i hfits
    apply put_willing h
    intro hlarge
    apply Sink.byteCount_eq_zero
    omega

end BufferedSink

end PoliteCrawl

import PoliteCrawl.Proofs.Output.Requeue
import PoliteCrawl.Proofs.Text.Bytes
import PoliteCrawl.Proofs.WorkItem.RoundTrip

namespace PoliteCrawl

namespace Input

theorem rawLines_append {piece : List UInt8} (rest : List UInt8) (h : 0x0a ∉ piece) :
    rawLines (piece ++ 0x0a :: rest) = (piece ++ [0x0a]) :: rawLines rest := by
  induction piece with
  | nil => rfl
  | cons b piece ih =>
    rw [List.mem_cons, not_or] at h
    have hrest : rawLines (b :: piece ++ 0x0a :: rest) =
        addByte b (rawLines (piece ++ 0x0a :: rest)) := rfl
    rw [hrest, ih h.2, addByte, if_neg (Ne.symm h.1), List.cons_append]

theorem withoutEnd_append {piece : List UInt8} (h : piece.getLast? ≠ some 0x0d) :
    withoutEnd (piece ++ [0x0a]) = piece := by
  have hreverse : (piece ++ [0x0a]).reverse = 0x0a :: piece.reverse := List.reverse_concat
  unfold withoutEnd
  rw [hreverse]
  split
  · rename_i rest heq
    rw [← List.head?_reverse, (List.cons.inj heq).2] at h
    exact absurd rfl h
  · rename_i rest _ heq
    rw [← (List.cons.inj heq).2, List.reverse_reverse]
  · rename_i hnone
    exact absurd rfl (hnone _)

theorem textOf?_encoded (cs : List Char) :
    textOf? (cs.flatMap String.utf8EncodeChar) = some (String.ofList cs) := by
  have hbytes : (⟨(cs.flatMap String.utf8EncodeChar).toArray⟩ : ByteArray) =
      (String.ofList cs).toByteArray := by
    rw [String.toByteArray_ofList]
    apply ByteArray.ext
    simp [List.utf8Encode]
  unfold textOf? String.fromUTF8?
  rw [hbytes, dif_pos (String.ofList cs).isValidUTF8]
  rfl

theorem rawLines_of_notMem {piece : List UInt8} (h : 0x0a ∉ piece) :
    rawLines piece = if piece = [] then [] else [piece] := by
  induction piece with
  | nil => rfl
  | cons b piece ih =>
    rw [List.mem_cons, not_or] at h
    have hrest : rawLines (b :: piece) = addByte b (rawLines piece) := rfl
    rw [hrest, ih h.2, if_neg (List.cons_ne_nil b piece)]
    cases piece with
    | nil => rw [if_pos rfl, addByte, if_neg (Ne.symm h.1)]
    | cons b' piece => rw [if_neg (List.cons_ne_nil b' piece), addByte, if_neg (Ne.symm h.1)]

theorem withoutEnd_of_notMem {piece : List UInt8} (h : 0x0a ∉ piece) :
    withoutEnd piece = piece := by
  rw [← List.mem_reverse] at h
  unfold withoutEnd
  split
  · rename_i heq
    rw [heq] at h
    exact absurd List.mem_cons_self h
  · rename_i heq
    rw [heq] at h
    exact absurd List.mem_cons_self h
  · rfl

/-- A line end goes from the bytes of a line as it goes from its characters. -/
theorem withoutEnd_encoded (piece : List Char) :
    withoutEnd (piece.flatMap String.utf8EncodeChar ++ [0x0a]) =
      (Text.dropReturn piece).flatMap String.utf8EncodeChar := by
  by_cases hlast : piece.getLast? = some '\r'
  · obtain ⟨init, rfl⟩ := List.getLast?_eq_some_iff.mp hlast
    have hreturn : String.utf8EncodeChar '\r' = [0x0d] := by decide
    rw [Text.dropReturn, if_pos hlast, List.dropLast_concat, List.flatMap_append,
      List.flatMap_singleton, hreturn, withoutEnd]
    simp
  · rw [Text.dropReturn, if_neg hlast]
    exact withoutEnd_append (Text.getLast?_flatMap_utf8EncodeChar (by decide) hlast)

/-- The lines of a text are the same whether its bytes are read or its characters. -/
theorem lines_ofList (cs : List Char) :
    lines (String.ofList cs).toUTF8.toList = (Text.lines cs).map String.ofList := by
  rw [Text.bytes_ofList]
  induction cs using Text.induction_on_pieces '\n' with
  | last piece hpiece =>
    have hbytes : 0x0a ∉ piece.flatMap String.utf8EncodeChar :=
      Text.notMem_flatMap_utf8EncodeChar (by decide) hpiece
    rw [lines, rawLines_of_notMem hbytes, Text.lines_of_notMem hpiece]
    cases piece with
    | nil => rfl
    | cons c piece =>
      have hne : (c :: piece).flatMap String.utf8EncodeChar ≠ [] := by
        rw [List.flatMap_cons]
        exact List.append_ne_nil_of_left_ne_nil String.utf8EncodeChar_ne_nil _
      rw [if_neg hne, if_neg (List.cons_ne_nil _ _), linesFrom, withoutEnd_of_notMem hbytes,
        textOf?_encoded]
      rfl
  | next piece rest hpiece ih =>
    have hbytes : 0x0a ∉ piece.flatMap String.utf8EncodeChar :=
      Text.notMem_flatMap_utf8EncodeChar (by decide) hpiece
    have hend : String.utf8EncodeChar '\n' = [0x0a] := by decide
    rw [List.flatMap_append, List.flatMap_cons, hend, List.singleton_append, lines,
      rawLines_append _ hbytes, linesFrom, withoutEnd_encoded, textOf?_encoded,
      Text.lines_append _ hpiece, List.map_cons, ← ih]
    rfl

end Input

namespace RequeueStream

open WorkItem

/-- The lines that items are written as. -/
theorem lines_flatMap_lineOf {format : LineFormat} {items : List WorkItem}
    (h : ∀ item ∈ items, ComesBack format item) :
    (Text.lines (items.flatMap (lineOf format))).map String.ofList =
      items.map (toLine format) := by
  have htexts : items.flatMap (lineOf format) =
      (items.map fun item => (item.toLine format).toList).flatMap (· ++ ['\n']) := by
    rw [List.flatMap_map]
    rfl
  rw [htexts, Text.lines_flatMap, List.map_map]
  · exact List.map_congr_left fun item _ => String.ofList_toList
  · intro text htext
    obtain ⟨item, hitem, rfl⟩ := List.mem_map.mp htext
    exact ⟨(h item hitem).oneLine, (h item hitem).noReturn⟩

/-- An empty destination to which items were written gives them back, if each comes back from its
line. -/
theorem lines_flush {format : LineFormat} {items : List WorkItem} {sink : Sink}
    (hitems : ∀ item ∈ items, ComesBack format item) (hsink : sink.Willing)
    (hempty : sink.taken = []) :
    ∃ text, ((appending sink format).addAll items).flush.2.text? = some text ∧
      (Input.lines (String.ofList text).toUTF8.toList).map (ofLine? format) = items.map some := by
  have hwritten := (flush_addAll_appending hsink format items).1
  rw [hempty, List.nil_append] at hwritten
  refine ⟨_, hwritten, ?_⟩
  rw [Input.lines_ofList, lines_flatMap_lineOf hitems, List.map_map]
  exact List.map_congr_left fun item hitem => (hitems item hitem).parses

/-- Items to be tried again are read back as they were: one by one from their lines, in the
structured form whatever their texts, and all of them from what a stream has written to an empty
destination that takes everything. -/
theorem requeued_items_return :
    (∀ format line item, '\n' ∉ line.toList → ofLine? format line = some item →
      ComesBack format item) ∧
    (∀ item, ComesBack .structured item) ∧
    ∀ (format : LineFormat) (items : List WorkItem) (sink : Sink),
      (∀ item ∈ items, ∃ line, '\n' ∉ line.toList ∧ ofLine? format line = some item) →
      sink.Willing → sink.taken = [] →
      ∃ text, ((appending sink format).addAll items).flush.2.text? = some text ∧
        (Input.lines (String.ofList text).toUTF8.toList).map (ofLine? format) = items.map some := by
  refine ⟨fun _ _ _ hline h => comesBack_of_ofLine? hline h, comesBack_structured, ?_⟩
  intro format items sink hitems hsink hempty
  refine lines_flush ?_ hsink hempty
  intro item hitem
  obtain ⟨line, hline, h⟩ := hitems item hitem
  exact comesBack_of_ofLine? hline h

/-- Blanks at its ends, a quote, control characters and more than ASCII. -/
def oddItem : WorkItem := { target := " \"\n\x07é\r", source := some "", priority := 7 }

theorem requeued_items_return_odd :
    (∃ text, ((appending (.holding "") .structured).addAll [oddItem]).flush.2.text? = some text ∧
      (Input.lines (String.ofList text).toUTF8.toList).map (ofLine? .structured) = [some oddItem]) ∧
    ofLine? .raw "\u00a0x\r" = some { target := "x" } ∧ ComesBack .raw { target := "x" } ∧
    ∃ text, ((appending (.holding "") .raw).addAll [{ target := "x" }]).flush.2.text? = some text ∧
      (Input.lines (String.ofList text).toUTF8.toList).map (ofLine? .raw) =
        [some { target := "x" }] := by
  obtain ⟨hread, hstructured, hstream⟩ := requeued_items_return
  have hwilling : (Sink.holding "").Willing := fun _ _ _ => rfl
  have hline : ofLine? .raw "\u00a0x\r" = some { target := "x" } := by decide +kernel
  refine ⟨hstream .structured [oddItem] (.holding "") ?_ hwilling rfl, hline,
    hread .raw _ _ (by decide) hline,
    hstream .raw [{ target := "x" }] (.holding "") ?_ hwilling rfl⟩
  · intro item _
    have hback := hstructured item
    exact ⟨item.toLine .structured, hback.oneLine, hback.parses⟩
  · intro item hitem
    obtain rfl := List.mem_singleton.mp hitem
    exact ⟨"\u00a0x\r", by decide, hline⟩

end RequeueStream

end PoliteCrawl

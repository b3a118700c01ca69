import PoliteCrawl.Proofs.Output.HalfLines
import PoliteCrawl.Proofs.Output.Reread

namespace PoliteCrawl

namespace Text

/-- A text is empty or its last line is ended. -/
def Ended (cs : List Char) : Prop := ∀ c ∈ cs.getLast?, c = '\n'

theorem lines_append_of_ended {old : List Char} (h : Ended old) (cs : List Char) :
    lines (old ++ cs) = lines old ++ lines cs := by
  induction old using induction_on_pieces '\n' with
  | last piece hpiece =>
    have hempty : piece = [] := by
      by_contra hne
      have hlast := h _ (List.getLast?_eq_some_getLast hne)
      exact hpiece (hlast ▸ List.getLast_mem hne)
    rw [hempty]
    rfl
  | next piece rest hpiece ih =>
    have hrest : Ended rest := by
      intro c hc
      cases rest with
      | nil => cases hc
      | cons d rest => exact h c (by simpa using hc)
    rw [List.append_assoc, List.cons_append, lines_append _ hpiece, lines_append _ hpiece, ih hrest,
      List.cons_append]

/-- The last line of a text that is not ended goes on with what is put behind it. -/
theorem exists_lines_of_not_ended {old : List Char} (h : ¬ Ended old) : ∃ before last,
    lines old = before ++ [last] ∧ last ≠ [] ∧ ∀ line rest, '\n' ∉ line →
      lines (old ++ (line ++ '\n' :: rest)) =
        before ++ dropReturn (last ++ line) :: lines rest := by
  -- on the pieces between line feeds: the last one is what goes on
  induction old using induction_on_pieces '\n' with
  | last piece hpiece =>
    have hne : piece ≠ [] := by
      rintro rfl
      exact h fun c hc => by cases hc
    refine ⟨[], piece, ?_, hne, fun line rest hline => ?_⟩
    · rw [lines_of_notMem hpiece, if_neg hne, List.nil_append]
    · have hwhole : '\n' ∉ piece ++ line := by simp [hpiece, hline]
      rw [← List.append_assoc, lines_append _ hwhole, List.nil_append]
  | next piece rest hpiece ih =>
    have hrest : ¬ Ended rest := by
      intro hended
      apply h
      intro c hc
      cases rest with
      | nil => simpa using hc.symm
      | cons d rest => exact hended c (by simpa using hc)
    obtain ⟨before, last, hlines, hne, hgoes⟩ := ih hrest
    refine ⟨dropReturn piece :: before, last, ?_, hne, fun line more hline => ?_⟩
    · rw [lines_append _ hpiece, hlines, List.cons_append]
    · rw [List.append_assoc, List.cons_append, lines_append _ hpiece, hgoes line more hline,
        List.cons_append]

end Text

namespace WorkItem

/-- The line of an item is not empty. -/
theorem ComesBack.nonempty {format : LineFormat} {item : WorkItem} (h : ComesBack format item) :
    (item.toLine format).toList ≠ [] := by
  intro hempty
  have hparses := h.parses
  have hnone : ofLine? format (item.toLine format) = none := by
    unfold ofLine?
    rw [hempty]
    rfl
  rw [hnone] at hparses
  cases hparses

end WorkItem

namespace RequeueStream

open WorkItem

variable {r : RequeueStream} {format : LineFormat} {text : List Char} {written : Nat}

theorem Holds.flushed (h : r.Holds format text written) : r.flush.2.Holds format text written := by
  obtain ⟨⟨b, hbuffer, hwilling, rfl⟩, hformat, hwritten⟩ := h
  obtain ⟨-, hwilling', -⟩ := BufferedSink.flush_willing hwilling
  refine ⟨⟨b.flush.2, ?_, hwilling', b.content_flush.1⟩, (r.format_flush).trans hformat,
    (r.written_flush).trans hwritten⟩
  simp only [RequeueStream.flush, hbuffer]

end RequeueStream

def RequeueCall.item? : RequeueCall → Option WorkItem
  | .add item => some item
  | .flush => none

namespace RequeueUse

open WorkItem

variable {format : LineFormat} {sink : Sink}

def given (calls : List RequeueCall) : List WorkItem := calls.filterMap RequeueCall.item?

theorem given_flush (calls : List RequeueCall) : given (calls ++ [.flush]) = given calls := by
  simp [given, RequeueCall.item?]

theorem given_add (calls : List RequeueCall) (item : WorkItem) :
    given (calls ++ [.add item]) = given calls ++ [item] := by
  simp [given, RequeueCall.item?]

/-- A destination that takes everything gets a line for each item. -/
theorem holds_onSink (hsink : sink.Willing) (format : LineFormat) (calls : List RequeueCall) :
    (onSink sink format calls).stream.Holds format
      (sink.taken ++ (given calls).flatMap (RequeueStream.lineOf format)) (given calls).length := by
  induction calls using List.reverseRecOn with
  | nil =>
    rw [given, List.filterMap_nil, List.flatMap_nil, List.append_nil]
    exact RequeueStream.holds_appending hsink format
  | append_singleton calls c ih =>
    rw [onSink_snoc]
    cases c with
    | flush =>
      rw [given_flush]
      exact ih.flushed
    | add item =>
      rw [given_add, List.flatMap_append, List.flatMap_singleton, ← List.append_assoc,
        List.length_append]
      exact ih.add item

def linesIn (text : List Char) : List String := Input.lines (String.ofList text).toUTF8.toList

/-- Lines behind a last one that is not ended. -/
def continued (last : String) : List String → List String
  | [] => [last]
  | line :: lines => (last ++ line) :: lines

/-- What items written behind a text make of its lines. -/
theorem linesIn_append {items : List WorkItem} (h : ∀ item ∈ items, ComesBack format item)
    (old : List Char) :
    (Text.Ended old → linesIn (old ++ items.flatMap (RequeueStream.lineOf format)) =
        linesIn old ++ items.map (toLine format)) ∧
      (¬ Text.Ended old → ∃ before last, last ≠ "" ∧ linesIn old = before ++ [last] ∧
        linesIn (old ++ items.flatMap (RequeueStream.lineOf format)) =
          before ++ continued last (items.map (toLine format))) := by
  rw [linesIn, linesIn, Input.lines_ofList, Input.lines_ofList]
  refine ⟨fun hended => ?_, fun hopen => ?_⟩
  · rw [Text.lines_append_of_ended hended, List.map_append,
      RequeueStream.lines_flatMap_lineOf h]
  · obtain ⟨before, last, hlines, hne, hgoes⟩ := Text.exists_lines_of_not_ended hopen
    refine ⟨before.map String.ofList, String.ofList last, ?_, ?_, ?_⟩
    · exact fun hempty => hne (by simpa using congrArg String.toList hempty)
    · rw [hlines, List.map_append, List.map_singleton]
    · cases items with
      | nil =>
        rw [List.flatMap_nil, List.append_nil, hlines, List.map_append, List.map_singleton]
        rfl
      | cons item items =>
        have hitem := h item List.mem_cons_self
        -- the line ends as the item does, so that no carriage return is dropped from it
        have hlast : (last ++ (item.toLine format).toList).getLast? ≠ some '\r' := by
          rw [List.getLast?_append_of_ne_nil _ hitem.nonempty]
          exact hitem.noReturn
        rw [List.flatMap_cons, RequeueStream.lineOf, List.append_assoc, List.singleton_append,
          hgoes _ _ hitem.oneLine, Text.dropReturn, if_neg hlast, List.map_append, List.map_cons,
          String.ofList_append, String.ofList_toList,
          RequeueStream.lines_flatMap_lineOf fun item hmem => h item (List.mem_cons_of_mem _ hmem)]
        rfl

theorem length_continued (last : String) {lines : List String} (h : lines ≠ []) :
    (continued last lines).length = lines.length := by
  cases lines with
  | nil => exact absurd rfl h
  | cons line lines => rfl

/-- What is appended to a text leaves its lines as they are, with a line for each item behind them,
if and only if the text is ended or there is no item. If it is not ended, its last line goes on with
the line of the first item. The lines of the items hold them again. -/
theorem appended_lines_apart_iff (sink : Sink) (format : LineFormat) (calls : List RequeueCall)
    (hsink : sink.Willing)
    (hitems : ∀ item ∈ given calls,
      ∃ line, '\n' ∉ line.toList ∧ ofLine? format line = some item) :
    ∃ text, (onSink sink format (calls ++ [.flush])).stream.text? = some text ∧
      (linesIn text = linesIn sink.taken ++ (given calls).map (toLine format) ↔
        given calls = [] ∨ Text.Ended sink.taken) ∧
      (¬ Text.Ended sink.taken → ∃ before last, last ≠ "" ∧
        linesIn sink.taken = before ++ [last] ∧
        linesIn text = before ++ continued last ((given calls).map (toLine format))) ∧
      ((given calls).map (toLine format)).map (ofLine? format) = (given calls).map some := by
  have hback : ∀ item ∈ given calls, ComesBack format item := by
    intro item hitem
    obtain ⟨line, hline, h⟩ := hitems item hitem
    exact comesBack_of_ofLine? hline h
  obtain ⟨happended, hcontinued⟩ := linesIn_append hback sink.taken
  refine ⟨_, ?_, ⟨fun happart => ?_, ?_⟩, hcontinued, ?_⟩
  · rw [onSink_snoc]
    exact (holds_onSink hsink format calls).flush
  · by_contra hneither
    obtain ⟨hsome, hopen⟩ := not_or.mp hneither
    obtain ⟨before, last, -, hold, hnew⟩ := hcontinued hopen
    have hne : (given calls).map (toLine format) ≠ [] := by simpa using hsome
    have hlength := congrArg List.length (hnew.symm.trans happart)
    rw [hold, List.length_append, List.length_append, length_continued last hne,
      List.length_append, List.length_singleton] at hlength
    omega
  · rintro (hnone | hended)
    · rw [hnone, List.flatMap_nil, List.append_nil, List.map_nil, List.append_nil]
    · exact happended hended
  · rw [List.map_map]
    exact List.map_congr_left fun item hitem => (hback item hitem).parses

/-- Behind an address without a line end, another address becomes part of it. -/
theorem appended_lines_apart_iff_unended :
    let calls : List RequeueCall := [.add { target := "https://a.example/" }]
    (∃ text, (onSink (.holding "https://earlier.example/") .raw
          (calls ++ [.flush])).stream.text? = some text ∧
        linesIn text = ["https://earlier.example/https://a.example/"]) ∧
      ∃ text, (onSink (.holding "https://earlier.example/\n") .raw
          (calls ++ [.flush])).stream.text? = some text ∧
        linesIn text = ["https://earlier.example/", "https://a.example/"] := by
  intro calls
  have hitems : ∀ item ∈ given calls,
      ∃ line, '\n' ∉ line.toList ∧ ofLine? .raw line = some item := by
    intro item hitem
    obtain rfl := List.mem_singleton.mp hitem
    exact ⟨"https://a.example/", by decide, by decide +kernel⟩
  have hlines (text : String) (lines : List (List Char)) (h : Text.lines text.toList = lines) :
      linesIn (Sink.holding text).taken = lines.map String.ofList := by
    rw [← h, linesIn, Input.lines_ofList]
    rfl
  constructor
  · obtain ⟨text, htext, -, hcontinued, -⟩ := appended_lines_apart_iff
      (.holding "https://earlier.example/") .raw calls (fun _ _ _ => rfl) hitems
    obtain ⟨before, last, -, hold, hnew⟩ := hcontinued fun h => absurd (h '/' rfl) (by decide)
    rw [hlines _ ["https://earlier.example/".toList] (by decide +kernel)] at hold
    obtain ⟨rfl, rfl⟩ : before = [] ∧ last = "https://earlier.example/" := by
      simpa [eq_comm] using List.append_eq_singleton_iff.mp hold.symm
    exact ⟨text, htext, hnew⟩
  · obtain ⟨text, htext, hiff, -⟩ := appended_lines_apart_iff
      (.holding "https://earlier.example/\n") .raw calls (fun _ _ _ => rfl) hitems
    refine ⟨text, htext, (hiff.mpr (.inr fun c hc => ?_)).trans ?_⟩
    · exact (Option.some.inj hc).symm
    · rw [hlines _ ["https://earlier.example/".toList] (by decide +kernel)]
      rfl

end RequeueUse

end PoliteCrawl

import Mathlib.Data.List.Forall2
import PoliteCrawl.Proofs.Output.WellFormed
import PoliteCrawl.Proofs.Xml.Tags

namespace PoliteCrawl

open Markup

/-- A text that shows a record: one resource element and the end of a line. The address, escaped,
and the moment are in its tag, and no resource element is in it. -/
inductive FetchRecord.IsElement (r : FetchRecord) : List Char → Prop where
  | mk {uri inner : List Char} (huri : Xml.Value uri) (haddress : unescapeChars uri = r.uri.toList)
    (hmoment : Xml.Value r.fetchedAt.text.toList) (hinner : Xml.Content inner)
    (hsingle : Xml.startTags "resource".toList inner = 0) :
    IsElement r (Xml.element "resource".toList (Xml.attributeText "uri".toList uri ++
      Xml.attributeText "fetched-at".toList r.fetchedAt.text.toList) inner ++ ['\n'])

/-- A text is what records are rendered as: an element for each of them, in their order, and nothing
else. -/
structure Envelope.Lists (pages : List FetchRecord) (text : List Char) : Prop where
  rendered : text = elements pages
  elements : ∃ lines, List.Forall₂ FetchRecord.IsElement pages lines ∧ text = lines.flatten

variable {name name' attributes cs rest : List Char} {names : List (List Char)}

theorem Xml.startTags_newline : startTags name ('\n' :: cs) = startTags name cs := by
  have hend : '<' ∉ ['\n'] := by decide
  exact startTags_append_of_notMem hend

/-- An element of another name with nothing but text in it. -/
theorem Markup.Quotable.startTags_line (h : Quotable cs) (hname : Xml.isName name = true)
    (hname' : Xml.isName name' = true) (hattributes : Xml.Attributes names attributes)
    (hne : name ≠ name') (rest : List Char) :
    Xml.startTags name (Xml.element name' attributes cs ++ '\n' :: rest) =
      Xml.startTags name rest := by
  rw [Xml.startTags_element hname hname' hattributes (h.content.startTags_append hname),
    Xml.startTags_of_notMem h.data.notMem, Xml.startTags_newline, decide_eq_false hne]
  exact Nat.zero_add _

theorem FetchOutcome.startTags_markup (o : FetchOutcome) (rest : List Char) :
    Xml.startTags "resource".toList (o.markup.toList ++ rest) =
      Xml.startTags "resource".toList rest := by
  cases o with
  | response status headers body =>
    have hstatus := (plain_status status).quotable.value
    have hencoding : Plain "base64".toList := by decide
    rw [lines_response,
      (quotable_escape headers).startTags_line (by decide) (by decide)
        (.one (by decide) hstatus) (by decide),
      (plain_base64 body).quotable.startTags_line (by decide) (by decide)
        (.one (by decide) hencoding.quotable.value) (by decide)]
  | exception reason =>
    rw [lines_exception,
      (quotable_escape reason).startTags_line (by decide) (by decide) .nil (by decide)]

namespace FetchRecord

variable {r : FetchRecord}

def inside (r : FetchRecord) : List Char :=
  '\n' :: (Xml.element "request".toList [] (escape r.request).toList ++
    '\n' :: (r.outcome.markup.toList ++ []))

theorem content_inside (r : FetchRecord) : Xml.Content r.inside :=
  .line (by decide) .nil (quotable_escape r.request).content
    (r.outcome.content_markup (.text Xml.charData_newline))

theorem startTags_inside (r : FetchRecord) : Xml.startTags "resource".toList r.inside = 0 := by
  rw [inside, Xml.startTags_newline, (quotable_escape r.request).startTags_line (by decide)
    (by decide) .nil (by decide), r.outcome.startTags_markup]
  rfl

theorem isElement_markup (r : FetchRecord) : r.IsElement r.markup.toList := by
  have haddress : unescapeChars (escape r.uri).toList = r.uri.toList := by
    rw [toList_escape, unescapeChars_escapeChars]
  have hlines := r.lines_markup []
  rw [List.append_nil] at hlines
  rw [hlines]
  exact .mk (quotable_escape r.uri).value haddress (plain_moment r.fetchedAt).quotable.value
    r.content_inside r.startTags_inside

theorem IsElement.startTags_append (h : r.IsElement cs) (rest : List Char) :
    Xml.startTags "resource".toList (cs ++ rest) =
      Xml.startTags "resource".toList rest + 1 := by
  cases h with
  | mk huri _ hmoment hinner hsingle =>
    have hattributes : Xml.Attributes ["uri".toList, "fetched-at".toList] _ :=
      .cons (by decide) (by decide) huri (.one (by decide) hmoment)
    rw [List.append_assoc, Xml.startTags_element (by decide) (by decide) hattributes
      (hinner.startTags_append (by decide)), hsingle]
    exact (Nat.add_comm _ _).trans (congrArg (· + 1) Xml.startTags_newline)

end FetchRecord

namespace Envelope

theorem lists_elements (pages : List FetchRecord) : Lists pages (elements pages) where
  rendered := rfl
  elements := by
    refine ⟨pages.map (·.markup.toList), ?_, by rw [elements, List.flatMap_def]⟩
    exact List.forall₂_map_right_iff.mpr (List.forall₂_same.mpr fun r _ => r.isElement_markup)

theorem startTags_flatten {pages : List FetchRecord} {lines : List (List Char)}
    (h : List.Forall₂ FetchRecord.IsElement pages lines) :
    Xml.startTags "resource".toList lines.flatten = pages.length := by
  induction h with
  | nil => rfl
  | cons hline _ ih =>
    rw [List.flatten_cons, hline.startTags_append, ih]
    rfl

/-- As many resource elements are in the text as there are records. -/
theorem Lists.startTags {pages : List FetchRecord} {text : List Char} (h : Lists pages text) :
    Xml.startTags "resource".toList text = pages.length := by
  obtain ⟨lines, hlines, rfl⟩ := h.elements
  exact startTags_flatten hlines

end Envelope

end PoliteCrawl

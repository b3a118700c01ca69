import PoliteCrawl.Fetch.Exchange
import PoliteCrawl.Proofs.Output.Decoding
import PoliteCrawl.Proofs.Xml.Grammar

namespace PoliteCrawl

namespace Markup

variable {cs : List Char}

/-- Text that can stand in an element and, quoted, in a tag. -/
structure Quotable (cs : List Char) : Prop where
  data : Xml.Data cs
  unmarked : Unmarked cs

theorem Quotable.value (h : Quotable cs) : Xml.Value cs where
  data := h.data
  unquoted hquote := absurd (h.unmarked _ hquote rfl) (by decide)

theorem Quotable.content (h : Quotable cs) : Xml.Content cs :=
  .text (.of_notMem h.data fun hclose => absurd (h.unmarked _ hclose rfl) (by decide))

theorem data_escapeChar (c : Char) {rest : List Char} (h : Xml.Data rest) :
    Xml.Data (escapeChar c ++ rest) := by
  unfold escapeChar entity?
  split
  · rename_i e heq
    have hname (name : String) (hname : name ∈ Xml.entityNames) :
        Xml.Data ('&' :: (name.toList ++ ';' :: rest)) := .reference hname h
    split at heq <;> cases heq
    · exact hname "amp" (by decide)
    · exact hname "lt" (by decide)
    · exact hname "gt" (by decide)
    · exact hname "quot" (by decide)
    · exact hname "apos" (by decide)
  · rename_i heq
    refine .plain ?_ ?_ h <;> rintro rfl <;> cases heq

theorem quotable_escape (s : String) : Quotable (escape s).toList where
  unmarked := unmarked_escape s
  data := by
    rw [toList_escape]
    induction s.toList with
    | nil => exact .nil
    | cons c cs ih =>
      rw [escapeChars, List.flatMap_cons]
      exact data_escapeChar c ih

theorem Plain.quotable (h : Plain cs) : Quotable cs where
  unmarked := h.unmarked
  data := by
    induction cs with
    | nil => exact .nil
    | cons c cs ih =>
      have hc := h c List.mem_cons_self
      refine .plain ?_ ?_ (ih fun d hd => h d (List.mem_cons_of_mem _ hd)) <;>
        rintro rfl <;> exact absurd hc (by decide)

theorem Plain.allowed (h : Plain cs) : Xml.Allowed cs := by
  intro c hmem
  have hplain := h c hmem
  simp only [isPlain, Bool.and_eq_true, decide_eq_true_eq] at hplain
  simp only [Xml.isChar, Bool.or_eq_true, Bool.and_eq_true, decide_eq_true_eq]
  omega

theorem allowed_escapeChar (c : Char) : Xml.Allowed (escapeChar c) ↔ Xml.isChar c = true := by
  unfold escapeChar entity?
  split
  · rename_i e heq
    split at heq <;> cases heq <;> decide
  · exact List.forall_mem_singleton

/-- Escaping neither removes nor adds characters that XML does not allow. -/
theorem allowed_escape {s : String} : Xml.Allowed (escape s).toList ↔ Xml.Allowed s.toList := by
  rw [toList_escape]
  induction s.toList with
  | nil => exact Iff.rfl
  | cons c cs ih =>
    rw [escapeChars, List.flatMap_cons, Xml.allowed_append, allowed_escapeChar, Xml.allowed_cons]
    exact and_congr_right' ih

end Markup

open Markup

namespace FetchOutcome

def texts : FetchOutcome → List String
  | response _ headers _ => [headers]
  | exception reason => [reason]

/-- A response is an element for its status and headers, and one for its body. -/
theorem lines_response (status : UInt16) (headers : String) (body : List UInt8)
    (after : List Char) :
    (response status headers body).markup.toList ++ after =
      Xml.element "response".toList
          (Xml.attributeText "status".toList (toString status).toList) (escape headers).toList ++
        '\n' :: (Xml.element "body".toList
          (Xml.attributeText "encoding".toList "base64".toList)
          (Text.Base64.encode body).toList ++ '\n' :: after) := by
  rw [toList_response]
  simp [Xml.element, Xml.attributeText]

theorem lines_exception (reason : String) (after : List Char) :
    (exception reason).markup.toList ++ after =
      Xml.element "exception".toList [] (escape reason).toList ++ '\n' :: after := by
  rw [toList_exception]
  simp [Xml.element]

theorem content_markup (o : FetchOutcome) {after : List Char} (h : Xml.Content ('\n' :: after)) :
    Xml.Content ('\n' :: (o.markup.toList ++ after)) := by
  cases o with
  | response status headers body =>
    rw [lines_response]
    refine .line (by decide) (.one (by decide) (plain_status status).quotable.value)
      (quotable_escape headers).content ?_
    exact .line (by decide) (.one (by decide) (Plain.quotable (by decide)).value)
      (plain_base64 body).quotable.content h
  | exception reason =>
    rw [lines_exception]
    exact .line (by decide) .nil (quotable_escape reason).content h

theorem allowed_markup (o : FetchOutcome) {after : List Char} :
    Xml.Allowed (o.markup.toList ++ after) ↔
      (∀ text ∈ o.texts, Xml.Allowed text.toList) ∧ Xml.Allowed after := by
  have hend : Xml.isChar '\n' = true := by decide
  cases o with
  | response status headers body =>
    have hencoding : Xml.Allowed "base64".toList := by decide
    rw [lines_response, Xml.allowed_append, Xml.allowed_cons, Xml.allowed_append, Xml.allowed_cons,
      Xml.allowed_element (by decide), Xml.allowed_element (by decide),
      Xml.allowed_attributeText (by decide), Xml.allowed_attributeText (by decide), allowed_escape]
    simp only [texts, List.forall_mem_singleton, (plain_status status).allowed,
      (plain_base64 body).allowed, hencoding, hend, true_and]
  | exception reason =>
    rw [lines_exception, Xml.allowed_append, Xml.allowed_cons, Xml.allowed_element (by decide),
      allowed_escape]
    simp only [texts, List.forall_mem_singleton, Xml.allowed_nil, hend, true_and]

end FetchOutcome

namespace FetchRecord

def texts (r : FetchRecord) : List String := r.uri :: r.request :: r.outcome.texts

theorem lines_markup (r : FetchRecord) (after : List Char) :
    r.markup.toList ++ after =
      Xml.element "resource".toList
          (Xml.attributeText "uri".toList (escape r.uri).toList ++
            Xml.attributeText "fetched-at".toList r.fetchedAt.text.toList)
          ('\n' :: (Xml.element "request".toList [] (escape r.request).toList ++
            '\n' :: (r.outcome.markup.toList ++ []))) ++
        '\n' :: after := by
  rw [toList_markup]
  simp [Xml.element, Xml.attributeText]

theorem content_markup (r : FetchRecord) {after : List Char} (h : Xml.Content ('\n' :: after)) :
    Xml.Content ('\n' :: (r.markup.toList ++ after)) := by
  have hattributes : Xml.Attributes ["uri".toList, "fetched-at".toList] _ :=
    .cons (by decide) (by decide) (quotable_escape r.uri).value
      (.one (by decide) (plain_moment r.fetchedAt).quotable.value)
  rw [lines_markup]
  refine .line (by decide) hattributes ?_ h
  exact .line (by decide) .nil (quotable_escape r.request).content
    (r.outcome.content_markup (.text Xml.charData_newline))

theorem allowed_markup (r : FetchRecord) {after : List Char} :
    Xml.Allowed (r.markup.toList ++ after) ↔
      (∀ text ∈ r.texts, Xml.Allowed text.toList) ∧ Xml.Allowed after := by
  have hend : Xml.isChar '\n' = true := by decide
  rw [lines_markup, Xml.allowed_append, Xml.allowed_cons, Xml.allowed_element (by decide),
    Xml.allowed_append, Xml.allowed_attributeText (by decide),
    Xml.allowed_attributeText (by decide), Xml.allowed_cons, Xml.allowed_append,
    Xml.allowed_element (by decide), Xml.allowed_cons, r.outcome.allowed_markup, allowed_escape,
    allowed_escape]
  simp only [texts, List.forall_mem_cons, (plain_moment r.fetchedAt).allowed, Xml.allowed_nil, hend,
    true_and, and_true, and_assoc]

end FetchRecord

namespace Envelope

theorem content_elements (records : List FetchRecord) :
    Xml.Content ('\n' :: elements records) := by
  induction records with
  | nil => exact .text Xml.charData_newline
  | cons r records ih => exact r.content_markup ih

theorem allowed_elements {records : List FetchRecord} : Xml.Allowed (elements records) ↔
    ∀ r ∈ records, ∀ text ∈ r.texts, Xml.Allowed text.toList := by
  induction records with
  | nil => exact iff_of_true Xml.allowed_nil (List.forall_mem_nil _)
  | cons r records ih =>
    rw [elements, List.flatMap_cons, ← elements, r.allowed_markup, ih, List.forall_mem_cons]

/-- The text of an envelope is a declaration and one element. -/
theorem lines_document (records : List FetchRecord) :
    opening.toList ++ (elements records ++ closing.toList) =
      Xml.declaration.toList ++ (['\n'] ++
        (Xml.element "resources".toList [] ('\n' :: elements records) ++ ['\n'])) := by
  simp [opening, closing, Xml.declaration, Xml.element]

theorem document_elements (records : List FetchRecord) :
    Xml.Document (opening.toList ++ (elements records ++ closing.toList)) := by
  rw [lines_document]
  exact .mk (by decide) (by decide) .nil (content_elements records) (by decide)

end Envelope

namespace EnvelopeUse

/-- An envelope that took all that it was given has the form of a document: the tags match, and all
that the records say stands in text or quoted. It is well-formed if and only if no text of a record
has a character that XML does not allow. -/
theorem wellFormed_iff_allowed (device : Device) (records : List FetchRecord)
    (h : (onDevice device (writing records)).succeeded = true) :
    Xml.Document (onDevice device (writing records)).reached ∧
      (Xml.WellFormed (onDevice device (writing records)).reached ↔
        ∀ r ∈ records, ∀ text ∈ r.texts, Xml.Allowed text.toList) := by
  have hdocument := Envelope.document_elements records
  have hends : Xml.Allowed Envelope.opening.toList ∧ Xml.Allowed Envelope.closing.toList := by
    decide
  rw [reached_writing h]
  refine ⟨hdocument, fun hwell => ?_, fun hallowed => ⟨hdocument, ?_⟩⟩
  · obtain ⟨-, hrest⟩ := Xml.allowed_append.mp hwell.allowed
    exact Envelope.allowed_elements.mp (Xml.allowed_append.mp hrest).1
  · exact Xml.allowed_append.mpr ⟨hends.1,
      Xml.allowed_append.mpr ⟨Envelope.allowed_elements.mpr hallowed, hends.2⟩⟩

/-- A response with a header of bytes that are text, but not in XML. -/
def oddResponse : Response := { status := 200, headers := [("x-note", [0xef, 0xbf, 0xbe])] }

def oddRecord : FetchRecord where
  uri := "https://a.example/"
  fetchedAt := { seconds := 0 }
  request := ""
  outcome := .response oddResponse.status oddResponse.headerText []

/-- Records that try to end their elements do no harm, but one header does. -/
theorem wellFormed_iff_allowed_of_odd :
    Xml.WellFormed (onDevice {} (writing hostile)).reached ∧
      Xml.Document (onDevice {} (writing [oddRecord])).reached ∧
      ¬ Xml.WellFormed (onDevice {} (writing [oddRecord])).reached := by
  obtain ⟨-, hhostile⟩ := wellFormed_iff_allowed {} hostile
    (succeeded_of_willing (fun _ _ _ => rfl) hostile)
  obtain ⟨hdocument, hodd⟩ := wellFormed_iff_allowed {} [oddRecord]
    (succeeded_of_willing (fun _ _ _ => rfl) [oddRecord])
  have hheaders : oddResponse.headerText = "x-note: \ufffe" := by
    decide +kernel
  refine ⟨hhostile.mpr (by decide), hdocument, fun hwell => ?_⟩
  have hallowed := hodd.mp hwell oddRecord List.mem_cons_self oddResponse.headerText
    (List.mem_cons_of_mem _ (List.mem_cons_of_mem _ List.mem_cons_self))
  rw [hheaders] at hallowed
  exact absurd hallowed (by decide)

end EnvelopeUse

end PoliteCrawl

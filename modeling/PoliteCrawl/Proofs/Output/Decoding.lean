import PoliteCrawl.Proofs.Output.Document
import PoliteCrawl.Proofs.Output.Markup

namespace PoliteCrawl

open Markup

variable {rest rest' : List Char}

namespace FetchOutcome

-- Only so many rewrites: one more would try to open the literals.
theorem toList_response (status : UInt16) (headers : String) (body : List UInt8)
    (rest : List Char) :
    (response status headers body).markup.toList ++ rest =
      "<response status=\"".toList ++ ((toString status).toList ++ ("\">".toList ++
        ((escape headers).toList ++ ("</response>\n".toList ++
          ("<body encoding=\"base64\">".toList ++ ((Text.Base64.encode body).toList ++
            ("</body>\n".toList ++ rest))))))) := by
  unfold markup
  simp only [Text.toString_string, String.toList_append]
  iterate 7 rw [List.append_assoc]

theorem toList_exception (reason : String) (rest : List Char) :
    (exception reason).markup.toList ++ rest =
      "<exception>".toList ++ ((escape reason).toList ++ ("</exception>\n".toList ++ rest)) := by
  unfold markup
  simp only [Text.toString_string, String.toList_append]
  iterate 2 rw [List.append_assoc]

theorem markup_inj {o o' : FetchOutcome}
    (h : o.markup.toList ++ rest = o'.markup.toList ++ rest') : o = o' ∧ rest = rest' := by
  cases o with
  | response status headers body =>
    cases o' with
    | response status' headers' body' =>
      rw [toList_response, toList_response] at h
      obtain ⟨hstatus, h⟩ := (plain_status status).unmarked.cut
        (plain_status status').unmarked (by decide) (List.append_cancel_left h)
      obtain ⟨hheaders, h⟩ :=
        (unmarked_escape headers).cut (unmarked_escape headers') (by decide) h
      obtain ⟨hbody, h⟩ := (plain_base64 body).unmarked.cut
        (plain_base64 body').unmarked (by decide) (List.append_cancel_left h)
      rw [status_injective hstatus, escape_injective (String.toList_inj.mp hheaders),
        Text.Base64.encode_injective (String.toList_inj.mp hbody)]
      exact ⟨rfl, h⟩
    | exception reason' =>
      rw [toList_response, toList_exception] at h
      simp at h
  | exception reason =>
    cases o' with
    | response status' headers' body' =>
      rw [toList_response, toList_exception] at h
      simp at h
    | exception reason' =>
      rw [toList_exception, toList_exception] at h
      obtain ⟨hreason, h⟩ := (unmarked_escape reason).cut (unmarked_escape reason') (by decide)
        (List.append_cancel_left h)
      exact ⟨congrArg exception (escape_injective (String.toList_inj.mp hreason)), h⟩

end FetchOutcome

namespace FetchRecord

/-- Two records say the same, but for what the text of a moment leaves out. -/
structure Alike (r r' : FetchRecord) : Prop where
  uri : r.uri = r'.uri
  fetchedAt : r.fetchedAt.text = r'.fetchedAt.text
  request : r.request = r'.request
  outcome : r.outcome = r'.outcome

theorem toList_markup (r : FetchRecord) (rest : List Char) :
    r.markup.toList ++ rest =
      "<resource uri=\"".toList ++ ((escape r.uri).toList ++ ("\" fetched-at=\"".toList ++
        (r.fetchedAt.text.toList ++ ("\">\n".toList ++ ("<request>".toList ++
          ((escape r.request).toList ++ ("</request>\n".toList ++ (r.outcome.markup.toList ++
            ("</resource>\n".toList ++ rest))))))))) := by
  unfold markup
  simp only [Text.toString_string, String.toList_append]
  iterate 9 rw [List.append_assoc]

theorem markup_inj {r r' : FetchRecord}
    (h : r.markup.toList ++ rest = r'.markup.toList ++ rest') : r.Alike r' ∧ rest = rest' := by
  rw [toList_markup, toList_markup] at h
  obtain ⟨huri, h⟩ := (unmarked_escape r.uri).cut (unmarked_escape r'.uri) (by decide)
    (List.append_cancel_left h)
  obtain ⟨hfetched, h⟩ :=
    (plain_moment r.fetchedAt).unmarked.cut (plain_moment r'.fetchedAt).unmarked (by decide) h
  obtain ⟨hrequest, h⟩ := (unmarked_escape r.request).cut (unmarked_escape r'.request) (by decide)
    (List.append_cancel_left h)
  obtain ⟨houtcome, h⟩ := FetchOutcome.markup_inj h
  exact ⟨⟨escape_injective (String.toList_inj.mp huri), String.toList_inj.mp hfetched,
    escape_injective (String.toList_inj.mp hrequest), houtcome⟩, List.append_cancel_left h⟩

end FetchRecord

namespace Envelope

/-- An element does not begin as the closing text does. -/
theorem closing_ne_markup (r : FetchRecord) (rest : List Char) :
    closing.toList ≠ r.markup.toList ++ rest := by
  rw [FetchRecord.toList_markup]
  simp [closing]

theorem elements_inj {records records' : List FetchRecord}
    (h : elements records ++ closing.toList = elements records' ++ closing.toList) :
    List.Forall₂ FetchRecord.Alike records records' := by
  induction records generalizing records' with
  | nil =>
    cases records' with
    | nil => exact .nil
    | cons r' records' =>
      rw [elements, elements, List.flatMap_cons, List.append_assoc] at h
      exact absurd h (closing_ne_markup r' _)
  | cons r records ih =>
    rw [elements, List.flatMap_cons, List.append_assoc] at h
    cases records' with
    | nil => exact absurd h.symm (closing_ne_markup r _)
    | cons r' records' =>
      rw [elements, List.flatMap_cons, List.append_assoc] at h
      obtain ⟨halike, htail⟩ := FetchRecord.markup_inj h
      exact .cons halike (ih htail)

end Envelope

namespace EnvelopeUse

open EnvelopeLog

def writing (records : List FetchRecord) : List EnvelopeCall := records.map .write ++ [.close]

def succeeded (u : EnvelopeUse) : Bool := u.log.all (·.2.isOk)

theorem map_log_onDevice (device : Device) (calls : List EnvelopeCall) :
    (onDevice device calls).log.map Prod.fst = calls := by
  induction calls using List.reverseRecOn with
  | nil => rfl
  | append_singleton calls c ih =>
    rw [onDevice_snoc, call, List.map_append, ih]
    rfl

theorem accepted_writing {log : EnvelopeLog} {records : List FetchRecord}
    (h : log.all (·.2.isOk) = true) (hcalls : log.map Prod.fst = writing records) :
    accepted log = records ∧ closeAnswer? log = some (.ok ()) := by
  induction records generalizing log with
  | nil =>
    obtain ⟨⟨c, answer⟩, rfl, rfl⟩ := List.map_eq_singleton_iff.mp hcalls
    cases answer with
    | error error => cases h
    | ok => exact ⟨rfl, rfl⟩
  | cons record records ih =>
    obtain ⟨⟨c, answer⟩, tail, rfl, rfl, htail⟩ := List.map_eq_cons_iff.mp hcalls
    cases answer with
    | error error => cases h
    | ok =>
      have hok : tail.all (·.2.isOk) = true := h
      obtain ⟨haccepted, hclosed⟩ := ih hok htail
      exact ⟨congrArg (record :: ·) haccepted, hclosed⟩

/-- The text of an envelope that took all that it was given. -/
theorem reached_writing {device : Device} {records : List FetchRecord}
    (h : (onDevice device (writing records)).succeeded = true) :
    (onDevice device (writing records)).reached =
      Envelope.opening.toList ++ (Envelope.elements records ++ Envelope.closing.toList) := by
  obtain ⟨haccepted, hclosed⟩ := accepted_writing h (map_log_onDevice device _)
  rw [(tracks_onDevice device _).whole hclosed, document, haccepted, hclosed, List.append_assoc]
  rfl

theorem succeeded_snoc {u : EnvelopeUse} (h : u.succeeded = true) {c : EnvelopeCall}
    (hc : (u.envelope.answer c).1 = .ok ()) : (u.call c).succeeded = true := by
  unfold succeeded call
  rw [List.all_append, Bool.and_eq_true]
  exact ⟨h, by simp [hc, Except.isOk, Except.toBool]⟩

/-- A device that takes every piece takes any records. -/
theorem succeeded_of_willing {device : Device}
    (h : ∀ offers taken piece, device.accepts offers taken piece = true)
    (records : List FetchRecord) : (onDevice device (writing records)).succeeded = true := by
  have hwritten : (onDevice device (records.map .write)).envelope.Writable ∧
      (onDevice device (records.map .write)).succeeded = true := by
    induction records using List.reverseRecOn with
    | nil => exact ⟨Envelope.writable_start h, rfl⟩
    | append_singleton records record ih =>
      obtain ⟨hok, hwritable⟩ := ih.1.write record
      rw [List.map_append, List.map_singleton, onDevice_snoc]
      exact ⟨hwritable, succeeded_snoc ih.2 hok⟩
  rw [writing, onDevice_snoc]
  exact succeeded_snoc hwritten.2 hwritten.1.close

/-- Envelopes with the same text have the same records in them. -/
theorem alike_of_reached_eq (device device' : Device) (records records' : List FetchRecord)
    (h : (onDevice device (writing records)).succeeded = true)
    (h' : (onDevice device' (writing records')).succeeded = true)
    (hreached : (onDevice device (writing records)).reached =
      (onDevice device' (writing records')).reached) :
    List.Forall₂ FetchRecord.Alike records records' := by
  rw [reached_writing h, reached_writing h'] at hreached
  exact Envelope.elements_inj (List.append_cancel_left hreached)

/-- Records whose texts try to end the elements that they are in. -/
def hostile : List FetchRecord :=
  [{ uri := "http://a/\"><resource uri=\"", fetchedAt := { seconds := 0 },
     request := "GET /</request>&amp;", outcome := .response 200 "</response>" [60, 47] },
   { uri := "", fetchedAt := { seconds := 59, nanos := 1000000000 }, request := "'&'",
     outcome := .exception "</exception>\n</resource>\n</resources>\n" }]

/-- On two devices that differ in why they would refuse a piece. -/
theorem alike_hostile :
    (onDevice {} (writing hostile)).succeeded = true ∧
      (onDevice { reason := "full" } (writing hostile)).succeeded = true ∧
      List.Forall₂ FetchRecord.Alike hostile hostile :=
  have h := succeeded_of_willing (fun _ _ _ => rfl) hostile
  have h' := succeeded_of_willing (fun _ _ _ => rfl) hostile
  ⟨h, h', alike_of_reached_eq {} { reason := "full" } hostile hostile h h'
    ((reached_writing h).trans (reached_writing h').symm)⟩

end EnvelopeUse

end PoliteCrawl

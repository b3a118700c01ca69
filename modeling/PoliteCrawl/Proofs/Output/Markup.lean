import PoliteCrawl.Output.Markup
import PoliteCrawl.Proofs.Text.Base64
import PoliteCrawl.Time.Calendar

namespace PoliteCrawl

/-- A string that is put into a text stands for itself. -/
theorem Text.toString_string (s : String) : toString s = s := rfl

/-- A text ends where a character comes that it does not have. -/
theorem Text.cut_inj {stop : Char} {xs ys rest rest' : List Char} (hxs : stop ∉ xs)
    (hys : stop ∉ ys) (h : xs ++ stop :: rest = ys ++ stop :: rest') : xs = ys ∧ rest = rest' := by
  induction xs generalizing ys with
  | nil =>
    cases ys with
    | nil => exact ⟨rfl, (List.cons.inj h).2⟩
    | cons y ys =>
      obtain ⟨hstop, -⟩ := List.cons.inj h
      exact absurd (hstop ▸ List.mem_cons_self) hys
  | cons x xs ih =>
    cases ys with
    | nil =>
      obtain ⟨hstop, -⟩ := List.cons.inj h
      exact absurd (hstop ▸ List.mem_cons_self) hxs
    | cons y ys =>
      obtain ⟨rfl, htail⟩ := List.cons.inj h
      obtain ⟨rfl, hrest⟩ :=
        ih (List.not_mem_of_not_mem_cons hxs) (List.not_mem_of_not_mem_cons hys) htail
      exact ⟨rfl, hrest⟩

namespace Markup

def unescapeChars : List Char → List Char
  | '&' :: 'a' :: 'm' :: 'p' :: ';' :: rest => '&' :: unescapeChars rest
  | '&' :: 'l' :: 't' :: ';' :: rest => '<' :: unescapeChars rest
  | '&' :: 'g' :: 't' :: ';' :: rest => '>' :: unescapeChars rest
  | '&' :: 'q' :: 'u' :: 'o' :: 't' :: ';' :: rest => '"' :: unescapeChars rest
  | '&' :: 'a' :: 'p' :: 'o' :: 's' :: ';' :: rest => '\'' :: unescapeChars rest
  | c :: rest => c :: unescapeChars rest
  | [] => []

theorem unescapeChars_cons {c : Char} (h : c ≠ '&') (rest : List Char) :
    unescapeChars (c :: rest) = c :: unescapeChars rest := by
  rw [unescapeChars.eq_def (c :: rest)]
  split <;> simp_all

theorem unescapeChars_escapeChar (c : Char) (rest : List Char) :
    unescapeChars (escapeChar c ++ rest) = c :: unescapeChars rest := by
  unfold escapeChar entity?
  split
  · rename_i e heq
    split at heq <;> cases heq <;> rfl
  · rename_i heq
    have hc : c ≠ '&' := by
      rintro rfl
      cases heq
    exact unescapeChars_cons hc rest

/-- Escaping can be undone. -/
theorem unescapeChars_escapeChars (cs : List Char) : unescapeChars (escapeChars cs) = cs := by
  induction cs with
  | nil => rfl
  | cons c cs ih =>
    rw [escapeChars, List.flatMap_cons, unescapeChars_escapeChar, ← escapeChars, ih]

/-- A text without special characters is left as it is. -/
theorem escapeChars_of_plain {cs : List Char} (h : cs.any isSpecial = false) :
    escapeChars cs = cs := by
  induction cs with
  | nil => rfl
  | cons c cs ih =>
    rw [List.any_cons, Bool.or_eq_false_iff] at h
    have hnone : entity? c = none := by simpa [isSpecial] using h.1
    rw [escapeChars, List.flatMap_cons, escapeChar, hnone, ← escapeChars, ih h.2,
      List.singleton_append]

theorem toList_escape (s : String) : (escape s).toList = escapeChars s.toList := by
  unfold escape altered?
  cases hany : s.toList.any isSpecial with
  | false => exact (escapeChars_of_plain hany).symm
  | true => exact String.toList_ofList

theorem escape_injective : Function.Injective escape := by
  intro s t h
  have hchars := congrArg (fun u : String => unescapeChars u.toList) h
  simp only [toList_escape, unescapeChars_escapeChars] at hchars
  exact String.toList_inj.mp hchars

/-- Text that needs no other markup around it to be told from that. -/
def Unmarked (cs : List Char) : Prop := ∀ c ∈ cs, isSpecial c = true → c = '&'

instance (cs : List Char) : Decidable (Unmarked cs) :=
  List.decidableBAll (fun c => isSpecial c = true → c = '&') cs

variable {cs ds : List Char}

/-- Markup that such a text cannot go on with. -/
def endsText (mark : String) : Bool := mark.toList.head?.any fun c => isSpecial c && c ≠ '&'

theorem Unmarked.cut {mark : String} {rest rest' : List Char} (hcs : Unmarked cs)
    (hds : Unmarked ds) (hmark : endsText mark = true)
    (h : cs ++ (mark.toList ++ rest) = ds ++ (mark.toList ++ rest')) : cs = ds ∧ rest = rest' := by
  cases hchars : mark.toList with
  | nil =>
    rw [endsText, hchars] at hmark
    cases hmark
  | cons stop tail =>
    have hstop : isSpecial stop = true ∧ stop ≠ '&' := by simpa [endsText, hchars] using hmark
    rw [hchars] at h
    obtain ⟨htext, hrest⟩ := Text.cut_inj (fun hmem => hstop.2 (hcs stop hmem hstop.1))
      (fun hmem => hstop.2 (hds stop hmem hstop.1)) h
    exact ⟨htext, List.append_cancel_left hrest⟩

theorem unmarked_escapeChar (c : Char) : Unmarked (escapeChar c) := by
  unfold escapeChar
  split
  · rename_i e heq
    unfold entity? at heq
    split at heq <;> cases heq <;> decide
  · rename_i heq
    intro d hmem hspecial
    rw [List.mem_singleton.mp hmem, isSpecial, heq] at hspecial
    cases hspecial

theorem unmarked_escape (s : String) : Unmarked (escape s).toList := by
  intro c hmem
  rw [toList_escape, escapeChars, List.mem_flatMap] at hmem
  obtain ⟨d, -, hc⟩ := hmem
  exact unmarked_escapeChar d c hc

def isPlain (c : Char) : Bool := 0x20 ≤ c.toNat && c.toNat < 0x7f && !isSpecial c

/-- Text that is the same with and without markup around it. -/
def Plain (cs : List Char) : Prop := ∀ c ∈ cs, isPlain c = true

instance (cs : List Char) : Decidable (Plain cs) := List.decidableBAll (isPlain · = true) cs

theorem plain_append : Plain (cs ++ ds) ↔ Plain cs ∧ Plain ds := List.forall_mem_append

theorem Plain.unmarked (h : Plain cs) : Unmarked cs := by
  intro c hmem hspecial
  have hplain := h c hmem
  rw [isPlain, hspecial, Bool.not_true, Bool.and_false] at hplain
  cases hplain

theorem isSpecial_of_isDigit {c : Char} (h : c.isDigit = true) : isSpecial c = false := by
  unfold isSpecial entity?
  split <;> first | rfl | exact absurd h (by decide)

theorem plain_of_digits (h : ∀ c ∈ cs, c.isDigit = true) : Plain cs := by
  intro c hmem
  have hdigit := h c hmem
  have hcode : 48 ≤ c.toNat ∧ c.toNat ≤ 57 := by
    rw [Char.isDigit, Bool.and_eq_true, decide_eq_true_eq, decide_eq_true_eq] at hdigit
    exact hdigit
  simp only [isPlain, isSpecial_of_isDigit hdigit, Bool.not_false, Bool.and_true, Bool.and_eq_true,
    decide_eq_true_eq]
  omega

theorem plain_toDigits (n : Nat) : Plain (Nat.toDigits 10 n) :=
  plain_of_digits fun _ hmem => Nat.isDigit_of_mem_toDigits (by decide) (Nat.le_refl 10) hmem

theorem plain_padded (width n : Nat) : Plain (Time.padded width n).toList := by
  rw [Time.padded, String.toList_ofList]
  refine plain_append.mpr ⟨plain_of_digits fun c hmem => ?_, plain_toDigits n⟩
  rw [List.eq_of_mem_replicate hmem]
  decide

theorem plain_yearText (year : Int) : Plain (Time.yearText year).toList := by
  unfold Time.yearText
  split
  · exact plain_padded _ _
  · rw [String.toList_append, plain_append]
    refine ⟨?_, plain_padded _ _⟩
    split <;> decide

theorem plain_fractionText (nanos : Nat) : Plain (Time.fractionText nanos).toList := by
  have hplaces (width n : Nat) : Plain ("." ++ Time.padded width n).toList := by
    rw [String.toList_append, plain_append]
    exact ⟨by decide, plain_padded _ _⟩
  unfold Time.fractionText
  split
  · decide
  · split
    · exact hplaces _ _
    · split <;> exact hplaces _ _

theorem plain_moment (m : Time.Moment) : Plain m.text.toList := by
  unfold Time.Moment.text
  simp only [Text.toString_string, String.toList_append, plain_append, plain_yearText,
    plain_padded, plain_fractionText, true_and, and_true]
  decide

theorem plain_base64 (bytes : List UInt8) : Plain (Text.Base64.encode bytes).toList := by
  have hletters : ∀ k ∈ List.range 64, isPlain (Text.Base64.letter k) = true := by decide
  intro c hmem
  rw [Text.Base64.encode, String.toList_ofList] at hmem
  obtain ⟨n, rfl⟩ | rfl := Text.Base64.mem_encodeChars hmem
  · exact Text.Base64.letter_forall (p := (isPlain · = true)) hletters n
  · decide

theorem toList_status (status : UInt16) :
    (toString status).toList = Nat.toDigits 10 status.toNat := by
  change (toString status.toNat).toList = _
  rw [Nat.toString_eq_ofList_toDigits, String.toList_ofList]

theorem plain_status (status : UInt16) : Plain (toString status).toList := by
  rw [toList_status]
  exact plain_toDigits status.toNat

theorem status_injective {status status' : UInt16}
    (h : (toString status).toList = (toString status').toList) : status = status' := by
  rw [toList_status, toList_status] at h
  have hnumber := congrArg (Nat.ofDigitChars 10 · 0) h
  simp only [Nat.ofDigitChars_ten_toDigits] at hnumber
  exact UInt16.toNat_inj.mp hnumber

end Markup

end PoliteCrawl

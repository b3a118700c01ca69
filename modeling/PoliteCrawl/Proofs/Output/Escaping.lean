import PoliteCrawl.Proofs.Output.WellFormed

namespace PoliteCrawl

/-- The name of an entity and a semicolon follow each ampersand. -/
theorem Xml.Data.reference_of_append {before after : List Char}
    (h : Xml.Data (before ++ '&' :: after)) :
    ∃ name ∈ Xml.entityNames, name.toList ++ [';'] <+: after := by
  generalize htext : before ++ '&' :: after = text at h
  induction h generalizing before with
  | nil => simp at htext
  | plain hmark href rest ih =>
    cases before with
    | nil => exact absurd (List.cons.inj htext).1.symm href
    | cons c before => exact ih (List.cons.inj htext).2
  | @reference name cs hname rest ih =>
    cases before with
    | nil =>
      obtain ⟨-, rfl⟩ := List.cons.inj htext
      exact ⟨name, hname, cs, by simp⟩
    | cons c before =>
      -- No ampersand is in a reference behind its first one.
      have hplain : ∀ name ∈ entityNames, '&' ∉ name.toList ++ [';'] := by decide
      have hsplit : before ++ '&' :: after = (name.toList ++ [';']) ++ cs := by
        simpa using (List.cons.inj htext).2
      obtain ⟨inner, hreference, hcs⟩ | ⟨inner, -, hcs⟩ := List.append_eq_append_iff.mp hsplit
      · cases inner with
        | nil =>
          have hempty : [] ++ '&' :: after = cs := hcs
          exact ih hempty
        | cons d inner =>
          obtain ⟨rfl, -⟩ := List.cons.inj hcs
          exact absurd (hreference ▸ by simp) (hplain name hname)
      · exact ih hcs.symm

namespace Markup

variable {c : Char} {cs : List Char}

/-- A text with the five entities in it replaced by their characters. -/
def unescape (s : String) : String := String.ofList (unescapeChars s.toList)

theorem isSpecial_iff : isSpecial c = true ↔ c ∈ ['&', '<', '>', '"', '\''] := by
  unfold isSpecial entity?
  split <;> simp_all

/-- An entity is longer than the character that it stands for. -/
theorem length_escapeChar (c : Char) :
    (escapeChar c).length = 1 ∧ isSpecial c = false ∨
      1 < (escapeChar c).length ∧ isSpecial c = true := by
  unfold isSpecial escapeChar entity?
  split
  · rename_i heq
    split at heq <;> cases heq <;> decide
  · simp_all

theorem length_le_escapeChars (cs : List Char) : cs.length ≤ (escapeChars cs).length := by
  induction cs with
  | nil => exact Nat.le_refl _
  | cons c cs ih =>
    rw [escapeChars, List.flatMap_cons, ← escapeChars, List.length_append, List.length_cons]
    rcases length_escapeChar c with ⟨hlength, -⟩ | ⟨hlength, -⟩ <;> omega

/-- Only a text without special characters is left as it is. -/
theorem escapeChars_eq_self_iff : escapeChars cs = cs ↔ cs.any isSpecial = false := by
  refine ⟨fun h => ?_, escapeChars_of_plain⟩
  induction cs with
  | nil => rfl
  | cons c cs ih =>
    rw [escapeChars, List.flatMap_cons, ← escapeChars] at h
    obtain ⟨hone, hplain⟩ | ⟨hmore, -⟩ := length_escapeChar c
    · obtain ⟨d, hd⟩ := List.length_eq_one_iff.mp hone
      rw [hd, List.singleton_append] at h
      rw [List.any_cons, hplain, Bool.false_or]
      exact ih (List.cons.inj h).2
    · -- The text would be longer than it is.
      have hlength := congrArg List.length h
      rw [List.length_append, List.length_cons] at hlength
      have hrest := length_le_escapeChars cs
      omega

theorem altered?_eq_none_iff {s : String} : altered? s = none ↔ s.toList.any isSpecial = false := by
  unfold altered?
  split <;> simp_all

theorem escape_eq_self_iff {s : String} : escape s = s ↔ s.toList.any isSpecial = false := by
  rw [← String.toList_inj, toList_escape, escapeChars_eq_self_iff]

theorem escape_append (s t : String) : escape (s ++ t) = escape s ++ escape t := by
  apply String.toList_inj.mp
  rw [String.toList_append, toList_escape, toList_escape, toList_escape, String.toList_append]
  exact List.flatMap_append

/-- Escaping a text can be undone, leaves no special character in it but the ampersands that begin
an entity, goes piece by piece, and is spared if and only if it would change nothing. -/
theorem escape_reversible (s t : String) :
    unescape (escape s) = s ∧
      (∀ c ∈ ['<', '>', '"', '\''], c ∉ (escape s).toList) ∧
      (∀ before after, (escape s).toList = before ++ '&' :: after →
        ∃ name ∈ Xml.entityNames, name.toList ++ [';'] <+: after) ∧
      escape (s ++ t) = escape s ++ escape t ∧
      escape s = String.ofList (s.toList.flatMap escapeChar) ∧
      (altered? s = none ↔ escape s = s) ∧
      (escape s = s ↔ ∀ c ∈ ['&', '<', '>', '"', '\''], c ∉ s.toList) := by
  have hquotable := quotable_escape s
  have hmarks : ∀ c ∈ ['<', '>', '"', '\''], isSpecial c = true ∧ c ≠ '&' := by
    intro c hc
    refine ⟨isSpecial_iff.mpr (List.mem_cons_of_mem _ hc), ?_⟩
    rintro rfl
    exact absurd hc (by decide)
  refine ⟨?_, fun c hc hmem => ?_, fun before after htext => ?_, escape_append s t, ?_, ?_, ?_⟩
  · rw [unescape, toList_escape, unescapeChars_escapeChars, String.ofList_toList]
  · exact (hmarks c hc).2 (hquotable.unmarked c hmem (hmarks c hc).1)
  · exact (htext ▸ hquotable.data).reference_of_append
  · rw [← escapeChars, ← toList_escape, String.ofList_toList]
  · rw [altered?_eq_none_iff, escape_eq_self_iff]
  · rw [escape_eq_self_iff, List.any_eq_false]
    exact ⟨fun h c hc hmem => h c hmem (isSpecial_iff.mpr hc),
      fun h c hmem hspecial => h c (isSpecial_iff.mp hspecial) hmem⟩

/-- What was escaped before is escaped again, and comes back with one pass. -/
example : escape "&lt;" = "&amp;lt;" ∧ unescape "&amp;lt;" = "&lt;" := by decide

end Markup

end PoliteCrawl

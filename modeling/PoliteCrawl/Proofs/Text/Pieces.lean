import Mathlib.Data.List.DropRight
import PoliteCrawl.Text.Blank

namespace PoliteCrawl.Text

section Trim

variable {α : Type} {p : α → Bool}

theorem trimBy_eq (cs : List α) : trimBy p cs = (cs.dropWhile p).rdropWhile p := rfl

theorem rdropWhile_append_cons {xs ys : List α} {c : α} (h : ¬ p c) :
    (xs ++ c :: ys).rdropWhile p = xs ++ c :: ys.rdropWhile p := by
  induction ys using List.reverseRecOn with
  | nil => rw [List.rdropWhile_concat_neg p xs c h, List.rdropWhile_nil]
  | append_singleton ys y ih =>
    rw [← List.cons_append, ← List.append_assoc]
    by_cases hy : p y
    · rw [List.rdropWhile_concat_pos p _ y hy, List.rdropWhile_concat_pos p _ y hy, ih]
    · rw [List.rdropWhile_concat_neg p _ y hy, List.rdropWhile_concat_neg p _ y hy,
        List.append_assoc, List.cons_append]

theorem rdropWhile_cons {c : α} (h : ¬ p c) (ys : List α) :
    (c :: ys).rdropWhile p = c :: ys.rdropWhile p := by
  rw [← List.nil_append (c :: ys), rdropWhile_append_cons h, List.nil_append]

/-- It does not matter which end is trimmed first. -/
theorem dropWhile_rdropWhile (cs : List α) :
    (cs.rdropWhile p).dropWhile p = (cs.dropWhile p).rdropWhile p := by
  have hcut := List.takeWhile_append_dropWhile (p := p) (l := cs)
  cases hrest : cs.dropWhile p with
  | nil =>
    have hall := List.dropWhile_eq_nil_iff.mp hrest
    rw [List.rdropWhile_eq_nil_iff.mpr hall]
    simp
  | cons c ys =>
    have hc : ¬ p c := by
      have hne : cs.dropWhile p ≠ [] := by simp [hrest]
      simpa [hrest] using List.head_dropWhile_not p hne
    have hblank : ∀ d ∈ cs.takeWhile p, p d := fun d hd => List.mem_takeWhile_imp hd
    rw [hrest] at hcut
    rw [← hcut, rdropWhile_append_cons hc, List.dropWhile_append_of_pos hblank,
      List.dropWhile_cons_of_neg hc, rdropWhile_cons hc]

theorem trimBy_rdropWhile (cs : List α) : trimBy p (cs.rdropWhile p) = trimBy p cs := by
  rw [trimBy_eq, dropWhile_rdropWhile, List.rdropWhile_idempotent]
  rfl

@[simp] theorem trimBy_trimBy (cs : List α) : trimBy p (trimBy p cs) = trimBy p cs := by
  rw [trimBy_eq cs, trimBy_rdropWhile, trimBy_eq, List.dropWhile_idempotent]

/-- What begins and ends with no blank is as it is. -/
theorem trimBy_of_ends {cs : List α} (hhead : ∀ c ∈ cs.head?, ¬ p c)
    (hlast : ∀ c ∈ cs.getLast?, ¬ p c) : trimBy p cs = cs := by
  have hdrop : cs.dropWhile p = cs := by
    cases cs with
    | nil => rfl
    | cons c cs => exact List.dropWhile_cons_of_neg (hhead c rfl)
  rw [trimBy_eq, hdrop, List.rdropWhile_eq_self_iff]
  intro hne
  exact hlast _ (List.getLast?_eq_some_getLast hne)

theorem trimBy_of_forall_not {cs : List α} (h : ∀ c ∈ cs, ¬ p c) : trimBy p cs = cs :=
  trimBy_of_ends (fun c hc => h c (List.mem_of_mem_head? hc))
    fun c hc => h c (List.mem_of_getLast? hc)

theorem mem_dropWhile_of_not {cs : List α} {c : α} (hc : c ∈ cs) (h : ¬ p c) :
    c ∈ cs.dropWhile p := by
  rw [← List.takeWhile_append_dropWhile (p := p) (l := cs)] at hc
  exact (List.mem_append.mp hc).resolve_left fun hblank => h (List.mem_takeWhile_imp hblank)

/-- Only blanks are trimmed. -/
theorem mem_trimBy_of_not {cs : List α} {c : α} (hc : c ∈ cs) (h : ¬ p c) : c ∈ trimBy p cs := by
  rw [trimBy, List.mem_reverse]
  exact mem_dropWhile_of_not (List.mem_reverse.mpr (mem_dropWhile_of_not hc h)) h

theorem getLast?_trimBy_not {cs : List α} : ∀ c ∈ (trimBy p cs).getLast?, ¬ p c := by
  intro c hc
  have hne : trimBy p cs ≠ [] := by
    intro hnil
    rw [hnil] at hc
    cases hc
  rw [List.getLast?_eq_some_getLast hne] at hc
  cases hc
  exact List.rdropWhile_last_not p _ hne

end Trim

theorem trimChars_append_cons {key value : List Char} {c : Char}
    (hhead : ∀ d ∈ key.head?, isBlank d = false) (hkey : key ≠ []) (hc : isBlank c = false) :
    trimChars (key ++ c :: value) = key ++ c :: value.rdropWhile isBlank := by
  cases key with
  | nil => exact absurd rfl hkey
  | cons d key =>
    have hd : ¬ isBlank d := by simpa using hhead d rfl
    rw [trimChars, trimBy_eq, List.cons_append, List.dropWhile_cons_of_neg hd, ← List.cons_append,
      rdropWhile_append_cons (by simpa using hc)]

section Lines

variable {α : Type} [BEq α] {sep : α}

theorem splitOnEach_ne_nil (sep : α) (cs : List α) : splitOnEach sep cs ≠ [] := by
  cases cs with
  | nil => simp [splitOnEach]
  | cons c cs =>
    unfold splitOnEach
    split
    · simp
    · split <;> simp

variable [LawfulBEq α]

theorem splitOnEach_of_notMem {cs : List α} (h : sep ∉ cs) : splitOnEach sep cs = [cs] := by
  induction cs with
  | nil => rfl
  | cons c cs ih =>
    rw [List.mem_cons, not_or] at h
    have hc : ¬ (c == sep) = true := by simpa using Ne.symm h.1
    rw [splitOnEach, if_neg hc, ih h.2]

theorem splitOnEach_append {piece : List α} (rest : List α) (h : sep ∉ piece) :
    splitOnEach sep (piece ++ sep :: rest) = piece :: splitOnEach sep rest := by
  induction piece with
  | nil => simp [splitOnEach]
  | cons c piece ih =>
    rw [List.mem_cons, not_or] at h
    have hc : ¬ (c == sep) = true := by simpa using Ne.symm h.1
    rw [List.cons_append, splitOnEach, if_neg hc, ih h.2]

theorem isSome_splitOnce (sep cs : List α) : (splitOnce sep cs).isSome = true ↔ sep <:+: cs := by
  induction cs with
  | nil => by_cases hsep : sep = [] <;> simp [splitOnce, hsep]
  | cons c cs ih =>
    rw [splitOnce, List.infix_cons_iff, ← ih, ← List.isPrefixOf_iff_prefix]
    by_cases hhead : sep.isPrefixOf (c :: cs) = true <;> simp [hhead]

/-- Induction on the pieces of a list: the last one, and one with a separator behind it. -/
theorem induction_on_pieces (sep : α) {motive : List α → Prop}
    (last : ∀ piece, sep ∉ piece → motive piece)
    (next : ∀ piece rest, sep ∉ piece → motive rest → motive (piece ++ sep :: rest))
    (cs : List α) : motive cs := by
  induction hlength : cs.length using Nat.strong_induction_on generalizing cs with
  | _ n ih =>
    by_cases hmem : sep ∈ cs
    · obtain ⟨piece, rest, rfl, hpiece⟩ := List.eq_append_cons_of_mem hmem
      apply next piece rest hpiece
      apply ih rest.length _ rest rfl
      rw [← hlength, List.length_append, List.length_cons]
      omega
    · exact last cs hmem

end Lines

section Cut

variable {α : Type}

/-- Whether a separator begins at the start of a list does not depend on the last member of another
one further on. -/
theorem prefix_append_dropLast_iff {sep front : List α} (hsep : sep ≠ []) (hfront : front ≠ [])
    (after : List α) : sep <+: front ++ sep.dropLast ↔ sep <+: front ++ sep ++ after := by
  have hwhole : sep.dropLast ++ [sep.getLast hsep] = sep := List.dropLast_append_getLast hsep
  have hcut : front ++ sep ++ after =
      (front ++ sep.dropLast) ++ ([sep.getLast hsep] ++ after) := by
    rw [← List.append_assoc, List.append_assoc front sep.dropLast, hwhole]
  have hlength : sep.length ≤ (front ++ sep.dropLast).length := by
    have hpos := List.length_pos_of_ne_nil hfront
    rw [List.length_append, List.length_dropLast]
    omega
  rw [hcut]
  exact ⟨fun h => h.trans (List.prefix_append _ _),
    fun h => List.prefix_of_prefix_length_le h (List.prefix_append _ _) hlength⟩

variable [BEq α] [LawfulBEq α]

/-- A list is cut where the separator occurs first, so that no occurrence begins before. -/
theorem splitOnce_of_first {sep before : List α} (hsep : sep ≠ []) (after : List α)
    (hfirst : ¬ sep <:+: before ++ sep.dropLast) :
    splitOnce sep (before ++ sep ++ after) = some (before, after) := by
  induction before with
  | nil =>
    have hprefix : sep.isPrefixOf (sep ++ after) = true :=
      List.isPrefixOf_iff_prefix.mpr (List.prefix_append sep after)
    obtain ⟨c, cs, rfl⟩ := List.exists_cons_of_ne_nil hsep
    rw [List.nil_append, List.cons_append, splitOnce, ← List.cons_append, if_pos hprefix,
      List.drop_left]
  | cons c before ih =>
    have hrest : ¬ sep <:+: before ++ sep.dropLast := fun h =>
      hfirst (h.trans (List.suffix_cons c _).isInfix)
    have hhead : ¬ sep.isPrefixOf (c :: (before ++ sep ++ after)) = true := by
      intro h
      rw [List.isPrefixOf_iff_prefix] at h
      have hprefix := (prefix_append_dropLast_iff hsep (List.cons_ne_nil c before) after).mpr h
      exact hfirst hprefix.isInfix
    rw [List.cons_append, List.cons_append, splitOnce, if_neg hhead, ih hrest, Option.map_some]

theorem splitOnce_eq_some {sep cs before after : List α} (hsep : sep ≠ [])
    (h : splitOnce sep cs = some (before, after)) :
    cs = before ++ sep ++ after ∧ ¬ sep <:+: before ++ sep.dropLast := by
  induction cs generalizing before with
  | nil => simp [splitOnce, hsep] at h
  | cons c cs ih =>
    rw [splitOnce] at h
    split at h
    · rename_i hhead
      obtain ⟨rest, hrest⟩ := List.isPrefixOf_iff_prefix.mp hhead
      cases h
      rw [← hrest, List.drop_left]
      refine ⟨rfl, fun hinfix => ?_⟩
      have hlength := hinfix.length_le
      have hpos := List.length_pos_of_ne_nil hsep
      rw [List.nil_append, List.length_dropLast] at hlength
      omega
    · rename_i hhead
      obtain ⟨⟨front, back⟩, hcut, heq⟩ := Option.map_eq_some_iff.mp h
      cases heq
      obtain ⟨rfl, hfirst⟩ := ih hcut
      refine ⟨rfl, fun hinfix => ?_⟩
      rcases List.infix_cons_iff.mp hinfix with hprefix | hinfix
      · apply hhead
        rw [List.isPrefixOf_iff_prefix]
        exact (prefix_append_dropLast_iff hsep (List.cons_ne_nil c front) back).mp hprefix
      · exact hfirst hinfix

end Cut

theorem lines_of_notMem {cs : List Char} (h : '\n' ∉ cs) :
    lines cs = if cs = [] then [] else [cs] := by
  unfold lines
  rw [splitOnEach_of_notMem h]
  by_cases hcs : cs = [] <;> simp [hcs]

theorem lines_append {piece : List Char} (rest : List Char) (h : '\n' ∉ piece) :
    lines (piece ++ '\n' :: rest) = dropReturn piece :: lines rest := by
  have hne := splitOnEach_ne_nil '\n' rest
  unfold lines
  rw [splitOnEach_append rest h]
  simp only [List.dropLast_cons_of_ne_nil hne, List.map_cons, List.cons_append,
    List.getLast?_cons_of_ne_nil hne]

/-- Lines that are each ended by a line feed are there again. -/
theorem lines_flatMap {ls : List (List Char)}
    (h : ∀ line ∈ ls, '\n' ∉ line ∧ line.getLast? ≠ some '\r') :
    lines (ls.flatMap (· ++ ['\n'])) = ls := by
  induction ls with
  | nil => rfl
  | cons line ls ih =>
    obtain ⟨hline, hreturn⟩ := h line List.mem_cons_self
    have hrest := ih fun line hmem => h line (List.mem_cons_of_mem _ hmem)
    have hdrop : dropReturn line = line := if_neg hreturn
    rw [List.flatMap_cons, List.append_assoc, List.singleton_append, lines_append _ hline, hrest,
      hdrop]

end PoliteCrawl.Text

import Mathlib
import PoliteCrawl.Proofs.Robots.Fields
import PoliteCrawl.Proofs.Text.Bytes
import PoliteCrawl.Settings.Valid

namespace PoliteCrawl

section Characters

variable {c : Char}

theorem toNat_lt_of_isAgentChar (h : isAgentChar c) : c.toNat < 128 := by
  simp only [isAgentChar, Char.isAlphanum, Char.isAlpha, Char.isUpper, Char.isLower, Char.isDigit,
    Bool.or_eq_true, Bool.and_eq_true, decide_eq_true_eq, beq_iff_eq, UInt32.le_iff_toNat_le,
    ge_iff_le] at h
  change c.val.toNat < 128
  rcases h with (((h | h) | h) | rfl) | rfl
  · exact Nat.lt_of_le_of_lt h.2 (by decide)
  · exact Nat.lt_of_le_of_lt h.2 (by decide)
  · exact Nat.lt_of_le_of_lt h.2 (by decide)
  · decide
  · decide

/-- What holds of every ASCII character that a crawler's name may have holds of all of them. -/
theorem of_isAgentChar {P : Char → Prop} (hall : ∀ n < 128, isAgentChar (Char.ofNat n) →
    P (Char.ofNat n)) (h : isAgentChar c) : P c := by
  have hc := hall c.toNat (toNat_lt_of_isAgentChar h)
  rw [Char.ofNat_toNat] at hc
  exact hc h

/-- A character that neither ends a line or a value nor stands for anything else. -/
structure IsPlain (c : Char) : Prop where
  notComment : c ≠ '#'
  notStar : c ≠ '*'
  notReturn : c ≠ '\r'
  notBlank : Text.isBlank c = false
  oneByte : c.utf8Size = 1

theorem isPlain_of_isAgentChar (h : isAgentChar c) : IsPlain c := by
  have hplain := of_isAgentChar (P := fun c => c ≠ '#' ∧ c ≠ '*' ∧ c ≠ '\r' ∧
    Text.isBlank c = false ∧ c.utf8Size = 1) (by decide) h
  obtain ⟨hcomment, hstar, hreturn, hblank, hbyte⟩ := hplain
  exact ⟨hcomment, hstar, hreturn, hblank, hbyte⟩

/-- A digit may be in a crawler's name, but not in one that a robots file gives. -/
theorem isNameChar_iff (h : isAgentChar c) : Robots.isNameChar c = true ↔ c.isDigit = false :=
  of_isAgentChar (P := fun c => Robots.isNameChar c = true ↔ c.isDigit = false) (by decide) h

end Characters

/-- The name of settings that make sense has a character, and only such as a name may have. -/
theorem Settings.name_of_validate {s : Settings} (h : s.validate = .ok ()) :
    s.agent.name ≠ "" ∧ ∀ c ∈ s.agent.name.toList, isAgentChar c := by
  cases hagent : s.agent.violation? with
  | some v =>
    have hsome : ∃ v, (s.fetch.violation? <|> s.politeness.violation? <|> s.agent.violation?) =
        some v := by
      rw [hagent]
      cases s.fetch.violation? <;> cases s.politeness.violation? <;> exact ⟨_, rfl⟩
    obtain ⟨v, hv⟩ := hsome
    rw [Settings.validate, hv] at h
    cases h
  | none =>
    unfold AgentSettings.violation? at hagent
    split at hagent
    · cases hagent
    · rename_i hname
      split at hagent
      · cases hagent
      · rename_i hall
        exact ⟨hname, by simpa using hall⟩

namespace Robots

theorem fieldValue_of_plain {value : List Char}
    (h : ∀ c ∈ value, c ≠ '#' ∧ Text.isBlank c = false) : fieldValue value = value := by
  have hwhole : value.takeWhile (· ≠ '#') = value :=
    List.takeWhile_eq_self_iff.mpr fun c hc => by simpa using (h c hc).1
  rw [fieldValue, hwhole]
  exact Text.trimBy_of_forall_not fun c hc => by simpa using (h c hc).2

section Names

variable {agent : String} (hchars : ∀ c ∈ agent.toList, isAgentChar c)

/-- How many characters of an agent's name fit on a line. -/
def longestName : Nat := longestLine - ("User-agent".toList.length + 2)

include hchars

theorem shownValue_name : shownValue "User-agent" agent.toList = agent.toList.take longestName := by
  rw [shownValue, withinBytes_eq_take _ fun c hc => (isPlain_of_isAgentChar (hchars c hc)).oneByte]
  apply fieldValue_of_plain
  intro c hc
  have hplain := isPlain_of_isAgentChar (hchars c (List.mem_of_mem_take hc))
  exact ⟨hplain.notComment, hplain.notBlank⟩

theorem isEveryone_name : isEveryone (shownValue "User-agent" agent.toList) = false := by
  rw [shownValue_name hchars]
  cases hseen : agent.toList.take longestName with
  | nil => rfl
  | cons c rest =>
    have hmem : c ∈ agent.toList := List.mem_of_mem_take (hseen ▸ List.mem_cons_self)
    have hstar := (isPlain_of_isAgentChar (hchars c hmem)).notStar
    unfold isEveryone
    split
    · rename_i heq
      exact absurd (List.cons.inj heq).1 hstar
    · rfl

/-- A name is recognized where it stands in full unless it has a digit or is too long. -/
theorem names_iff : names agent (shownValue "User-agent" agent.toList) = true ↔
    (∀ c ∈ agent.toList, c.isDigit = false) ∧ agent.toList.length ≤ longestName := by
  have hlower : ∀ cs : List Char, cs.takeWhile isNameChar = agent.toList →
      names agent cs = true := fun cs hcs => by simp [names, hcs]
  rw [shownValue_name hchars]
  constructor
  · -- Names that are alike but for case are as long, so nothing has been cut off.
    intro hnames
    have hlength : ((agent.toList.take longestName).takeWhile isNameChar).length =
        agent.toList.length := by
      have hmap := congrArg List.length (of_decide_eq_true hnames)
      simpa using hmap
    have hprefix : (agent.toList.take longestName).takeWhile isNameChar <+: agent.toList :=
      (List.takeWhile_prefix _).trans (List.take_prefix _ _)
    have hwhole := hprefix.eq_of_length hlength
    constructor
    · intro c hc
      have hname : isNameChar c = true := List.mem_takeWhile_imp (hwhole ▸ hc)
      exact (isNameChar_iff (hchars c hc)).mp hname
    · have hle := (List.takeWhile_prefix isNameChar (l := agent.toList.take longestName)).length_le
      rw [hlength, List.length_take] at hle
      omega
  · rintro ⟨hdigits, hlength⟩
    rw [List.take_of_length_le hlength]
    apply hlower
    exact List.takeWhile_eq_self_iff.mpr fun c hc =>
      (isNameChar_iff (hchars c hc)).mpr (hdigits c hc)

end Names

section Files

variable {r : Robots} {agent address : String}

/-- What access rules say of a file that begins with an agent. -/
theorem allows_of_lines {value : List Char} {rest : List (List Char)}
    (hlines : r.lines = fieldLine "User-agent" value :: rest)
    (hreturn : ∀ line ∈ r.lines, '\r' ∉ line) :
    r.allows agent address = !((r.lines.filterMap fun line =>
      Directive.ofLine? (withinBytes longestLine line)).foldl
        (Reading.step agent (pathOf address)) {}).denies := by
  have hhead : r.content.toList.head? = some 'U' := head?_of_lines hlines rfl
  have htext : Text.trimChars r.content.toList ≠ [] := by
    cases hcontent : r.content.toList with
    | nil =>
      rw [hcontent] at hhead
      cases hhead
    | cons c cs =>
      rw [hcontent] at hhead
      cases hhead
      rw [Text.trimChars, Text.trimBy_eq, List.dropWhile_cons_of_neg (by decide),
        Text.rdropWhile_cons (by decide)]
      exact List.cons_ne_nil _ _
  have hmark : r.content.toList.head? ≠ some '\u00ef' := by
    rw [hhead]
    decide
  rw [allows, if_neg htext, directives_eq hreturn hmark]

/-- Every address has a path. -/
theorem pathOf_eq_cons (address : String) : ∃ rest, pathOf address = slash :: rest := by
  unfold pathOf
  dsimp only
  split
  · exact ⟨[], rfl⟩
  · rename_i rest _
    have hslash : String.utf8EncodeChar '/' = [slash] := by decide
    rw [Text.bytes_ofList, List.flatMap_cons, hslash]
    exact ⟨_, rfl⟩
  · exact ⟨_, rfl⟩

theorem disallowLength_slash (address : String) :
    Reading.disallowLength (pathOf address) [slash] = 1 := by
  obtain ⟨rest, hrest⟩ := pathOf_eq_cons address
  rw [hrest]
  simp [Reading.disallowLength, pathMatches, matchesAny, slash, dollar, star]

end Files

/-- The line that forbids everything. -/
theorem directive_disallow_all :
    Directive.ofLine? (withinBytes longestLine (fieldLine "Disallow" ['/'])) =
      some (.disallow [slash]) := by
  have hpattern : patternOf (shownValue "Disallow" ['/']) = [slash] := by decide +kernel
  rw [directive_disallow, hpattern]

end Robots

end PoliteCrawl

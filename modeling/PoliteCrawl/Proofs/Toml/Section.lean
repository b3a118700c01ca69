import Mathlib.Data.List.Basic
import PoliteCrawl.Toml.Document

namespace PoliteCrawl.Toml

def IsUnescaped (c : Char) : Prop := isPlain c = true ∧ c ≠ '"' ∧ c ≠ '\\'

section Quoted

variable {cs : List Char}

theorem readBasic_unescaped (h : ∀ c ∈ cs, IsUnescaped c) (rest : List Char) {fuel : Nat}
    (hfuel : cs.length < fuel) : readBasic fuel (cs ++ '"' :: rest) = some (cs, rest) := by
  induction cs generalizing fuel with
  | nil =>
    cases fuel with
    | zero => exact absurd hfuel (Nat.not_lt_zero _)
    | succ fuel => rfl
  | cons c cs ih =>
    cases fuel with
    | zero => exact absurd hfuel (Nat.not_lt_zero _)
    | succ fuel =>
      obtain ⟨hplain, hquote, hbackslash⟩ := h c List.mem_cons_self
      have hrest := ih (fun d hd => h d (List.mem_cons_of_mem _ hd)) (Nat.lt_of_succ_lt_succ hfuel)
      rw [List.cons_append, readBasic]
      · rw [if_pos hplain, hrest]
        rfl
      · simpa using hquote
      · simpa using hbackslash

theorem readQuoted_unescaped (hne : cs ≠ []) (h : ∀ c ∈ cs, IsUnescaped c) (rest : List Char) :
    readQuoted ('"' :: (cs ++ '"' :: rest)) = some (cs, rest) := by
  obtain ⟨c, cs, rfl⟩ := List.exists_cons_of_ne_nil hne
  have hquote := (h c List.mem_cons_self).2.1
  rw [List.cons_append, readQuoted]
  · rw [← List.cons_append]
    exact readBasic_unescaped h rest (by rw [List.length_append]; omega)
  · intro rest' heq
    exact hquote (List.cons.inj heq).1

end Quoted

section Key

structure IsBareKey (key : List Char) : Prop where
  nonempty : key ≠ []
  chars : ∀ c ∈ key, isBareKeyChar c = true

variable {key rest : List Char}

theorem IsBareKey.head_ne (h : IsBareKey key) {c : Char} (hc : isBareKeyChar c = false)
    (tail : List Char) : key ++ rest ≠ c :: tail := by
  obtain ⟨d, cs, rfl⟩ := List.exists_cons_of_ne_nil h.nonempty
  intro heq
  have hd := h.chars d List.mem_cons_self
  rw [(List.cons.inj heq).1, hc] at hd
  cases hd

theorem readSimpleKey_bare (h : IsBareKey key) (hrest : ∀ c ∈ rest.head?, isBareKeyChar c = false) :
    readSimpleKey (key ++ rest) = some (key, rest) := by
  have htake : (key ++ rest).takeWhile isBareKeyChar = key := by
    rw [List.takeWhile_append_of_pos h.chars]
    cases rest with
    | nil => simp
    | cons c rest =>
      have hc := hrest c rfl
      rw [List.takeWhile_cons_of_neg (by simp [hc]), List.append_nil]
  unfold readSimpleKey
  split
  · rename_i heq
    exact absurd heq (h.head_ne rfl _)
  · rename_i heq
    exact absurd heq (h.head_ne rfl _)
  · rw [htake]
    simp [h.nonempty]

theorem not_isSpace_of_isBareKeyChar {c : Char} (h : isBareKeyChar c = true) : ¬ isSpace c := by
  intro hspace
  rw [isSpace, Bool.or_eq_true, beq_iff_eq, beq_iff_eq] at hspace
  rcases hspace with rfl | rfl <;> cases h

theorem readKey_bare (h : IsBareKey key) (hrest : ∀ c ∈ rest.head?, isBareKeyChar c = false)
    (hpoint : ∀ tail, rest.dropWhile isSpace ≠ '.' :: tail) :
    readKey (key ++ rest) = some (([], String.ofList key), rest.dropWhile isSpace) := by
  have hspace : (key ++ rest).dropWhile isSpace = key ++ rest := by
    obtain ⟨d, cs, rfl⟩ := List.exists_cons_of_ne_nil h.nonempty
    exact List.dropWhile_cons_of_neg
      (not_isSpace_of_isBareKeyChar (h.chars d List.mem_cons_self))
  have hparts : readKeyParts ((key ++ rest).length + 1) (key ++ rest) =
      some ([String.ofList key], rest.dropWhile isSpace) := by
    rw [readKeyParts, hspace, readSimpleKey_bare h hrest]
    dsimp only
    split
    · rename_i tail htail
      exact absurd htail (hpoint tail)
    · rfl
  rw [readKey, hparts]
  rfl

end Key

def pairLine (key text : List Char) : List Char :=
  key ++ ' ' :: '=' :: ' ' :: '"' :: (text ++ ['"', '\n'])

def headerLine (key comment : List Char) : List Char :=
  '[' :: (key ++ ']' :: ' ' :: ' ' :: '#' :: (comment ++ ['\n']))

section Statement

variable {key text comment : List Char}

theorem readStatement_pair (hkey : IsBareKey key) (hne : text ≠ [])
    (htext : ∀ c ∈ text, IsUnescaped c) (rest : List Char) :
    readStatement (pairLine key text ++ rest) =
      some (.pair [] (String.ofList key) (.text (String.ofList text)), '\n' :: rest) := by
  have hline : pairLine key text ++ rest =
      key ++ ' ' :: '=' :: ' ' :: '"' :: (text ++ '"' :: '\n' :: rest) := by
    simp [pairLine]
  have hread : readKey (key ++ ' ' :: '=' :: ' ' :: '"' :: (text ++ '"' :: '\n' :: rest)) =
      some (([], String.ofList key), '=' :: ' ' :: '"' :: (text ++ '"' :: '\n' :: rest)) := by
    apply readKey_bare hkey
    · simp [isBareKeyChar]
    · rintro tail ⟨⟩
  rw [hline]
  unfold readStatement
  split
  · rename_i heq
    exact absurd heq (hkey.head_ne rfl _)
  · rename_i heq
    exact absurd heq (hkey.head_ne rfl _)
  · have hvalue : ∀ fuel, readValue 0 (fuel + 1) ('"' :: (text ++ '"' :: '\n' :: rest)) =
        some (.text (String.ofList text), '\n' :: rest) := by
      intro fuel
      rw [readValue, readQuoted_unescaped hne htext]
      rfl
    rw [hread]
    exact congrArg (Option.map _) (hvalue _)

theorem readStatement_header (hkey : IsBareKey key) (rest : List Char) :
    readStatement ('[' :: (key ++ ']' :: rest)) = some (.header [] (String.ofList key), rest) := by
  have hread : readKey (key ++ ']' :: rest) = some (([], String.ofList key), ']' :: rest) := by
    apply readKey_bare hkey
    · simp [isBareKeyChar]
    · rintro tail ⟨⟩
  unfold readStatement
  split
  · rename_i heq
    exact absurd (List.cons.inj heq).2 (hkey.head_ne rfl _)
  · rename_i heq
    rw [← (List.cons.inj heq).2, hread]
    rfl
  · rename_i hother
    exact absurd rfl (hother _)

theorem afterStatement?_comment (h : ∀ c ∈ comment, isPlain c = true) (rest : List Char) :
    afterStatement? (' ' :: ' ' :: '#' :: (comment ++ '\n' :: rest)) = some rest := by
  have hcomment : (comment ++ '\n' :: rest).dropWhile isPlain = '\n' :: rest := by
    rw [List.dropWhile_append_of_pos h]
    rfl
  have hafter : afterComment? ('#' :: (comment ++ '\n' :: rest)) = some ('\n' :: rest) := by
    rw [afterComment?, hcomment]
    rfl
  have hspace : (' ' :: ' ' :: '#' :: (comment ++ '\n' :: rest)).dropWhile isSpace =
      '#' :: (comment ++ '\n' :: rest) := rfl
  rw [afterStatement?, hspace, hafter]
  rfl

def IsOpening (c : Char) : Prop := isBareKeyChar c = true ∨ c = '['

theorem skipBetween_of_opening {c : Char} (h : IsOpening c) (fuel : Nat) (cs : List Char) :
    skipBetween fuel (c :: cs) = some (c :: cs) := by
  cases fuel with
  | zero => rfl
  | succ fuel =>
    have hne : ∀ d, isBareKeyChar d = false → d ≠ '[' → c ≠ d := by
      rintro d hd hbracket rfl
      rcases h with h | h
      · rw [hd] at h
        cases h
      · exact hbracket h
    rw [skipBetween]
    all_goals
      intro tail heq
      exact hne _ (by decide) (by decide) (List.cons.inj heq).1

theorem readStatements_of_statement {c : Char} {cs after rest : List Char} {statement : Statement}
    (hc : IsOpening c) (hread : readStatement (c :: cs) = some (statement, after))
    (hafter : afterStatement? after = some rest) (fuel : Nat) :
    readStatements (fuel + 1) (c :: cs) = (readStatements fuel rest).map (statement :: ·) := by
  rw [readStatements, skipBetween_of_opening hc]
  dsimp only
  rw [hread]
  dsimp only
  rw [hafter]

theorem readStatements_pair (hkey : IsBareKey key) (hne : text ≠ [])
    (htext : ∀ c ∈ text, IsUnescaped c) (fuel : Nat) (rest : List Char) :
    readStatements (fuel + 1) (pairLine key text ++ rest) =
      (readStatements fuel rest).map
        (.pair [] (String.ofList key) (.text (String.ofList text)) :: ·) := by
  have hread := readStatement_pair hkey hne htext rest
  obtain ⟨c, cs, rfl⟩ := List.exists_cons_of_ne_nil hkey.nonempty
  exact readStatements_of_statement (.inl (hkey.chars c List.mem_cons_self)) hread rfl fuel

theorem readStatements_header (hkey : IsBareKey key) (hcomment : ∀ c ∈ comment, isPlain c = true)
    (fuel : Nat) (rest : List Char) :
    readStatements (fuel + 1) (headerLine key comment ++ rest) =
      (readStatements fuel rest).map (.header [] (String.ofList key) :: ·) := by
  have hline : headerLine key comment ++ rest =
      '[' :: (key ++ ']' :: ' ' :: ' ' :: '#' :: (comment ++ '\n' :: rest)) := by
    simp [headerLine]
  rw [hline]
  exact readStatements_of_statement (.inr rfl) (readStatement_header hkey _)
    (afterStatement?_comment hcomment rest) fuel

end Statement

section Document

variable {header comment firstKey first secondKey second : List Char}

/-- A header, two pairs and an empty line below. -/
def sectionText (header comment firstKey first secondKey second : List Char) : List Char :=
  headerLine header comment ++ (pairLine firstKey first ++ (pairLine secondKey second ++ ['\n']))

theorem readStatements_section (hheader : IsBareKey header) (hfirstKey : IsBareKey firstKey)
    (hsecondKey : IsBareKey secondKey) (hcomment : ∀ c ∈ comment, isPlain c = true)
    (hfirst : first ≠ [] ∧ ∀ c ∈ first, IsUnescaped c)
    (hsecond : second ≠ [] ∧ ∀ c ∈ second, IsUnescaped c) {fuel : Nat} (hfuel : 4 ≤ fuel) :
    readStatements fuel (sectionText header comment firstKey first secondKey second) =
      some [.header [] (String.ofList header),
        .pair [] (String.ofList firstKey) (.text (String.ofList first)),
        .pair [] (String.ofList secondKey) (.text (String.ofList second))] := by
  obtain ⟨fuel, rfl⟩ := Nat.exists_eq_add_of_le' hfuel
  rw [sectionText, readStatements_header hheader hcomment,
    readStatements_pair hfirstKey hfirst.1 hfirst.2,
    readStatements_pair hsecondKey hsecond.1 hsecond.2]
  rfl

end Document

end PoliteCrawl.Toml

import Mathlib.Data.List.Basic
import PoliteCrawl.Json.Shallow

namespace PoliteCrawl

namespace Json

/-- A character as it stands between quotes is read as its code point. -/
theorem readPoints_escapeChar (c : Char) (rest : List Char) :
    readPoints (escapeChar c ++ rest) =
      (readPoints rest).map fun (points, rest) => (c.toNat :: points, rest) := by
  unfold escapeChar
  split
  case h_8 hquote hbackslash _ _ _ _ _ =>
    split
    · -- The remaining control characters are written as four digits.
      rename_i hcontrol
      have hall : ∀ n < 32, Text.Hex.toNat? (Text.Hex.ofNat 4 n) = some n := by decide
      have hread := hall c.toNat hcontrol
      simp only [Text.Hex.ofNat, List.nil_append, List.cons_append] at hread ⊢
      rw [readPoints, hread]
      cases readPoints rest <;> rfl
    · rename_i hcontrol
      have hplain : ¬ (c = '\\' ∨ c.toNat < 0x20) := fun h => h.elim hbackslash hcontrol
      rw [List.singleton_append, readPoints, if_neg hplain]
      · exact hquote
      · exact fun _ _ _ _ _ heq _ => hbackslash heq
      · exact fun _ _ heq _ => hbackslash heq
  all_goals
    simp only [List.cons_append, List.nil_append]
    rw [readPoints]
    · cases readPoints rest <;> rfl
    · simp

theorem readPoints_escaped (cs rest : List Char) :
    readPoints (cs.flatMap escapeChar ++ '"' :: rest) = some (cs.map Char.toNat, rest) := by
  induction cs with
  | nil => rfl
  | cons c cs ih =>
    rw [List.flatMap_cons, List.append_assoc, readPoints_escapeChar, ih]
    rfl

/-- No character is half of a surrogate pair. -/
theorem charsOf?_map_toNat (cs : List Char) : charsOf? (cs.map Char.toNat) = some cs := by
  induction cs with
  | nil => rfl
  | cons c cs ih =>
    have hvalid : c.toNat.isValidChar := c.valid
    cases cs with
    | nil => simp [charsOf?, hvalid]
    | cons d cs =>
      have hsingle : ¬ (0xd800 ≤ c.toNat ∧ c.toNat < 0xdc00 ∧
          0xdc00 ≤ d.toNat ∧ d.toNat < 0xe000) := by
        rcases hvalid with hlow | hhigh <;> omega
      rw [List.map_cons, List.map_cons, charsOf?, if_neg hsingle, if_pos hvalid,
        ← List.map_cons, ih]
      simp

theorem readToken?_quote (s : String) (rest : List Char) :
    readToken? (quote s ++ rest) = some (.text (some s), rest) := by
  have hquote : quote s ++ rest = '"' :: (s.toList.flatMap escapeChar ++ '"' :: rest) := by
    simp [quote]
  rw [hquote, readToken?, readPoints_escaped, Option.map_some]
  dsimp only
  rw [charsOf?_map_toNat, Option.map_some, String.ofList_toList]

end Json

namespace Decimal

theorem natOf_digitsOf (n : Nat) : natOf (digitsOf n) = n := by
  have hdigits := Nat.ofDigitChars_ten_toDigits (n := n)
  rw [Nat.ofDigitChars_eq_foldl] at hdigits
  simp only [Nat.mul_comm 10] at hdigits
  exact hdigits

theorem isDigit_of_mem_digitsOf {n : Nat} {c : Char} (h : c ∈ digitsOf n) : c.isDigit = true :=
  Nat.isDigit_of_mem_toDigits (by decide) (Nat.le_refl 10) h

/-- Only zero begins with a zero. -/
theorem head?_digitsOf {n : Nat} (h : n ≠ 0) : (digitsOf n).head? ≠ some '0' := by
  induction n using Nat.strongRecOn with
  | _ n ih =>
    by_cases hn : n < 10
    · have hall : ∀ k < 10, k ≠ 0 → Nat.digitChar k ≠ '0' := by decide
      rw [digitsOf, Nat.toDigits_of_lt_base hn]
      simpa using hall n hn h
    · have hrest := ih (n / 10) (by omega) (by omega)
      have hne : (Nat.toDigits 10 (n / 10)) ≠ [] := Nat.toDigits_ne_nil
      rw [digitsOf, Nat.toDigits_of_base_le (by decide) (by omega),
        List.head?_append_of_ne_nil _ hne]
      exact hrest

end Decimal

namespace Json

/-- A digit begins a number and nothing else. -/
theorem readToken?_digit {c : Char} (h : c.isDigit = true) (cs : List Char) :
    readToken? (c :: cs) = readNumber? (c :: cs) := by
  unfold readToken?
  split
  case h_11 => rfl
  all_goals
    rename_i heq
    cases heq
    exact absurd h (by decide)

/-- What may stand behind a number without becoming part of it. -/
def EndsNumber (rest : List Char) : Prop :=
  ∀ c ∈ rest.head?, c.isDigit = false ∧ c ≠ '.' ∧ c ≠ 'e' ∧ c ≠ 'E'

variable {rest : List Char}

theorem skipFraction?_of_ends (h : EndsNumber rest) : skipFraction? rest = some rest := by
  unfold skipFraction?
  split
  · exact absurd rfl (h '.' rfl).2.1
  · rfl

theorem skipExponent?_of_ends (h : EndsNumber rest) : skipExponent? rest = some rest := by
  unfold skipExponent?
  split
  · exact absurd rfl (h 'e' rfl).2.2.1
  · exact absurd rfl (h 'E' rfl).2.2.2
  · rfl

theorem takeDigits?_append {digits : List Char} (hdigits : ∀ c ∈ digits, c.isDigit = true)
    (hne : digits ≠ []) (h : EndsNumber rest) :
    takeDigits? (digits ++ rest) = some (digits, rest) := by
  have htake : rest.takeWhile Char.isDigit = [] ∧ rest.dropWhile Char.isDigit = rest := by
    cases rest with
    | nil => exact ⟨rfl, rfl⟩
    | cons c rest =>
      have hc : ¬ c.isDigit = true := by simp [(h c rfl).1]
      exact ⟨List.takeWhile_cons_of_neg hc, List.dropWhile_cons_of_neg hc⟩
  rw [takeDigits?, List.takeWhile_append_of_pos hdigits, List.dropWhile_append_of_pos hdigits,
    htake.1, htake.2, List.append_nil]
  cases digits with
  | nil => exact absurd rfl hne
  | cons c digits => rfl

theorem readNumber?_zero (h : EndsNumber rest) :
    readNumber? ('0' :: rest) = some (.natural 0, rest) := by
  simp [readNumber?, skipFraction?_of_ends h, skipExponent?_of_ends h, Decimal.natOf]

theorem readNumber?_digits {c : Char} {digits : List Char}
    (hdigits : ∀ d ∈ c :: digits, d.isDigit = true) (hzero : c ≠ '0') (h : EndsNumber rest) :
    readNumber? (c :: digits ++ rest) = some (.natural (Decimal.natOf (c :: digits)), rest) := by
  have hminus : c ≠ '-' := by
    rintro rfl
    exact absurd (hdigits '-' List.mem_cons_self) (by decide)
  have htake := takeDigits?_append hdigits (List.cons_ne_nil c digits) h
  rw [List.cons_append] at htake ⊢
  simp [readNumber?, hminus, hzero, htake, skipFraction?_of_ends h, skipExponent?_of_ends h]

theorem readToken?_digitsOf (n : Nat) (h : EndsNumber rest) :
    readToken? (Decimal.digitsOf n ++ rest) = some (.natural n, rest) := by
  have hdigits : ∀ c ∈ Decimal.digitsOf n, c.isDigit = true := fun c hc =>
    Decimal.isDigit_of_mem_digitsOf hc
  by_cases hn : n = 0
  · subst hn
    exact (readToken?_digit (by decide) rest).trans (readNumber?_zero h)
  · have hhead := Decimal.head?_digitsOf hn
    have hvalue := Decimal.natOf_digitsOf n
    cases hcons : Decimal.digitsOf n with
    | nil => exact absurd hcons Nat.toDigits_ne_nil
    | cons c digits =>
      rw [hcons] at hdigits hhead hvalue
      have hzero : c ≠ '0' := fun heq => hhead (congrArg some heq)
      rw [List.cons_append, readToken?_digit (hdigits c List.mem_cons_self), ← List.cons_append,
        readNumber?_digits hdigits hzero h, hvalue]

/-- A text has these tokens, however many steps its reading is given beyond its length. -/
def Lexes (cs : List Char) (tokens : List Token) : Prop :=
  ∀ fuel ≥ cs.length, tokensWithin fuel cs = some tokens

variable {cs : List Char} {tokens : List Token}

theorem Lexes.tokens? (h : Lexes cs tokens) : tokens? cs = some tokens := h _ (Nat.le_refl _)

theorem lexes_nil : Lexes [] [] := by
  intro fuel _
  cases fuel <;> rfl

theorem Lexes.cons {c : Char} {token : Token} (h : Lexes rest tokens) (hspace : isSpace c = false)
    (hread : readToken? (c :: cs) = some (token, rest)) (hlength : rest.length ≤ cs.length) :
    Lexes (c :: cs) (token :: tokens) := by
  intro fuel hfuel
  rw [List.length_cons] at hfuel
  cases fuel with
  | zero => omega
  | succ fuel =>
    -- One step for the first character leaves enough for what is behind the token.
    have hrest := h fuel (by omega)
    rw [tokensWithin, if_neg (by simp [hspace]), hread]
    dsimp only
    rw [hrest, Option.map_some]

/-- A token of one character. -/
theorem Lexes.mark {c : Char} {token : Token} (h : Lexes rest tokens) (hspace : isSpace c = false)
    (hread : readToken? (c :: rest) = some (token, rest)) : Lexes (c :: rest) (token :: tokens) :=
  h.cons hspace hread (Nat.le_refl _)

theorem Lexes.quote (h : Lexes rest tokens) (s : String) :
    Lexes (quote s ++ rest) (.text (some s) :: tokens) := by
  have hread := readToken?_quote s rest
  rw [Json.quote, List.cons_append, List.cons_append] at hread ⊢
  refine h.cons rfl hread ?_
  simp only [List.length_append]
  omega

theorem isSpace_of_isDigit {c : Char} (h : c.isDigit = true) : isSpace c = false := by
  cases hspace : isSpace c with
  | false => rfl
  | true =>
    simp only [isSpace, Bool.or_eq_true, beq_iff_eq] at hspace
    rcases hspace with ((rfl | rfl) | rfl) | rfl <;> exact absurd h (by decide)

theorem Lexes.natural (h : Lexes rest tokens) (hends : EndsNumber rest) (n : Nat) :
    Lexes (Decimal.digitsOf n ++ rest) (.natural n :: tokens) := by
  have hread := readToken?_digitsOf n hends
  have hdigits : ∀ c ∈ Decimal.digitsOf n, c.isDigit = true := fun c hc =>
    Decimal.isDigit_of_mem_digitsOf hc
  cases hcons : Decimal.digitsOf n with
  | nil => exact absurd hcons Nat.toDigits_ne_nil
  | cons c digits =>
    rw [hcons] at hread hdigits
    rw [List.cons_append] at hread ⊢
    refine h.cons (isSpace_of_isDigit (hdigits c List.mem_cons_self)) hread ?_
    simp only [List.length_append]
    omega

end Json

end PoliteCrawl

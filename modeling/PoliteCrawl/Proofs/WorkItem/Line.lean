import PoliteCrawl.Proofs.Crawl.Items

namespace PoliteCrawl

theorem Text.Hex.newline_notMem_ofNat (width n : Nat) : '\n' ∉ Text.Hex.ofNat width n := by
  induction width generalizing n with
  | zero => exact List.not_mem_nil
  | succ width ih =>
    have hdigits : ∀ k ∈ List.range 16, digit k ≠ '\n' := by decide
    have hdigit : digit (n % 16) ≠ '\n' :=
      hdigits _ (List.mem_range.mpr (Nat.mod_lt n (by decide)))
    simp only [ofNat, List.mem_append, List.mem_singleton, not_or]
    exact ⟨ih _, hdigit.symm⟩

theorem Json.newline_notMem_escapeChar (c : Char) : '\n' ∉ Json.escapeChar c := by
  by_cases hc : c = '\n'
  · subst hc
    decide
  · unfold escapeChar
    split
    case h_8 =>
      split
      · simp only [List.mem_cons, not_or]
        exact ⟨by decide, by decide, Text.Hex.newline_notMem_ofNat _ _⟩
      · rw [List.mem_singleton]
        exact fun heq => hc heq.symm
    all_goals decide

theorem Json.newline_notMem_quote (s : String) : '\n' ∉ Json.quote s := by
  have hescaped : '\n' ∉ s.toList.flatMap escapeChar := by
    intro hmem
    obtain ⟨c, -, hc⟩ := List.mem_flatMap.mp hmem
    exact newline_notMem_escapeChar c hc
  simp [quote, hescaped]

theorem Decimal.newline_notMem_digitsOf (n : Nat) : '\n' ∉ Decimal.digitsOf n := by
  intro hmem
  have hdigit := Nat.isDigit_of_mem_toDigits (by decide) (Nat.le_refl 10) hmem
  exact absurd hdigit (by decide)

namespace Text

theorem mem_of_mem_trimChars {c : Char} {cs : List Char} (h : c ∈ trimChars cs) : c ∈ cs := by
  have hmem := (List.dropWhile_suffix _).subset (List.mem_reverse.mp h)
  exact (List.dropWhile_suffix _).subset (List.mem_reverse.mp hmem)

end Text

namespace Input

theorem newline_notMem_dropLast {bytes line : List UInt8} (h : line ∈ rawLines bytes) :
    0x0a ∉ line.dropLast := by
  induction bytes generalizing line with
  | nil => cases h
  | cons b bytes ih =>
    change line ∈ addByte b (rawLines bytes) at h
    unfold addByte at h
    split at h
    · rcases List.mem_cons.mp h with rfl | h
      · exact List.not_mem_nil
      · exact ih h
    · rename_i hb
      split at h
      · cases List.mem_singleton.mp h
        exact List.not_mem_nil
      · rename_i first lines hlines
        rw [hlines] at ih
        rcases List.mem_cons.mp h with rfl | h
        · have hfirst := ih List.mem_cons_self
          cases first with
          | nil => exact List.not_mem_nil
          | cons b' first =>
            rw [List.dropLast_cons_cons, List.mem_cons, not_or]
            exact ⟨fun heq => hb heq.symm, hfirst⟩
        · exact ih (List.mem_cons_of_mem _ h)

/-- A line feed only ends a line. -/
theorem newline_notMem_withoutEnd {bytes line : List UInt8} (h : line ∈ rawLines bytes) :
    0x0a ∉ withoutEnd line := by
  have hinside := newline_notMem_dropLast h
  rw [← List.mem_reverse, ← List.tail_reverse] at hinside
  unfold withoutEnd
  split
  · rename_i rest hreverse
    rw [hreverse] at hinside
    intro hmem
    exact hinside (List.mem_cons_of_mem _ (List.mem_reverse.mp hmem))
  · rename_i rest hreverse
    rw [hreverse] at hinside
    intro hmem
    exact hinside (List.mem_reverse.mp hmem)
  · rename_i hnone
    intro hmem
    rw [← List.mem_reverse] at hmem
    cases hreverse : line.reverse with
    | nil =>
      rw [hreverse] at hmem
      cases hmem
    | cons b rest =>
      rw [hreverse] at hmem hinside
      rcases List.mem_cons.mp hmem with rfl | hmem
      · exact hnone rest hreverse
      · exact hinside hmem

theorem newline_notMem_textOf? {bytes : List UInt8} {text : String}
    (h : textOf? bytes = some text) (hbytes : 0x0a ∉ bytes) : '\n' ∉ text.toList := by
  have hencoded : text.toList.flatMap String.utf8EncodeChar = bytes := by
    unfold textOf? String.fromUTF8? at h
    split at h
    · cases h
      have hutf8 := @String.utf8Encode_toList (String.fromUTF8 ⟨bytes.toArray⟩ ‹_›)
      have hdata := congrArg (fun b : ByteArray => b.data.toList) hutf8
      simpa [List.utf8Encode, String.fromUTF8] using hdata
    · cases h
  intro hmem
  apply hbytes
  rw [← hencoded]
  exact List.mem_flatMap.mpr ⟨'\n', hmem, by decide⟩

theorem newline_notMem_linesFrom {split : List (List UInt8)} {text : String}
    (hsplit : ∀ line ∈ split, 0x0a ∉ withoutEnd line) (h : text ∈ linesFrom split) :
    '\n' ∉ text.toList := by
  induction split with
  | nil => cases h
  | cons line split ih =>
    unfold linesFrom at h
    split at h
    · rename_i text' hline
      rcases List.mem_cons.mp h with rfl | h
      · exact newline_notMem_textOf? hline (hsplit line List.mem_cons_self)
      · exact ih (fun line hmem => hsplit line (List.mem_cons_of_mem _ hmem)) h
    · cases h

theorem newline_notMem_lines {bytes : List UInt8} {text : String} (h : text ∈ lines bytes) :
    '\n' ∉ text.toList :=
  newline_notMem_linesFrom (fun _ hline => newline_notMem_withoutEnd hline) h

theorem exists_line_of_mem_itemsOn {format : LineFormat} {texts : List String} {item : WorkItem}
    (h : item ∈ itemsOn format texts) :
    ∃ text ∈ texts, WorkItem.ofLine? format text = some item := by
  induction texts with
  | nil => cases h
  | cons text texts ih =>
    unfold itemsOn at h
    split at h
    · rename_i item' hitem
      rcases List.mem_cons.mp h with rfl | h
      · exact ⟨text, List.mem_cons_self, hitem⟩
      · obtain ⟨text', hmem, htext'⟩ := ih h
        exact ⟨text', List.mem_cons_of_mem _ hmem, htext'⟩
    · cases h

end Input

namespace WorkItem

theorem newline_notMem_structuredChars (item : WorkItem) : '\n' ∉ item.structuredChars := by
  have htarget := Json.newline_notMem_quote item.target
  have hpriority := Decimal.newline_notMem_digitsOf item.priority.toNat
  unfold structuredChars
  cases item.source with
  | none => simp [htarget, hpriority]
  | some source => simp [htarget, hpriority, Json.newline_notMem_quote source]

/-- An item of an input is one line in the form of the input. -/
theorem newline_notMem_toLine {format : LineFormat} {input : List UInt8} {item : WorkItem}
    (h : item ∈ Input.items format input) : '\n' ∉ (item.toLine format).toList := by
  cases format with
  | structured => simpa [toLine] using newline_notMem_structuredChars item
  | raw =>
    rw [← Input.itemsOn_lines] at h
    obtain ⟨text, htext, hitem⟩ := Input.exists_line_of_mem_itemsOn h
    have htarget : item.target.toList = Text.trimChars text.toList := by
      simp only [ofLine?] at hitem
      split at hitem
      · cases hitem
      · cases hitem
        exact String.toList_ofList
    intro hmem
    rw [toLine, htarget] at hmem
    exact Input.newline_notMem_lines htext (Text.mem_of_mem_trimChars hmem)

end WorkItem

end PoliteCrawl

import Mathlib.Data.List.Basic

namespace PoliteCrawl.Text

theorem toList_loop (bytes : ByteArray) (i : Nat) (read : List UInt8) :
    ByteArray.toList.loop bytes i read = read.reverse ++ bytes.data.toList.drop i := by
  induction i, read using ByteArray.toList.loop.induct bytes with
  | case1 i read hi ih =>
    have hlength : i < bytes.data.toList.length := by rwa [Array.length_toList]
    have hget : bytes.get! i = bytes.data.toList[i] := by
      rw [ByteArray.get!, getElem!_pos bytes.data i hi, Array.getElem_toList]
    rw [ByteArray.toList.loop, if_pos hi, ih, List.reverse_cons, List.append_assoc,
      List.singleton_append, List.drop_eq_getElem_cons hlength, hget]
  | case2 i read hi =>
    have hlength : bytes.data.toList.length ≤ i := by
      rw [Array.length_toList]
      exact Nat.not_lt.mp hi
    rw [ByteArray.toList.loop, if_neg hi, List.drop_of_length_le hlength, List.append_nil]

theorem toList_eq_data (bytes : ByteArray) : bytes.toList = bytes.data.toList :=
  toList_loop bytes 0 []

theorem bytes_ofList (cs : List Char) :
    (String.ofList cs).toUTF8.toList = cs.flatMap String.utf8EncodeChar := by
  rw [toList_eq_data, String.toUTF8, String.toByteArray_ofList]
  simp [List.utf8Encode]

/-- A byte of ASCII stands for its character only. -/
theorem toNat_of_mem_utf8EncodeChar {b : UInt8} {c : Char} (h : b ∈ String.utf8EncodeChar c)
    (hb : b.toNat < 128) : c.toNat = b.toNat := by
  unfold String.utf8EncodeChar at h
  simp only [apply_ite (b ∈ ·), List.mem_cons, List.not_mem_nil, or_false] at h
  have htail : ∀ n k : Nat, 128 ≤ k → k + n < 256 → b ≠ UInt8.ofNat (n + k) := by
    rintro n k hk hn rfl
    rw [UInt8.toNat_ofNat'] at hb
    omega
  split at h
  · rename_i hascii
    rw [h, UInt8.toNat_ofNat', Nat.mod_eq_of_lt (Nat.lt_of_le_of_lt hascii (by decide))]
    rfl
  · exfalso
    split at h
    · rcases h with h | h <;> exact htail _ _ (by decide) (by omega) h
    · split at h
      · rcases h with h | h | h <;> exact htail _ _ (by decide) (by omega) h
      · rcases h with h | h | h | h <;> exact htail _ _ (by decide) (by omega) h

theorem eq_of_mem_utf8EncodeChar {b : UInt8} {c : Char} (h : b ∈ String.utf8EncodeChar c)
    (hb : b.toNat < 128) : c = Char.ofNat b.toNat := by
  rw [← toNat_of_mem_utf8EncodeChar h hb, Char.ofNat_toNat]

variable {b : UInt8} {cs : List Char}

/-- The bytes of a text without an ASCII character are without its byte. -/
theorem notMem_flatMap_utf8EncodeChar (hb : b.toNat < 128) (h : Char.ofNat b.toNat ∉ cs) :
    b ∉ cs.flatMap String.utf8EncodeChar := by
  intro hmem
  obtain ⟨c, hc, hbyte⟩ := List.mem_flatMap.mp hmem
  exact h (eq_of_mem_utf8EncodeChar hbyte hb ▸ hc)

theorem getLast?_flatMap_utf8EncodeChar (hb : b.toNat < 128)
    (h : cs.getLast? ≠ some (Char.ofNat b.toNat)) :
    (cs.flatMap String.utf8EncodeChar).getLast? ≠ some b := by
  intro hlast
  rcases List.eq_nil_or_concat cs with rfl | ⟨init, c, rfl⟩
  · cases hlast
  · rw [List.concat_eq_append, List.flatMap_append, List.flatMap_singleton,
      List.getLast?_append_of_ne_nil _ String.utf8EncodeChar_ne_nil] at hlast
    have heq := eq_of_mem_utf8EncodeChar (List.mem_of_getLast? hlast) hb
    rw [List.concat_eq_append, List.getLast?_concat, heq] at h
    exact h rfl

end PoliteCrawl.Text

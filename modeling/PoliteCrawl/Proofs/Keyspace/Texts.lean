import Mathlib.Data.String.Basic
import PoliteCrawl.Proofs.Except
import PoliteCrawl.Proofs.Keyspace.ByteOrder
import PoliteCrawl.Proofs.Text.Hex
import PoliteCrawl.Proofs.Text.Pieces
import PoliteCrawl.Settings.Valid

namespace PoliteCrawl

namespace KeyHash

structure IsText (s : String) : Prop where
  length : s.toList.length = 32
  digits : ∀ c ∈ s.toList, c ∈ Text.Hex.digits

variable {a b : KeyHash} {s : String}

theorem toNat_lt_digits (a : KeyHash) : a.toNat < 16 ^ 32 := a.toNat_lt

@[simp] theorem toList_text (a : KeyHash) : a.text.toList = Text.Hex.ofNat 32 a.toNat :=
  String.toList_ofList

theorem isText_text (a : KeyHash) : IsText a.text where
  length := by simp
  digits := by
    rw [toList_text]
    exact Text.Hex.mem_digits_of_ofNat 32 a.toNat

theorem text_inj (h : a.text = b.text) : a = b := by
  have hdigits : a.text.toList = b.text.toList := by rw [h]
  rw [toList_text, toList_text] at hdigits
  exact ext (Text.Hex.ofNat_inj a.toNat_lt_digits b.toNat_lt_digits hdigits)

/-- The order of texts is that of the numbers. -/
theorem text_lt_text_iff : a.text < b.text ↔ a < b := by
  rw [String.lt_iff, toList_text, toList_text,
    Text.Hex.ofNat_lt_ofNat_iff a.toNat_lt_digits b.toNat_lt_digits, lt_def]

/-- What is read is written with the digits that were read, in lower case. -/
theorem text_of_read? (h : read? s = some a) :
    IsText (Text.trim s) ∧ a.text = Text.lowerAscii (Text.trim s) := by
  unfold read? at h
  dsimp only at h
  split at h
  · rename_i hlength
    obtain ⟨n, hn, rfl⟩ := Option.map_eq_some_iff.mp h
    obtain ⟨hbound, hdigits⟩ := Text.Hex.ofNat_of_toNat? hn
    rw [hlength] at hbound hdigits
    refine ⟨⟨by simpa using hlength, ?_⟩, ?_⟩
    · rw [Text.toList_trim]
      exact Text.Hex.mem_digits_of_toNat? hn
    · rw [← String.toList_inj, toList_text, toNat_ofNat hbound, hdigits, Text.lowerAscii,
        String.toList_map, Text.toList_trim]
  · cases h

theorem exists_read? (h : IsText (Text.trim s)) : ∃ a, read? s = some a := by
  obtain ⟨hlength, hdigits⟩ := h
  rw [Text.toList_trim] at hlength hdigits
  obtain ⟨n, hn⟩ := Text.Hex.exists_toNat? hdigits
  exact ⟨ofNat n, by rw [read?, if_pos hlength, hn, Option.map_some]⟩

theorem read?_eq_some_iff :
    read? s = some a ↔ IsText (Text.trim s) ∧ a.text = Text.lowerAscii (Text.trim s) := by
  refine ⟨text_of_read?, fun ⟨hs, htext⟩ => ?_⟩
  obtain ⟨b, hb⟩ := exists_read? hs
  rw [hb, text_inj (htext.trans (text_of_read? hb).2.symm)]

theorem read?_eq_none_iff : read? s = none ↔ ¬ IsText (Text.trim s) := by
  constructor
  · intro hnone htext
    obtain ⟨a, ha⟩ := exists_read? htext
    rw [hnone] at ha
    cases ha
  · intro htext
    cases hread : read? s with
    | none => rfl
    | some a => exact absurd (text_of_read? hread).1 htext

theorem not_isBlank_of_mem_digits {c : Char} (h : c ∈ Text.Hex.digits) :
    Text.isBlank c = false ∧ c ≠ '.' := by
  have hall : Text.Hex.digits.all fun c => Text.isBlank c = false ∧ c ≠ '.' := by decide
  exact of_decide_eq_true (List.all_eq_true.mp hall c h)

theorem trim_text (a : KeyHash) : Text.trim a.text = a.text := by
  have hblank : ∀ c ∈ a.text.toList, ¬ Text.isBlank c = true := fun c hc => by
    simp [(not_isBlank_of_mem_digits (a.isText_text.digits c hc)).1]
  rw [Text.trim, Text.trimChars, Text.trimBy_of_forall_not hblank, String.ofList_toList]

/-- Every hash is read from its text. -/
theorem read?_text (a : KeyHash) : read? a.text = some a := by
  have hlength : (Text.trimChars a.text.toList).length = 32 := by
    rw [← Text.toList_trim, trim_text]
    exact a.isText_text.length
  rw [read?, if_pos hlength, ← Text.toList_trim, trim_text, toList_text,
    Text.Hex.toNat?_ofNat a.toNat_lt_digits, Option.map_some, ofNat_toNat]

end KeyHash

namespace Text.Hex

theorem ofNat_succ_left (width n : Nat) :
    ofNat (width + 1) n = digit (n / 16 ^ width % 16) :: ofNat width n := by
  induction width generalizing n with
  | zero => simp [ofNat]
  | succ width ih =>
    rw [ofNat, ih, List.cons_append, Nat.div_div_eq_div_mul, ← Nat.pow_succ']
    rfl

theorem encode_cons (b : UInt8) (bytes : List UInt8) :
    encode (b :: bytes) = digit (b.toNat / 16) :: digit (b.toNat % 16) :: encode bytes := rfl

/-- The digits of a number are those of its bytes, two for each. -/
theorem ofNat_eq_encode (width n : Nat) :
    ofNat (2 * width) n = encode (Digest.bytesDown width n) := by
  induction width with
  | zero => rfl
  | succ width ih =>
    have hbyte : (UInt8.ofNat (n / 256 ^ width)).toNat = n / 16 ^ (2 * width) % 256 := by
      rw [UInt8.toNat_ofNat', Nat.pow_mul]
    have hhigh : n / 16 ^ (2 * width + 1) = n / 16 ^ (2 * width) / 16 := by
      rw [Nat.pow_succ, Nat.div_div_eq_div_mul]
    have hfirst : n / 16 ^ (2 * width) / 16 % 16 = n / 16 ^ (2 * width) % 256 / 16 := by omega
    have hsecond : n / 16 ^ (2 * width) % 16 = n / 16 ^ (2 * width) % 256 % 16 := by omega
    rw [Nat.mul_succ, ofNat_succ_left, ofNat_succ_left, ih, Digest.bytesDown_succ, encode_cons,
      hbyte, hhigh, hfirst, hsecond]

end Text.Hex

namespace KeyHash

theorem ofBytes_bytes (a : KeyHash) : ofBytes a.bytes = a := by
  rw [ofBytes, ofBytesDown_bytes, ofNat_toNat]

theorem bytes_ofBytes {bytes : List UInt8} (h : bytes.length = 16) :
    (ofBytes bytes).bytes = bytes := by
  have hbound := Digest.ofBytesDown_lt bytes
  rw [h] at hbound
  have hsame : Digest.ofBytesDown (ofBytes bytes).bytes = Digest.ofBytesDown bytes := by
    rw [ofBytesDown_bytes, ofBytes, toNat_ofNat hbound]
  have hlength : (ofBytes bytes).bytes.length = bytes.length := by simp [KeyHash.bytes, h]
  apply List.le_antisymm
  · rw [← List.not_lt, ← Digest.ofBytesDown_lt_iff hlength.symm, hsame]
    exact Nat.lt_irrefl _
  · rw [← List.not_lt, ← Digest.ofBytesDown_lt_iff hlength, hsame]
    exact Nat.lt_irrefl _

theorem text_eq_encode (a : KeyHash) : a.text.toList = Text.Hex.encode a.bytes := by
  rw [toList_text]
  exact Text.Hex.ofNat_eq_encode 16 a.toNat

end KeyHash

namespace HashRange

variable {s t : String} {a : KeyHash} {r : HashRange}

theorem readHash_eq_ok_iff : readHash s = .ok a ↔ KeyHash.read? s = some a := by
  unfold readHash
  cases KeyHash.read? s <;> simp

theorem readHash_eq_error_iff {e : KeyspaceError} :
    readHash s = .error e ↔ KeyHash.read? s = none ∧ e = .invalidHash s := by
  unfold readHash
  cases KeyHash.read? s <;> simp [eq_comm]

theorem readHash_text (a : KeyHash) : readHash a.text = .ok a :=
  readHash_eq_ok_iff.mpr a.read?_text

/-- No point stands in a text that is read as a hash. -/
theorem point_notMem_of_readHash (h : readHash s = .ok a) : '.' ∉ s.toList := by
  intro hpoint
  have htext := (KeyHash.text_of_read? (readHash_eq_ok_iff.mp h)).1
  have hmem : '.' ∈ (Text.trim s).toList := by
    rw [Text.toList_trim]
    exact Text.mem_trimBy_of_not hpoint (by decide)
  exact (KeyHash.not_isBlank_of_mem_digits (htext.digits _ hmem)).2 rfl

/-- What is read as a range: two texts of hashes in order with two points between them. Of any
other text, the first part that is no hash is named, or the bounds that are out of order. -/
inductive Reads (s : String) : Except KeyspaceError HashRange → Prop where
  | range {min max : String} {r : HashRange} (cut : s = min ++ ".." ++ max)
    (lower : readHash min = .ok r.min) (upper : readHash max = .ok r.max) : Reads s (.ok r)
  | reversed {min max : String} {low high : KeyHash} (cut : s = min ++ ".." ++ max)
    (lower : readHash min = .ok low) (upper : readHash max = .ok high) (order : high < low) :
    Reads s (.error (.invalidRange low.text high.text))
  | uncut (cut : ∀ min max, s ≠ min ++ ".." ++ max) : Reads s (.error (.invalidHash s))
  | lower {min max : String} (cut : s = min ++ ".." ++ max)
    (first : ∀ front back, min ++ "." ≠ front ++ ".." ++ back)
    (lower : ¬ KeyHash.IsText (Text.trim min)) : Reads s (.error (.invalidHash min))
  | upper {min max : String} {low : KeyHash} (cut : s = min ++ ".." ++ max)
    (lower : readHash min = .ok low) (upper : ¬ KeyHash.IsText (Text.trim max)) :
    Reads s (.error (.invalidHash max))

theorem cut_iff {s min max : String} :
    s = min ++ ".." ++ max ↔ s.toList = min.toList ++ ['.', '.'] ++ max.toList := by
  rw [← String.toList_inj, String.toList_append, String.toList_append]
  rfl

theorem read_of_cut {s min max : String} (hcut : s = min ++ ".." ++ max)
    (hfirst : ¬ ['.', '.'] <:+: min.toList ++ ['.']) : read s = ofTexts min max := by
  have hpoints : ['.', '.'] ≠ [] := List.cons_ne_nil _ _
  have hsplit := Text.splitOnce_of_first hpoints max.toList hfirst
  rw [read, cut_iff.mp hcut, hsplit]
  dsimp only
  rw [String.ofList_toList, String.ofList_toList]

/-- Two points in a row need more than the one that follows a text without any. -/
theorem not_infix_of_notMem {cs : List Char} (h : '.' ∉ cs) : ¬ ['.', '.'] <:+: cs ++ ['.'] := by
  intro hinfix
  have hcount := hinfix.sublist.count_le '.'
  rw [List.count_append, List.count_eq_zero_of_not_mem h] at hcount
  exact absurd hcount (by decide)

theorem not_infix_of_first {min : String}
    (h : ∀ front back, min ++ "." ≠ front ++ ".." ++ back) :
    ¬ ['.', '.'] <:+: min.toList ++ ['.'] := by
  rintro ⟨front, back, hcut⟩
  apply h (String.ofList front) (String.ofList back)
  rw [cut_iff, String.toList_ofList, String.toList_ofList, hcut, String.toList_append]
  rfl

theorem readHash_of_not_text (h : ¬ KeyHash.IsText (Text.trim s)) :
    readHash s = .error (.invalidHash s) :=
  readHash_eq_error_iff.mpr ⟨KeyHash.read?_eq_none_iff.mpr h, rfl⟩

theorem read_of_reads {x : Except KeyspaceError HashRange} (h : Reads s x) : read s = x := by
  cases h with
  | @range min max r hcut hlower hupper =>
    rw [read_of_cut hcut (not_infix_of_notMem (point_notMem_of_readHash hlower)), ofTexts, hlower,
      hupper]
    exact dif_pos r.min_le_max
  | @reversed min max low high hcut hlower hupper horder =>
    rw [read_of_cut hcut (not_infix_of_notMem (point_notMem_of_readHash hlower)), ofTexts, hlower,
      hupper]
    exact dif_neg (Nat.not_le.mpr horder)
  | uncut hcut =>
    -- a separator that is found would cut the text in two
    have hnone : Text.splitOnce ['.', '.'] s.toList = none := by
      cases hsplit : Text.splitOnce ['.', '.'] s.toList with
      | none => rfl
      | some parts =>
        have hparts := (Text.splitOnce_eq_some (by simp) hsplit).1
        apply absurd _ (hcut (String.ofList parts.1) (String.ofList parts.2))
        rw [cut_iff, String.toList_ofList, String.toList_ofList, hparts]
    rw [read, hnone]
  | lower hcut hfirst hlower =>
    rw [read_of_cut hcut (not_infix_of_first hfirst), ofTexts, readHash_of_not_text hlower]
    rfl
  | upper hcut hlower hupper =>
    rw [read_of_cut hcut (not_infix_of_notMem (point_notMem_of_readHash hlower)), ofTexts, hlower,
      readHash_of_not_text hupper]
    rfl

theorem exists_reads (s : String) : ∃ x, Reads s x := by
  cases hsplit : Text.splitOnce ['.', '.'] s.toList with
  | none =>
    refine ⟨_, .uncut fun min max hcut => ?_⟩
    have hinfix : ['.', '.'] <:+: s.toList := ⟨min.toList, max.toList, (cut_iff.mp hcut).symm⟩
    rw [← Text.isSome_splitOnce, hsplit] at hinfix
    cases hinfix
  | some parts =>
    obtain ⟨min, max⟩ := parts
    obtain ⟨hcut, hfirst⟩ := Text.splitOnce_eq_some (by simp) hsplit
    have hwhole : s = String.ofList min ++ ".." ++ String.ofList max := by
      rw [cut_iff, String.toList_ofList, String.toList_ofList, hcut]
    by_cases hlower : KeyHash.IsText (Text.trim (String.ofList min))
    · obtain ⟨low, hlow⟩ := KeyHash.exists_read? hlower
      by_cases hupper : KeyHash.IsText (Text.trim (String.ofList max))
      · obtain ⟨high, hhigh⟩ := KeyHash.exists_read? hupper
        rw [← readHash_eq_ok_iff] at hlow hhigh
        rcases Nat.lt_or_ge high.toNat low.toNat with horder | horder
        · exact ⟨_, .reversed hwhole hlow hhigh horder⟩
        · exact ⟨.ok ⟨low, high, horder⟩, .range hwhole hlow hhigh⟩
      · exact ⟨_, .upper hwhole (readHash_eq_ok_iff.mpr hlow) hupper⟩
    · refine ⟨_, .lower hwhole (fun front back hmin => hfirst ?_) hlower⟩
      rw [cut_iff, String.toList_append, String.toList_ofList] at hmin
      exact ⟨front.toList, back.toList, hmin.symm⟩

theorem read_eq_iff (s : String) (x : Except KeyspaceError HashRange) : read s = x ↔ Reads s x := by
  refine ⟨fun h => ?_, read_of_reads⟩
  obtain ⟨y, hy⟩ := exists_reads s
  rwa [← h, read_of_reads hy]

end HashRange

/-- Settings with the texts of a range's bounds mean that range. -/
theorem PartitionSettings.range_text (r : HashRange) :
    range { min := r.min.text, max := r.max.text } = .ok r := by
  have hbetween : HashRange.between r.min r.max = .ok r := dif_pos r.min_le_max
  rw [range, HashRange.readHash_text, HashRange.readHash_text]
  change (HashRange.between r.min r.max).mapError _ = _
  rw [hbetween]
  rfl

end PoliteCrawl

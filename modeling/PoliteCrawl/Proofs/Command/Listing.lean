import PoliteCrawl.Command.Program
import PoliteCrawl.Proofs.Keyspace.Texts
import PoliteCrawl.Proofs.Keyspace.Words
import PoliteCrawl.Proofs.Toml.Section

namespace PoliteCrawl

namespace Decimal

open Toml (isPlain)

theorem isPlain_of_isDigit {c : Char} (h : c.isDigit = true) : isPlain c = true := by
  have hbounds : 48 ≤ c.toNat ∧ c.toNat ≤ 57 := by
    simpa [Char.isDigit, UInt32.le_iff_toNat_le] using h
  have hlow : 0x20 ≤ c.toNat := by omega
  have hne : c.toNat ≠ 0x7f := by omega
  simp [isPlain, hlow, hne]

theorem isPlain_toDigits (n : Nat) : ∀ c ∈ Nat.toDigits 10 n, isPlain c = true := fun _ hc =>
  isPlain_of_isDigit (Nat.isDigit_of_mem_toDigits (by decide) (Nat.le_refl 10) hc)

theorem isPlain_positional (d : Nat) (k : Int) : ∀ c ∈ positional d k, isPlain c = true := by
  have hzeros : ∀ n, ∀ c ∈ List.replicate n '0', isPlain c = true := by
    intro n c hc
    rw [(List.mem_replicate.mp hc).2]
    rfl
  have hpadded : ∀ n, ∀ c ∈ List.replicate n '0' ++ digitsOf d, isPlain c = true := fun n c hc =>
    (List.mem_append.mp hc).elim (hzeros n c) (isPlain_toDigits d c)
  intro c hc
  unfold positional at hc
  dsimp only at hc
  split at hc
  · exact (List.mem_append.mp hc).elim (isPlain_toDigits d c) (hzeros _ c)
  · rcases List.mem_append.mp hc with hc | hc
    · exact hpadded _ c (List.mem_of_mem_take hc)
    · rcases List.mem_cons.mp hc with rfl | hc
      · rfl
      · exact hpadded _ c (List.mem_of_mem_drop hc)

theorem isPlain_sign {cs : List Char} (h : ∀ c ∈ cs, isPlain c = true) (negative : Bool) :
    ∀ c ∈ sign negative cs, isPlain c = true := by
  cases negative with
  | false => exact h
  | true => exact List.forall_mem_cons.mpr ⟨rfl, h⟩

theorem isPlain_fixed (places : Nat) (x : Binary64) :
    ∀ c ∈ (fixed places x).toList, isPlain c = true := by
  cases x with
  | nan =>
    have hname : "NaN".toList.all isPlain = true := by decide
    exact List.all_eq_true.mp hname
  | infinite negative =>
    rw [fixed, String.toList_ofList]
    exact isPlain_sign (List.all_eq_true.mp (by decide)) negative
  | finite negative m e =>
    rw [fixed]
    dsimp only
    rw [String.toList_ofList]
    exact isPlain_sign (isPlain_positional _ _) negative

end Decimal

namespace HashRange

theorem length_runningSums (total : Nat) (points : List Nat) :
    (runningSums total points).length = points.length := by
  induction points generalizing total with
  | nil => rfl
  | cons n points ih => rw [runningSums, List.length_cons, List.length_cons, ih]

theorem length_partsFrom {start last : Nat} {ends : List Nat} {parts : List HashRange}
    (h : partsFrom start ends last = some parts) : parts.length = ends.length + 1 := by
  induction ends generalizing start parts with
  | nil =>
    obtain ⟨part, -, rfl⟩ := Option.map_eq_some_iff.mp h
    rfl
  | cons e ends ih =>
    unfold partsFrom at h
    split at h
    · rename_i part rest hpart hrest
      cases h
      rw [List.length_cons, ih hrest, List.length_cons]
    · cases h

/-- A split has a part for each weight. -/
theorem length_of_split {r : HashRange} {weights : List Binary64} {parts : List HashRange}
    (h : r.split weights = .ok parts) : parts.length = weights.length := by
  obtain ⟨points, hpoints, hsum, hparts⟩ := splitPoints_of_split h
  have hmap := congrArg List.length (Weight.map_basisPoints?_of_mapM hpoints)
  rw [List.length_map, List.length_map] at hmap
  have hne : points ≠ [] := by
    rintro rfl
    cases hsum
  have hpos := List.length_pos_of_ne_nil hne
  have hlength := length_partsFrom hparts
  rw [List.length_map, List.length_dropLast, length_runningSums] at hlength
  omega

end HashRange

namespace Listing

def remark (node : Nat) (weight : Binary64) : List Char :=
  " node ".toList ++ (toString node).toList ++ " (".toList ++ (percent 2 weight).toList ++
    "%)".toList

theorem toList_ofPart (node : Nat) (part : HashRange) (weight : Binary64) :
    (ofPart node part weight).toList =
      Toml.sectionText "partition".toList (remark node weight) "min".toList part.min.text.toList
        "max".toList part.max.text.toList := by
  have hheader : "[partition]  # node ".toList =
      '[' :: ("partition".toList ++ ']' :: ' ' :: ' ' :: '#' :: " node ".toList) := by decide
  have hend : "%)\n".toList = "%)".toList ++ ['\n'] := by decide
  have hlower : "min = \"".toList = "min".toList ++ [' ', '=', ' ', '"'] := by decide
  have hupper : "\"\nmax = \"".toList = '"' :: '\n' :: ("max".toList ++ [' ', '=', ' ', '"']) := by
    decide
  have hlast : "\"\n\n".toList = ['"', '\n', '\n'] := by decide
  have htext : ∀ s : String, toString s = s := fun _ => rfl
  unfold ofPart Toml.sectionText Toml.headerLine Toml.pairLine remark
  simp only [String.toList_append, htext, hheader, hend, hlower, hupper, hlast, List.append_assoc,
    List.cons_append, List.nil_append]

theorem isPlain_remark (node : Nat) (weight : Binary64) :
    ∀ c ∈ remark node weight, Toml.isPlain c = true := by
  have hnode : ∀ c ∈ (toString node).toList, Toml.isPlain c = true := by
    rw [Nat.toString_eq_repr, Nat.repr, String.toList_ofList]
    exact Decimal.isPlain_toDigits node
  have hshare : ∀ c ∈ (percent 2 weight).toList, Toml.isPlain c = true := by
    rw [percent]
    exact Decimal.isPlain_fixed 2 _
  have hopening : " node ".toList.all Toml.isPlain = true := by decide
  have hbetween : " (".toList.all Toml.isPlain = true := by decide
  have hclosing : "%)".toList.all Toml.isPlain = true := by decide
  rw [List.all_eq_true] at hopening hbetween hclosing
  unfold remark
  rw [List.forall_mem_append, List.forall_mem_append, List.forall_mem_append,
    List.forall_mem_append]
  exact ⟨⟨⟨⟨hopening, hnode⟩, hbetween⟩, hshare⟩, hclosing⟩

end Listing

theorem KeyHash.isUnescaped_text (a : KeyHash) : ∀ c ∈ a.text.toList, Toml.IsUnescaped c := by
  have hall : Text.Hex.digits.all fun c => Toml.isPlain c = true ∧ c ≠ '"' ∧ c ≠ '\\' := by
    decide
  intro c hc
  have hdigit := of_decide_eq_true (List.all_eq_true.mp hall c (a.isText_text.digits c hc))
  exact hdigit

theorem KeyHash.toList_text_ne_nil (a : KeyHash) : a.text.toList ≠ [] := by
  rw [← List.length_pos_iff, a.isText_text.length]
  decide

namespace Listing

/-- A printed part is read as settings with the texts of its bounds, and those mean the part. -/
structure Gives (text : String) (part : HashRange) : Prop where
  settings : (Toml.read? text.toList).bind Settings.ofEntries? =
    some { partition := some { min := part.min.text, max := part.max.text } }
  range : PartitionSettings.range { min := part.min.text, max := part.max.text } = .ok part

theorem isBareKey_names : Toml.IsBareKey "partition".toList ∧ Toml.IsBareKey "min".toList ∧
    Toml.IsBareKey "max".toList :=
  ⟨⟨by decide, List.all_eq_true.mp (by decide)⟩, ⟨by decide, List.all_eq_true.mp (by decide)⟩,
    ⟨by decide, List.all_eq_true.mp (by decide)⟩⟩

theorem read?_ofPart (node : Nat) (part : HashRange) (weight : Binary64) :
    Toml.read? (ofPart node part weight).toList =
      some [("partition", .table .header
        [("min", .text part.min.text), ("max", .text part.max.text)])] := by
  obtain ⟨hheader, hmin, hmax⟩ := isBareKey_names
  have hlength : 4 ≤ (ofPart node part weight).toList.length := by
    rw [toList_ofPart]
    simp [Toml.sectionText, Toml.headerLine]
  have hstatements := Toml.readStatements_section hheader hmin hmax (isPlain_remark node weight)
    ⟨part.min.toList_text_ne_nil, part.min.isUnescaped_text⟩
    ⟨part.max.toList_text_ne_nil, part.max.isUnescaped_text⟩ hlength
  rw [← toList_ofPart, String.ofList_toList, String.ofList_toList, String.ofList_toList,
    String.ofList_toList, String.ofList_toList] at hstatements
  have hmark : ¬ (ofPart node part weight).toList.head? = some '\ufeff' := by
    rw [toList_ofPart]
    simp [Toml.sectionText, Toml.headerLine]
  unfold Toml.read?
  dsimp only
  rw [if_neg hmark, hstatements]
  rfl

theorem gives_ofPart (node : Nat) (part : HashRange) (weight : Binary64) :
    Gives (ofPart node part weight) part where
  settings := by
    rw [read?_ofPart]
    rfl
  range := PartitionSettings.range_text part

/-- What a split of a range prints: a line about the whole, and for each part a section with its
bounds, which is read as settings that mean the part. -/
structure Shows (range : HashRange) (weights : List Binary64) (parts : List HashRange)
    (listing : String) : Prop where
  count : parts.length = weights.length
  sections : ∃ sections : List String, sections.length = parts.length ∧
    listing = s!"# Splitting {range.text} ({parts.length} parts)\n" ++ String.join sections ∧
    ∀ node part, parts[node]? = some part → ∃ text weight, sections[node]? = some text ∧
      weights[node]? = some weight ∧ text = ofPart node part weight ∧ Gives text part

theorem shows_ofSplit {range : HashRange} {weights : List Binary64} {parts : List HashRange}
    (h : range.split weights = .ok parts) :
    Shows range weights parts (ofSplit range parts weights) := by
  have hcount := HashRange.length_of_split h
  refine ⟨hcount, _, ?_, Eq.refl (ofSplit range parts weights), ?_⟩
  · simp [hcount]
  · intro node part hpart
    have hbound : node < weights.length := by
      rw [← hcount]
      exact (List.getElem?_eq_some_iff.mp hpart).1
    have hweight : weights[node]? = some weights[node] := List.getElem?_eq_getElem hbound
    have hpair : (parts.zip weights)[node]? = some (part, weights[node]) :=
      List.getElem?_zip_eq_some.mpr ⟨hpart, hweight⟩
    refine ⟨ofPart node part weights[node], weights[node], ?_, hweight, rfl, gives_ofPart _ _ _⟩
    rw [List.getElem?_mapIdx, hpair]
    rfl

end Listing

namespace Command

theorem split_eq_ok {s : Settings} {range : HashRange} {weights : List Binary64}
    {parts : List HashRange} (hrange : rangeOf s = .ok range)
    (hparts : range.split weights = .ok parts) :
    split s weights = .ok (Listing.ofSplit range parts weights) := by
  refine bind_eq_ok.mpr ⟨range, hrange, bind_eq_ok.mpr ⟨parts, ?_, rfl⟩⟩
  rw [hparts]
  rfl

/-- A hash or a range is read from its text and from no other, in the order of the numbers, and what
a split prints for its parts is read as these parts. -/
theorem texts_exact :
    (∀ s a, HashRange.readHash s = .ok a ↔
      KeyHash.IsText (Text.trim s) ∧ a.text = Text.lowerAscii (Text.trim s)) ∧
    (∀ s e, HashRange.readHash s = .error e ↔
      ¬ KeyHash.IsText (Text.trim s) ∧ e = .invalidHash s) ∧
    (∀ a : KeyHash, HashRange.readHash a.text = .ok a) ∧
    (∀ a b : KeyHash, (a < b ↔ a.toNat < b.toNat) ∧ (a < b ↔ a.bytes < b.bytes) ∧
      (a < b ↔ a.text < b.text)) ∧
    (∀ a : KeyHash, KeyHash.ofNat a.toNat = a ∧ KeyHash.ofBytes a.bytes = a ∧
      a.text.toList = Text.Hex.encode a.bytes) ∧
    (∀ bytes, bytes.length = 16 → (KeyHash.ofBytes bytes).bytes = bytes) ∧
    (∀ n < 2 ^ 128, (KeyHash.ofNat n).toNat = n) ∧
    (∀ s x, HashRange.read s = x ↔ HashRange.Reads s x) ∧
    ∀ s range weights parts, rangeOf s = .ok range → range.split weights = .ok parts →
      ∃ listing, split s weights = .ok listing ∧ Listing.Shows range weights parts listing := by
  refine ⟨?_, ?_, ?_, ?_, ?_, ?_, ?_, ?_, ?_⟩
  · intro s a
    rw [HashRange.readHash_eq_ok_iff, KeyHash.read?_eq_some_iff]
  · intro s e
    rw [HashRange.readHash_eq_error_iff, KeyHash.read?_eq_none_iff]
  · exact HashRange.readHash_text
  · exact fun a b => ⟨Iff.rfl, KeyHash.bytes_lt_iff.symm, KeyHash.text_lt_text_iff.symm⟩
  · exact fun a => ⟨a.ofNat_toNat, a.ofBytes_bytes, a.text_eq_encode⟩
  · exact fun bytes h => KeyHash.bytes_ofBytes h
  · exact fun n h => KeyHash.toNat_ofNat h
  · exact HashRange.read_eq_iff
  · intro s range weights parts hrange hparts
    exact ⟨_, split_eq_ok hrange hparts, Listing.shows_ofSplit hparts⟩

/-- The keyspace in halves, and the numbers and bytes of a hash in each. -/
theorem texts_exact_halves :
    (KeyHash.ofNat 255).toNat = 255 ∧
    (KeyHash.ofBytes (List.replicate 16 255)).bytes = List.replicate 16 255 ∧
    ∃ parts listing, rangeOf {} = .ok .full ∧
      HashRange.full.split (Weight.equal 2) = .ok parts ∧
      split {} (Weight.equal 2) = .ok listing ∧
      Listing.Shows .full (Weight.equal 2) parts listing := by
  let lower : HashRange := ⟨.least, ⟨2 ^ 127 - 1, by decide⟩, by decide⟩
  let upper : HashRange := ⟨⟨2 ^ 127, by decide⟩, .greatest, by decide⟩
  have hparts : HashRange.full.split (Weight.equal 2) = .ok [lower, upper] := by decide +kernel
  obtain ⟨-, -, -, -, -, hbytes, hnumbers, -, hsplit⟩ := texts_exact
  obtain ⟨listing, hlisting, hshows⟩ := hsplit {} .full (Weight.equal 2) _ rfl hparts
  exact ⟨hnumbers 255 (by decide), hbytes _ (List.length_replicate ..), _, listing, rfl, hparts,
    hlisting, hshows⟩

end Command

end PoliteCrawl

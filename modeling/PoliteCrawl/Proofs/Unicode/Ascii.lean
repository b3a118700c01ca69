import Mathlib.Data.List.Basic
import PoliteCrawl.Unicode.Lower

namespace PoliteCrawl.Unicode

namespace Runs

variable {α : Type} {starts : Array (Nat × α)} {n k low high : Nat}

/-- Bisection ends where the runs that begin at `n` or before do. -/
theorem bisect_eq (hbelow : ∀ i < k, ∀ run, starts[i]? = some run → run.1 ≤ n)
    (habove : ∀ i ≥ k, ∀ run, starts[i]? = some run → n < run.1)
    (hlow : low ≤ k) (hhigh : k < high) (hsize : high ≤ starts.size + 1) :
    bisect starts n low high = k := by
  -- `k` stays between the bounds: the run in the middle tells in which half it is
  induction low, high using bisect.induct starts n with
  | case1 low high hwide mid start value hget hstart ih =>
    have hmid : mid = (low + high) / 2 := rfl
    have hk : mid ≤ k := by
      by_contra hlt
      have hafter := habove (mid - 1) (by omega) _ hget
      omega
    rw [bisect, if_pos hwide]
    dsimp only
    rw [← hmid, hget]
    dsimp only
    rw [if_pos hstart]
    exact ih hk hhigh hsize
  | case2 low high hwide mid start value hget hstart ih =>
    have hmid : mid = (low + high) / 2 := rfl
    have hk : k < mid := by
      by_contra hge
      have hbefore := hbelow (mid - 1) (by omega) _ hget
      omega
    rw [bisect, if_pos hwide]
    dsimp only
    rw [← hmid, hget]
    dsimp only
    rw [if_neg hstart]
    exact ih hlow hk (by omega)
  | case3 low high hwide mid hget =>
    have hmid : mid = (low + high) / 2 := rfl
    rw [Array.getElem?_eq_none_iff] at hget
    omega
  | case4 low high hnarrow =>
    rw [bisect, if_neg hnarrow]
    omega

theorem rank_eq {r : Runs α} (hbelow : ∀ i < k, ∀ run, r.starts[i]? = some run → run.1 ≤ n)
    (habove : ∀ i ≥ k, ∀ run, r.starts[i]? = some run → n < run.1) (hk : k ≤ r.starts.size) :
    r.rank n = k :=
  bisect_eq hbelow habove (Nat.zero_le k) (Nat.lt_succ_of_le hk) (Nat.le_refl _)

/-- Where only the first run can begin at `n` or before. -/
theorem find?_of_starts {r : Runs α} {first : Nat × α} {rest : List (Nat × α)}
    (hstarts : r.starts = (first :: rest).toArray) (hrest : ∀ run ∈ rest, n < run.1) :
    r.find? n = if n < first.1 then none else some first := by
  have hfirst : r.starts[0]? = some first := by simp [hstarts]
  have hlater : ∀ i run, r.starts[i + 1]? = some run → n < run.1 := by
    intro i run hrun
    rw [hstarts] at hrun
    exact hrest run (List.mem_of_getElem? (by simpa using hrun))
  by_cases hn : n < first.1
  · have hrank : r.rank n = 0 := by
      refine rank_eq (fun i hi => absurd hi (Nat.not_lt_zero i)) ?_ (Nat.zero_le _)
      intro i _ run hrun
      cases i with
      | zero =>
        rw [hfirst] at hrun
        cases hrun
        exact hn
      | succ i => exact hlater i run hrun
    rw [find?, hrank, if_pos hn]
  · have hrank : r.rank n = 1 := by
      refine rank_eq ?_ ?_ (by simp [hstarts])
      · intro i hi run hrun
        obtain rfl : i = 0 := by omega
        rw [hfirst] at hrun
        cases hrun
        exact Nat.le_of_not_lt hn
      · intro i hi run hrun
        obtain ⟨j, rfl⟩ := Nat.exists_eq_add_of_le' hi
        exact hlater j run hrun
    rw [find?, hrank, if_neg hn]
    exact hfirst

def listed (value : Char → List Char → α) (cs : List Char) : List (Nat × α) :=
  ((Text.splitOnEach ' ' (cs.map fun c => if c = '\n' then ' ' else c)).filter (· ≠ [])).map
    fun entry =>
      match entry.dropWhile Text.Hex.isDigit with
      | mark :: rest => (hexOf (entry.takeWhile Text.Hex.isDigit), value mark rest)
      | [] => (hexOf (entry.takeWhile Text.Hex.isDigit), value ' ' [])

theorem starts_parse (value : Char → List Char → α) (cs : List Char) :
    (Runs.parse value (String.ofList cs)).starts = (listed value cs).toArray := by
  rw [Runs.parse, entriesOf, String.toList_ofList]
  rfl

end Runs

/-- Whether the first run is that of the capital letters of ASCII, and no other is in ASCII. -/
def beginsWithAscii : List (Nat × LowerForm) → Bool
  | (65, .shifted 90 97) :: rest => rest.all fun run => 128 ≤ run.1
  | _ => false

theorem exists_of_beginsWithAscii {runs : List (Nat × LowerForm)} (h : beginsWithAscii runs) :
    ∃ rest, runs = (65, .shifted 90 97) :: rest ∧ ∀ run ∈ rest, 128 ≤ run.1 := by
  unfold beginsWithAscii at h
  split at h
  · rename_i rest
    exact ⟨rest, rfl, by simpa using h⟩
  · cases h

set_option maxRecDepth 100000 in
theorem exists_lowerRuns : ∃ cs, lowerRuns = String.ofList cs ∧
    beginsWithAscii (Runs.listed (fun _ rest => .ofEntry rest) cs) :=
  ⟨_, rfl, by decide +kernel⟩

theorem exists_starts_lowerTable : ∃ rest,
    lowerTable.starts = ((65, .shifted 90 97) :: rest).toArray ∧ ∀ run ∈ rest, 128 ≤ run.1 := by
  obtain ⟨cs, hcs, hbegins⟩ := exists_lowerRuns
  obtain ⟨rest, hlisted, hrest⟩ := exists_of_beginsWithAscii hbegins
  refine ⟨rest, ?_, hrest⟩
  rw [lowerTable, hcs, Runs.starts_parse, hlisted]

/-- Within ASCII, only the capital letters are in a run. -/
theorem find?_lowerTable {n : Nat} (h : n < 128) :
    lowerTable.find? n = if n < 65 then none else some (65, .shifted 90 97) := by
  obtain ⟨rest, hstarts, hrest⟩ := exists_starts_lowerTable
  rw [Runs.find?_of_starts hstarts fun run hrun => Nat.lt_of_lt_of_le h (hrest run hrun)]

theorem toLower_ofNat : ∀ n < 128, (Char.ofNat n).toLower =
    if 65 ≤ n ∧ n ≤ 90 then Char.ofNat (97 + (n - 65)) else Char.ofNat n := by decide

theorem lowerChar_ascii {c : Char} (h : c.toNat < 128) : lowerChar c = [c.toLower] := by
  have hc := toLower_ofNat c.toNat h
  rw [Char.ofNat_toNat] at hc
  -- Its equation lemma would have the whole table evaluated.
  have hopen : lowerChar = lowerChar := rfl
  conv_rhs at hopen => delta lowerChar
  rw [congrFun hopen c]
  dsimp only
  rw [find?_lowerTable h, hc]
  by_cases hn : c.toNat < 65
  · rw [if_pos hn, if_neg (by omega)]
  · rw [if_neg hn]
    by_cases hlast : c.toNat ≤ 90
    · simp [hlast, Nat.le_of_not_lt hn]
    · simp [hlast]

theorem lowerFrom_ascii {cs : List Char} (h : ∀ c ∈ cs, c.toNat < 128) (before : List Char) :
    lowerFrom before cs = cs.map Char.toLower := by
  induction cs generalizing before with
  | nil => rfl
  | cons c cs ih =>
    have hc := h c List.mem_cons_self
    have hsigma : c ≠ 'Σ' := by
      rintro rfl
      exact absurd hc (by decide)
    have hrest := ih (fun d hd => h d (List.mem_cons_of_mem _ hd)) (c :: before)
    rw [lowerFrom, hrest, lowerChar_ascii hc]
    simp [hsigma]

/-- Lower case of a text in ASCII. -/
theorem lower_ascii {s : String} (h : ∀ c ∈ s.toList, c.toNat < 128) :
    lower s = String.ofList (s.toList.map Char.toLower) := by
  rw [lower, lowerFrom_ascii h]

theorem lower_of_all {s : String} (h : s.toList.all (fun c => c.toNat < 128) = true) :
    lower s = String.ofList (s.toList.map Char.toLower) :=
  lower_ascii (by simpa using h)

end PoliteCrawl.Unicode

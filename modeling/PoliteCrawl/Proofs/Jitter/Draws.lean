import PoliteCrawl.Proofs.Jitter

namespace PoliteCrawl.Jitter

def stride : UInt64 := 0x2d358dccaa6c78a5

def word (s : UInt64) : UInt64 :=
  let t := s.toNat * (s ^^^ 0x8bb84b93962eacc9).toNat
  UInt64.ofNat t ^^^ UInt64.ofNat (t / 2 ^ 64)

theorem next_eq (j : Jitter) : j.next = (word (j.state + stride), ⟨j.state + stride⟩) := rfl

/-- What the low half of a product has to reach for a number below `n` to be as likely as any
other. -/
def threshold (n : Nat) : Nat := (2 ^ 64 - n) % n

theorem threshold_lt {n : Nat} (hpos : 0 < n) : threshold n < n := Nat.mod_lt _ hpos

theorem threshold_le (n : Nat) : threshold n ≤ 2 ^ 64 - n := Nat.mod_le _ _

def Takes (n : Nat) (w : UInt64) : Prop := threshold n ≤ w.toNat * n % 2 ^ 64

instance (n : Nat) (w : UInt64) : Decidable (Takes n w) := Nat.decLe _ _

/-- What a draw of a number below `n` comes to if it ends, without a bound on its turns. -/
inductive Draws (n : Nat) : Jitter → Nat → Jitter → Prop where
  | takes {j : Jitter} (h : Takes n j.next.1) : Draws n j (j.next.1.toNat * n / 2 ^ 64) j.next.2
  | again {j last : Jitter} {x : Nat} (h : ¬ Takes n j.next.1) (hrest : Draws n j.next.2 x last) :
    Draws n j x last

variable {n fuel turns : Nat} {j : Jitter}

/-- A bound on the turns does no harm if one of them takes its word. -/
theorem draws_below (h : Takes n (word (j.state + UInt64.ofNat (turns + 1) * stride)))
    (hfuel : turns < fuel) :
    Draws n j (below n (threshold n) fuel j).1 (below n (threshold n) fuel j).2 := by
  induction fuel generalizing j turns with
  | zero => cases hfuel
  | succ fuel ih =>
    by_cases hnow : Takes n j.next.1
    · have hbelow : below n (threshold n) (fuel + 1) j =
          (j.next.1.toNat * n / 2 ^ 64, j.next.2) := if_neg (Nat.not_lt.mpr hnow)
      rw [hbelow]
      exact .takes hnow
    · have hbelow : below n (threshold n) (fuel + 1) j = below n (threshold n) fuel j.next.2 :=
        if_pos (Nat.not_le.mp hnow)
      rw [hbelow]
      cases turns with
      | zero =>
        rw [show UInt64.ofNat (0 + 1) = 1 from rfl, UInt64.one_mul] at h
        exact absurd h hnow
      | succ turns =>
        refine .again hnow (ih ?_ (Nat.lt_of_succ_lt_succ hfuel))
        have hstate : j.next.2.state + UInt64.ofNat (turns + 1) * stride =
            j.state + UInt64.ofNat (turns + 1 + 1) * stride := by
          rw [next_eq, UInt64.ofNat_add (turns + 1) 1]
          grind
        rwa [hstate]

/-- The counter comes to each state, since its stride is odd. -/
theorem exists_turns (j : Jitter) (s : UInt64) :
    ∃ turns < 2 ^ 64, j.state + UInt64.ofNat (turns + 1) * stride = s := by
  have hinverse : (0x32e25c49d2beaf2d : UInt64) * stride = 1 := by decide
  let turns := (s - j.state) * 0x32e25c49d2beaf2d - 1
  refine ⟨turns.toNat, turns.toNat_lt, ?_⟩
  rw [UInt64.ofNat_add, UInt64.ofNat_toNat]
  grind

/-- Of two words that follow one another one is taken. -/
theorem takes_or_takes {w w' : UInt64} (hnext : w'.toNat = w.toNat + 1) (hpos : 0 < n)
    (hlt : n < 2 ^ 64) : Takes n w ∨ Takes n w' := by
  by_cases hw : Takes n w
  · exact .inl hw
  · have hlow := threshold_lt hpos
    have hhigh := threshold_le n
    have hsmall : w.toNat * n % 2 ^ 64 < threshold n := Nat.not_le.mp hw
    -- The low half grows by `n` from the one product to the other, and is not cut off.
    have hgrown : w'.toNat * n % 2 ^ 64 = w.toNat * n % 2 ^ 64 + n := by
      rw [hnext, Nat.add_mul, Nat.one_mul, ← Nat.mod_add_mod, Nat.mod_eq_of_lt]
      omega
    refine .inr ?_
    rw [Takes, hgrown]
    omega

theorem exists_successive : ∃ s s', (word s').toNat = (word s).toNat + 1 :=
  ⟨6345547068, 1431856618, by decide⟩

/-- A draw of a number up to `m` ends with a word that is taken. -/
theorem draws_upTo {m : Nat} (h : m < 2 ^ 64 - 1) (j : Jitter) :
    Draws (m + 1) j (j.upTo m).1 (j.upTo m).2 := by
  have htaken : ∃ s, Takes (m + 1) (word s) := by
    obtain ⟨s, s', hnext⟩ := exists_successive
    rcases takes_or_takes hnext (Nat.succ_pos m) (by omega) with hs | hs'
    · exact ⟨s, hs⟩
    · exact ⟨s', hs'⟩
  obtain ⟨s, hs⟩ := htaken
  obtain ⟨turns, hturns, rfl⟩ := j.exists_turns s
  rw [upTo, if_neg (by omega)]
  exact draws_below hs hturns

end PoliteCrawl.Jitter

import PoliteCrawl.Proofs.Calls
import PoliteCrawl.Proofs.Jitter.Draws

namespace PoliteCrawl

inductive JitterCall where
  | offset (most : Nat)
  | around (base spread : Nat)

namespace JitterCall

def base : JitterCall → Nat
  | offset _ => 0
  | around base _ => base

def spread : JitterCall → Nat
  | offset most => most
  | around _ spread => spread

def draws (c : JitterCall) : Bool := Time.milli ≤ c.spread

def Allows : JitterCall → Nat → Prop
  | offset most, d => Time.IsWhole d ∧ d ≤ most
  | around base spread, d => base ≤ d ∧ d ≤ Time.saturatingAdd base spread

end JitterCall

namespace Jitter

variable {j last : Jitter} {most d : Nat}

/-- What an offset of at most `most` comes to, without a bound on the turns of its draw. -/
inductive Offsets (most : Nat) : Jitter → Nat → Jitter → Prop where
  | none (j : Jitter) (h : Time.wholeMillis most = 0) : Offsets most j 0 j
  | drawn {j last : Jitter} {n : Nat} (hpos : Time.wholeMillis most ≠ 0)
    (hlt : Time.wholeMillis most < 2 ^ 64 - 1)
    (hdraw : Draws (Time.wholeMillis most + 1) j n last) :
    Offsets most j (Time.ofMillis n) last
  /-- No word is more than so many milliseconds. -/
  | word (j : Jitter) (h : 2 ^ 64 - 1 ≤ Time.wholeMillis most) :
    Offsets most j (Time.ofMillis j.next.1.toNat) j.next.2

theorem offsets_offset (j : Jitter) (most : Nat) :
    Offsets most j (j.offset most).1 (j.offset most).2 := by
  by_cases hzero : Time.wholeMillis most = 0
  · rw [offset, hzero]
    exact .none j hzero
  · by_cases hlt : Time.wholeMillis most < 2 ^ 64 - 1
    · rw [offset, Nat.min_eq_left (Nat.le_of_lt hlt), if_neg hzero]
      exact .drawn hzero hlt (draws_upTo hlt j)
    · rw [offset, Nat.min_eq_right (Nat.not_lt.mp hlt), if_neg (by decide), upTo,
        if_pos (Nat.le_refl _)]
      exact .word j (Nat.not_lt.mp hlt)

def call (j : Jitter) : JitterCall → Nat × Jitter
  | .offset most => j.offset most
  | .around base spread => j.around base spread

/-- What calls come to, one after the other, without a bound on the turns of a draw. -/
inductive Plays : Jitter → List JitterCall → List Nat → Jitter → Prop where
  | nil (j : Jitter) : Plays j [] [] j
  | offset {j next last : Jitter} {most d : Nat} {calls : List JitterCall} {answers : List Nat}
    (h : Offsets most j d next) (hrest : Plays next calls answers last) :
    Plays j (.offset most :: calls) (d :: answers) last
  | around {j next last : Jitter} {spread d : Nat} (base : Nat) {calls : List JitterCall}
    {answers : List Nat} (h : Offsets spread j d next) (hrest : Plays next calls answers last) :
    Plays j (.around base spread :: calls) (Time.saturatingAdd base d :: answers) last

theorem plays_run (j : Jitter) (calls : List JitterCall) :
    Plays j calls (Calls.run call j calls).1 (Calls.run call j calls).2 := by
  induction calls generalizing j with
  | nil => exact .nil j
  | cons c calls ih =>
    cases c with
    | offset most => exact .offset (offsets_offset j most) (ih _)
    | around base spread => exact .around base (offsets_offset j spread) (ih _)

theorem offset_of_lt (h : most < Time.milli) (j : Jitter) : j.offset most = (0, j) := by
  rw [offset, show Time.wholeMillis most = 0 from Nat.div_eq_of_lt h]
  rfl

variable {c : JitterCall}

/-- A call for less than a millisecond answers with its base and leaves the generator as it is. -/
theorem call_of_not_draws (h : c.draws = false) (j : Jitter) :
    j.call c = (min c.base Time.longest, j) := by
  have hspread : c.spread < Time.milli := by simpa [JitterCall.draws] using h
  cases c with
  | offset most => exact offset_of_lt hspread j
  | around base spread =>
    have hoffset : j.offset spread = (0, j) := offset_of_lt hspread j
    show j.around base spread = _
    rw [around, hoffset]
    rfl

theorem allows_call (hbase : c.base ≤ Time.longest) (j : Jitter) : c.Allows (j.call c).1 := by
  cases c with
  | offset most => exact ⟨j.isWhole_offset most, j.offset_le most⟩
  | around base spread =>
    exact ⟨j.le_around hbase spread,
      Nat.le_min.mpr ⟨j.around_le base spread, Nat.min_le_right _ _⟩⟩

/-- Whatever the seed is, calls on durations come to an end, and each answer is a number of whole
milliseconds up to the most that was asked for, or lies between the base and its sum with the
spread. Calls for less than a millisecond answer with their base; without them the others answer the
same. -/
theorem bounded_of_calls (seed : UInt64) (calls : List JitterCall)
    (h : ∀ c ∈ calls, c.base ≤ Time.longest) :
    let run := Calls.run call (seeded seed) calls
    Plays (seeded seed) calls run.1 run.2 ∧
      List.Forall₂ (fun c d => c.Allows d ∧ (c.draws = false → d = c.base)) calls run.1 ∧
      Calls.run call (seeded seed) (calls.filter JitterCall.draws) =
        (((calls.zip run.1).filter (·.1.draws)).map (·.2), run.2) := by
  have hkept : ∀ (j : Jitter), ∀ c ∈ calls,
      c.Allows (j.call c).1 ∧ (c.draws = false → (j.call c).1 = c.base) := by
    intro j c hc
    refine ⟨allows_call (h c hc) j, fun hidle => ?_⟩
    rw [call_of_not_draws hidle, Nat.min_eq_left (h c hc)]
  have hstill : ∀ (j : Jitter) (c : JitterCall), c.draws = false → (j.call c).2 = j := by
    intro j c hidle
    rw [call_of_not_draws hidle]
  exact ⟨plays_run _ _, Calls.forall₂_run hkept _, Calls.run_filter hstill _ _⟩

/-- A call that draws again, one that draws nothing, and one whose sum is cut off. -/
def mixedCalls : List JitterCall :=
  [.offset (2 ^ 63 * Time.milli), .around 5000 999999, .around Time.longest Time.milli]

theorem bounded_of_redrawn :
    (∀ c ∈ mixedCalls, c.base ≤ Time.longest) ∧ ¬ Takes (2 ^ 63 + 1) (seeded 7).next.1 ∧
      (Calls.run call (seeded 7) mixedCalls).1 =
        [4437612444886662856000000, 5000, Time.longest] ∧
      ∃ last, Plays (seeded 7) mixedCalls [4437612444886662856000000, 5000, Time.longest] last := by
  have hbase : ∀ c ∈ mixedCalls, c.base ≤ Time.longest := by decide
  have hrun : (Calls.run call (seeded 7) mixedCalls).1 =
      [4437612444886662856000000, 5000, Time.longest] := by decide +kernel
  exact ⟨hbase, by decide, hrun, _, hrun ▸ (bounded_of_calls 7 mixedCalls hbase).1⟩

end Jitter

end PoliteCrawl

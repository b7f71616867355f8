import Mathlib
import MatrixFree.Timing

/-!
# Exact totals of time

A duration is a count of nanoseconds.  As seconds and nanoseconds beyond them, each pair in range
is one duration, and the sum of two durations is found with a carry from the nanoseconds to the
seconds (`Duration.parts_add`).

Adding timings and summing a list of them give the exact total of each phase, or a fault if one of
the totals is longer than any duration: `Timings.sum` is `Timings.ofTotals` of the totals
(`Timings.sum_eq`).  Partial sums only grow, so an overflow on the way is one at the end, and
neither the value nor the fault depends on the order of the list, or on the groups in which it is
summed (`Timings.mapM_sum`).
-/

namespace MatrixFree

namespace Duration

/-! ## Counts of nanoseconds -/

/-- The longest duration. -/
def longest : Duration := ⟨wordCount * nanosPerSecond - 1, by decide⟩

theorem lt_of_le_longest {nanos : Nat} (fits : nanos ≤ longest.nanos) :
    nanos < wordCount * nanosPerSecond :=
  Nat.lt_of_le_of_lt fits longest.nanos_lt

theorem eq_of_nanos_eq {d e : Duration} (same : d.nanos = e.nanos) : d = e := by
  cases d
  cases e
  cases same
  rfl

/-- A sum of nanoseconds, if it is a duration. -/
def checked (nanos : Nat) : Except Fault Duration :=
  match ofNanos? nanos with
  | some d => .ok d
  | none => .error .durationOverflow

theorem add_eq (d e : Duration) : d.add e = checked (d.nanos + e.nanos) := rfl

@[simp] theorem checked_nanos (d : Duration) : checked d.nanos = .ok d := by
  simp only [checked, ofNanos?, d.nanos_lt, dif_pos]

theorem checked_of_longest_lt {nanos : Nat} (long : longest.nanos < nanos) :
    checked nanos = .error .durationOverflow := by
  have exceeds : ¬nanos < wordCount * nanosPerSecond := fun below =>
    Nat.not_lt_of_le (Nat.le_pred_of_lt below) long
  simp only [checked, ofNanos?, exceeds, dif_neg, not_false_eq_true]

/-! ## Seconds and nanoseconds -/

/-- Whole seconds, and the nanoseconds beyond them. -/
def parts (d : Duration) : Nat × Nat := (d.seconds, d.subsecond)

/-- The sum of two pairs of seconds and nanoseconds, with a carry.  There is none if the seconds
do not fit in a word. -/
def carryAdd : Nat × Nat → Nat × Nat → Option (Nat × Nat)
  | (s, n), (s', n') =>
    if wordCount ≤ s + s' then none
    else if n + n' < nanosPerSecond then some (s + s', n + n')
    else if wordCount ≤ s + s' + 1 then none
    else some (s + s' + 1, n + n' - nanosPerSecond)

theorem nanos_eq (d : Duration) : d.nanos = d.seconds * 1000000000 + d.subsecond :=
  (Nat.div_add_mod' d.nanos nanosPerSecond).symm

theorem subsecond_lt (d : Duration) : d.subsecond < nanosPerSecond := Nat.mod_lt _ (by decide)

theorem existsUnique_parts_iff (seconds nanos : Nat) :
    (∃! d : Duration, d.parts = (seconds, nanos)) ↔
      seconds < wordCount ∧ nanos < nanosPerSecond := by
  constructor
  · rintro ⟨d, whole, -⟩
    obtain ⟨rfl, rfl⟩ := Prod.mk.inj whole
    exact ⟨Nat.div_lt_of_lt_mul (Nat.mul_comm _ _ ▸ d.nanos_lt), d.subsecond_lt⟩
  · rintro ⟨inWord, below⟩
    have bound : seconds * nanosPerSecond + nanos < wordCount * nanosPerSecond := by
      simp only [wordCount, nanosPerSecond] at *
      omega
    have whole : (⟨_, bound⟩ : Duration).parts = (seconds, nanos) := by
      simp only [parts, Duration.seconds, subsecond, Prod.mk.injEq, nanosPerSecond] at *
      omega
    refine ⟨⟨_, bound⟩, whole, fun d same => eq_of_nanos_eq ?_⟩
    obtain ⟨rfl, rfl⟩ := Prod.mk.inj same
    exact d.nanos_eq

/-- Durations add up as pairs do. -/
theorem parts_add (d e : Duration) : (d.add e).toOption.map parts = carryAdd d.parts e.parts := by
  have word : wordCount = 18446744073709551616 := rfl
  have second : nanosPerSecond = 1000000000 := rfl
  have most : longest.nanos = 18446744073709551615999999999 := rfl
  have left := d.nanos_eq
  have left' := d.subsecond_lt
  have right := e.nanos_eq
  have right' := e.subsecond_lt
  rw [add_eq]
  unfold carryAdd parts
  dsimp only
  rcases Nat.lt_or_ge longest.nanos (d.nanos + e.nanos) with long | fits
  · rw [checked_of_longest_lt long]
    split
    · rfl
    · rw [if_neg (by omega), if_pos (by omega)]
      rfl
  · obtain ⟨sum, exact⟩ : ∃ sum : Duration, sum.nanos = d.nanos + e.nanos :=
      ⟨⟨_, lt_of_le_longest fits⟩, rfl⟩
    have whole := sum.nanos_eq
    have whole' := sum.subsecond_lt
    rw [← exact, checked_nanos, if_neg (by omega)]
    change some (sum.seconds, sum.subsecond) = _
    split
    · rw [Option.some_inj, Prod.mk.injEq]
      omega
    · rw [if_neg (by omega), Option.some_inj, Prod.mk.injEq]
      omega

end Duration

namespace Timings

open Duration

/-! ## Totals by phase -/

/-- The time spent in a phase. -/
def counter (t : Timings) : Phase → Duration
  | .setup => t.setup
  | .invert => t.invert
  | .packing => t.packing

/-- Nanoseconds in a phase, over all timings of a list. -/
def total (ts : List Timings) (phase : Phase) : Nat :=
  (ts.map fun t => (t.counter phase).nanos).sum

theorem total_cons (t : Timings) (ts : List Timings) (phase : Phase) :
    total (t :: ts) phase = (t.counter phase).nanos + total ts phase := List.sum_cons

theorem total_append (ts us : List Timings) (phase : Phase) :
    total (ts ++ us) phase = total ts phase + total us phase := by
  rw [total, List.map_append, List.sum_append]
  rfl

theorem total_perm {ts us : List Timings} (perm : ts.Perm us) : total ts = total us :=
  funext fun _ => (perm.map _).sum_eq

/-- Every phase's total is a duration. -/
def Fits (totals : Phase → Nat) : Prop := ∀ phase, totals phase ≤ longest.nanos

theorem not_fits_iff {totals : Phase → Nat} :
    ¬Fits totals ↔ ∃ phase, longest.nanos < totals phase := by
  simp only [Fits, not_forall, Nat.not_le]

theorem Fits.of_le {totals totals' : Phase → Nat} (fits : Fits totals')
    (le : ∀ phase, totals phase ≤ totals' phase) : Fits totals :=
  fun phase => Nat.le_trans (le phase) (fits phase)

theorem exists_counters {totals : Phase → Nat} (fits : Fits totals) :
    ∃ t : Timings, ∀ phase, (t.counter phase).nanos = totals phase := by
  refine ⟨⟨⟨totals .setup, lt_of_le_longest (fits _)⟩, ⟨totals .invert, lt_of_le_longest (fits _)⟩,
    ⟨totals .packing, lt_of_le_longest (fits _)⟩⟩, fun phase => ?_⟩
  cases phase with
  | setup => rfl
  | invert => rfl
  | packing => rfl

/-- The timings with these totals, if each of them is a duration. -/
def ofTotals (totals : Phase → Nat) : Except Fault Timings := do
  let setup ← checked (totals .setup)
  let invert ← checked (totals .invert)
  let packing ← checked (totals .packing)
  return ⟨setup, invert, packing⟩

theorem ofTotals_counter (t : Timings) :
    ofTotals (fun phase => (t.counter phase).nanos) = .ok t := by
  simp only [ofTotals, checked_nanos]
  rfl

theorem checked_cases (nanos : Nat) :
    (∃ d, checked nanos = .ok d) ∨ checked nanos = .error .durationOverflow := by
  rcases Nat.lt_or_ge longest.nanos nanos with long | fits
  · exact .inr (checked_of_longest_lt long)
  · exact .inl ⟨_, checked_nanos ⟨nanos, lt_of_le_longest fits⟩⟩

/-- The phases are tried in turn, and the first overflow is the fault, which is the same for
all. -/
theorem ofTotals_of_not_fits {totals : Phase → Nat} (long : ¬Fits totals) :
    ofTotals totals = .error .durationOverflow := by
  obtain ⟨phase, exceeds⟩ := not_fits_iff.mp long
  have refused := checked_of_longest_lt exceeds
  unfold ofTotals
  rcases checked_cases (totals .setup) with ⟨setup, first⟩ | first
  · rcases checked_cases (totals .invert) with ⟨invert, second⟩ | second
    · cases phase with
      | setup => cases first.symm.trans refused
      | invert => cases second.symm.trans refused
      | packing =>
          rw [first, second, refused]
          rfl
    · rw [first, second]
      rfl
  · rw [first]
    rfl

theorem ofTotals_eq_ok_iff {totals : Phase → Nat} {t : Timings} :
    ofTotals totals = .ok t ↔ ∀ phase, (t.counter phase).nanos = totals phase := by
  constructor
  · intro made
    by_cases fits : Fits totals
    · obtain ⟨u, counters⟩ := exists_counters fits
      rw [← funext counters, ofTotals_counter] at made
      cases made
      exact counters
    · rw [ofTotals_of_not_fits fits] at made
      cases made
  · intro counters
    rw [← funext counters]
    exact ofTotals_counter t

theorem ofTotals_eq_error_iff {totals : Phase → Nat} {fault : Fault} :
    ofTotals totals = .error fault ↔
      fault = .durationOverflow ∧ ∃ phase, longest.nanos < totals phase := by
  rw [← not_fits_iff]
  constructor
  · intro failed
    by_cases fits : Fits totals
    · obtain ⟨t, counters⟩ := exists_counters fits
      cases (ofTotals_eq_ok_iff.mpr counters).symm.trans failed
    · rw [ofTotals_of_not_fits fits] at failed
      cases failed
      exact ⟨rfl, fits⟩
  · rintro ⟨rfl, long⟩
    exact ofTotals_of_not_fits long

/-- What is too long stays too long when more is added. -/
theorem ofTotals_bind (totals more : Phase → Nat) :
    (ofTotals totals >>= fun t => ofTotals fun phase => (t.counter phase).nanos + more phase) =
      ofTotals fun phase => totals phase + more phase := by
  by_cases fits : Fits totals
  · obtain ⟨t, counters⟩ := exists_counters fits
    rw [ofTotals_eq_ok_iff.mpr counters, ← funext counters]
    rfl
  · have long : ¬Fits fun phase => totals phase + more phase := fun all =>
      fits (all.of_le fun _ => Nat.le_add_right _ _)
    rw [ofTotals_of_not_fits fits, ofTotals_of_not_fits long]
    rfl

/-! ## Sums -/

theorem add_eq_ofTotals (t u : Timings) :
    t.add u = ofTotals fun phase => (t.counter phase).nanos + (u.counter phase).nanos := rfl

theorem foldlM_add (ts : List Timings) (t : Timings) :
    ts.foldlM add t = ofTotals fun phase => (t.counter phase).nanos + total ts phase := by
  induction ts generalizing t with
  | nil => exact (ofTotals_counter t).symm
  | cons u ts ih =>
      rw [List.foldlM_cons, funext ih, add_eq_ofTotals, ofTotals_bind]
      simp only [total_cons, Nat.add_assoc]

/-- A sum is exact in each phase. -/
theorem sum_eq (ts : List Timings) : sum ts = ofTotals (total ts) := by
  have start : (fun phase => (zero.counter phase).nanos + total ts phase) = total ts := by
    funext phase
    cases phase <;> exact Nat.zero_add _
  rw [sum, foldlM_add, start]

/-- Groups of a list, summed one by one: all of them have a sum, or the whole list has none. -/
theorem mapM_sum (groups : List (List Timings)) :
    (∃ sums, groups.mapM sum = .ok sums ∧ total sums = total groups.flatten) ∨
      groups.mapM sum = .error .durationOverflow ∧ ¬Fits (total groups.flatten) := by
  induction groups with
  | nil => exact .inl ⟨[], rfl, rfl⟩
  | cons ts groups ih =>
      have whole (phase : Phase) : total (ts :: groups).flatten phase =
          total ts phase + total groups.flatten phase := by
        rw [List.flatten_cons, total_append]
      rw [List.mapM_cons, sum_eq]
      by_cases fits : Fits (total ts)
      · obtain ⟨t, counters⟩ := exists_counters fits
        rw [ofTotals_eq_ok_iff.mpr counters]
        rcases ih with ⟨sums, others, same⟩ | ⟨others, long⟩
        · refine .inl ⟨t :: sums, ?_, funext fun phase => ?_⟩
          · rw [others]
            rfl
          · rw [whole, total_cons, counters, same]
        · refine .inr ⟨?_, fun all => long (all.of_le fun phase => ?_)⟩
          · rw [others]
            rfl
          · rw [whole]
            exact Nat.le_add_left _ _
      · refine .inr ⟨?_, fun all => fits (all.of_le fun phase => ?_)⟩
        · rw [ofTotals_of_not_fits fits]
          rfl
        · rw [whole]
          exact Nat.le_add_right _ _

/-- Summing groups and then the sums is summing the list. -/
theorem sum_of_groups (groups : List (List Timings)) :
    (groups.mapM sum >>= sum) = sum groups.flatten := by
  rcases mapM_sum groups with ⟨sums, grouped, same⟩ | ⟨refused, long⟩
  · rw [grouped, sum_eq groups.flatten, ← same]
    exact sum_eq sums
  · rw [refused, sum_eq groups.flatten, ofTotals_of_not_fits long]
    rfl

theorem sum_perm {ts us : List Timings} (perm : ts.Perm us) : sum ts = sum us := by
  rw [sum_eq, sum_eq, total_perm perm]

end Timings

end MatrixFree

import MatrixFree.Proofs.Timing.Totals

/-!
# Where the time in a counter comes from

A program keeps timings under names and calls their methods.  A call works on what is stored, and
what it has stored when a fault ends it stays stored (`Clocked`).

A ledger holds for each phase the durations that went into the counter since the timings were last
taken, one after the other and never added up.  The same calls can be made on ledgers, where they
only move entries, and are refused if the entries of some phase make no duration together
(`Call.onLedgers`).  Whatever a program calls, its counters are the sums of their ledgers, and its
calls fail where those on ledgers are refused (`Call.runAll_balanced`).
-/

namespace MatrixFree.Timings

open Duration

variable {ι : Type} [DecidableEq ι]

/-- A call on timings under names.  An answer that is itself timings gets a name too. -/
inductive Call (ι : Type) where
  | record (name : ι) (phase : Phase) (elapsed : Duration)
  | take (source target : ι)
  | add (left right target : ι)
  | addAssign (target other : ι)

/-! ## Calls on timings -/

/-- A computation on the timings under all names.  A fault takes back nothing. -/
abbrev Clocked (ι : Type) := ExceptT Fault (StateM (ι → Timings))

def load (name : ι) : Clocked ι Timings := return (← get) name

def store (name : ι) (t : Timings) : Clocked ι Unit := modify (Function.update · name t)

namespace Call

def execute : Call ι → Clocked ι Unit
  | record name phase elapsed => do
    store name (← (← load name).record phase elapsed)
  | take source target => do
    let (taken, anew) := (← load source).take
    store source anew
    store target taken
  | add left right target => do
    store target (← (← load left).add (← load right))
  | addAssign target other => do
    store target (← (← load target).add (← load other))

/-- The answer of a call, and the timings after it. -/
def onTimings (timings : ι → Timings) (call : Call ι) : Except Fault Unit × (ι → Timings) :=
  call.execute.run timings

end Call

/-! ## Calls on ledgers -/

/-- The durations that make up a counter, for each phase. -/
abbrev Ledger := Phase → List Duration

namespace Ledger

/-- Nanoseconds in a phase. -/
def totals (ledger : Ledger) (phase : Phase) : Nat := ((ledger phase).map Duration.nanos).sum

/-- One duration more in a phase. -/
def enter (ledger : Ledger) (phase : Phase) (elapsed : Duration) : Ledger :=
  Function.update ledger phase (ledger phase ++ [elapsed])

/-- The entries of both. -/
def join (ledger other : Ledger) : Ledger := fun phase => ledger phase ++ other phase

theorem totals_enter (ledger : Ledger) (phase : Phase) (elapsed : Duration) :
    (ledger.enter phase elapsed).totals =
      Function.update ledger.totals phase (ledger.totals phase + elapsed.nanos) := by
  funext p
  by_cases here : p = phase
  · subst here
    simp [totals, enter]
  · simp [totals, enter, here]

theorem totals_join (ledger other : Ledger) (phase : Phase) :
    (ledger.join other).totals phase = ledger.totals phase + other.totals phase := by
  simp [totals, join]

end Ledger

instance (totals : Phase → Nat) : Decidable (Fits totals) :=
  decidable_of_iff (totals .setup ≤ longest.nanos ∧ totals .invert ≤ longest.nanos ∧
      totals .packing ≤ longest.nanos)
    ⟨fun ⟨setup, invert, packing⟩ phase => match phase with
      | .setup => setup
      | .invert => invert
      | .packing => packing, fun all => ⟨all _, all _, all _⟩⟩

/-- Put a ledger under a name, unless one of its totals is too long. -/
def post (ledgers : ι → Ledger) (name : ι) (ledger : Ledger) : Except Fault Unit × (ι → Ledger) :=
  if Fits ledger.totals then (.ok (), Function.update ledgers name ledger)
  else (.error .durationOverflow, ledgers)

namespace Call

def onLedgers (ledgers : ι → Ledger) : Call ι → Except Fault Unit × (ι → Ledger)
  | record name phase elapsed => post ledgers name ((ledgers name).enter phase elapsed)
  | take source target =>
    (.ok (), Function.update (Function.update ledgers source fun _ => []) target (ledgers source))
  | add left right target => post ledgers target ((ledgers left).join (ledgers right))
  | addAssign target other => post ledgers target ((ledgers target).join (ledgers other))

/-- Calls one after the other: their answers, and what they leave. -/
def runAll {S : Type} (step : S → Call ι → Except Fault Unit × S) :
    List (Call ι) → S → List (Except Fault Unit) × S
  | [], s => ([], s)
  | call :: calls, s =>
    let first := step s call
    let others := runAll step calls first.2
    (first.1 :: others.1, others.2)

end Call

/-! ## A call, executed -/

/-- Put timings under a name, if they could be made. -/
def put (timings : ι → Timings) (name : ι) :
    Except Fault Timings → Except Fault Unit × (ι → Timings)
  | .ok t => (.ok (), Function.update timings name t)
  | .error fault => (.error fault, timings)

/-- Nothing is stored before all of it has been made. -/
theorem run_store (timings : ι → Timings) (name : ι) (made : Except Fault Timings) :
    (do store name (← made) : Clocked ι Unit).run timings = put timings name made := by
  cases made with
  | ok t => rfl
  | error fault => rfl

namespace Call

variable (timings : ι → Timings)

theorem onTimings_record (name : ι) (phase : Phase) (elapsed : Duration) :
    onTimings timings (record name phase elapsed) =
      put timings name ((timings name).record phase elapsed) :=
  run_store timings name _

theorem onTimings_add (left right target : ι) :
    onTimings timings (add left right target) =
      put timings target ((timings left).add (timings right)) :=
  run_store timings target _

theorem onTimings_addAssign (target other : ι) :
    onTimings timings (addAssign target other) =
      put timings target ((timings target).add (timings other)) :=
  run_store timings target _

theorem onTimings_take (source target : ι) :
    onTimings timings (take source target) =
      (.ok (), Function.update (Function.update timings source zero) target (timings source)) :=
  rfl

end Call

/-- Only the counter of the phase is measured anew. -/
theorem record_eq (t : Timings) (phase : Phase) (elapsed : Duration) :
    t.record phase elapsed =
      ofTotals (Function.update (fun p => (t.counter p).nanos) phase
        ((t.counter phase).nanos + elapsed.nanos)) := by
  cases phase with
  | _ =>
      simp only [ofTotals, counter, Function.update_self, ne_eq, reduceCtorEq, not_false_eq_true,
        Function.update_of_ne, checked_nanos]
      rfl

/-! ## Counters are sums of ledgers -/

/-- Each counter is the sum of the entries of its phase. -/
def Balanced (timings : ι → Timings) (ledgers : ι → Ledger) : Prop :=
  ∀ name phase, ((timings name).counter phase).nanos = (ledgers name).totals phase

variable {timings : ι → Timings} {ledgers : ι → Ledger}

theorem Balanced.update (balanced : Balanced timings ledgers) (name : ι) {t : Timings}
    {ledger : Ledger} (same : ∀ phase, (t.counter phase).nanos = ledger.totals phase) :
    Balanced (Function.update timings name t) (Function.update ledgers name ledger) := by
  intro other phase
  by_cases here : other = name
  · subst here
    rw [Function.update_self, Function.update_self]
    exact same phase
  · rw [Function.update_of_ne here, Function.update_of_ne here]
    exact balanced other phase

/-- What is made with the totals of a ledger is stored where the ledger is, or refused with it. -/
theorem Balanced.put (balanced : Balanced timings ledgers) (name : ι) {made : Except Fault Timings}
    {ledger : Ledger} (exact : made = ofTotals ledger.totals) :
    (put timings name made).1 = (post ledgers name ledger).1 ∧
      Balanced (put timings name made).2 (post ledgers name ledger).2 := by
  subst exact
  unfold post
  by_cases fits : Fits ledger.totals
  · obtain ⟨t, counters⟩ := exists_counters fits
    rw [if_pos fits, ofTotals_eq_ok_iff.mpr counters]
    exact ⟨rfl, balanced.update name counters⟩
  · rw [if_neg fits, ofTotals_of_not_fits fits]
    exact ⟨rfl, balanced⟩

namespace Call

/-- A call on timings is the call on their ledgers. -/
theorem balanced (balanced : Balanced timings ledgers) (call : Call ι) :
    (onTimings timings call).1 = (onLedgers ledgers call).1 ∧
      Balanced (onTimings timings call).2 (onLedgers ledgers call).2 := by
  have sum (left right : ι) : (timings left).add (timings right) =
      ofTotals ((ledgers left).join (ledgers right)).totals := by
    rw [add_eq_ofTotals]
    refine congrArg ofTotals (funext fun phase => ?_)
    rw [Ledger.totals_join, balanced, balanced]
  cases call with
  | record name phase elapsed =>
      rw [onTimings_record]
      refine balanced.put name ?_
      rw [record_eq, Ledger.totals_enter, balanced, funext (balanced name)]
  | take source target =>
      rw [onTimings_take]
      have empty (phase : Phase) : (zero.counter phase).nanos = Ledger.totals (fun _ => []) phase := by
        cases phase <;> rfl
      exact ⟨rfl, (balanced.update source empty).update target (balanced source)⟩
  | add left right target =>
      rw [onTimings_add]
      exact balanced.put target (sum left right)
  | addAssign target other =>
      rw [onTimings_addAssign]
      exact balanced.put target (sum target other)

theorem runAll_balanced (start : Balanced timings ledgers) (calls : List (Call ι)) :
    (runAll onTimings calls timings).1 = (runAll onLedgers calls ledgers).1 ∧
      Balanced (runAll onTimings calls timings).2 (runAll onLedgers calls ledgers).2 := by
  induction calls generalizing timings ledgers with
  | nil => exact ⟨rfl, start⟩
  | cons call calls ih =>
      obtain ⟨answer, next⟩ := balanced start call
      obtain ⟨answers, last⟩ := ih next
      exact ⟨congrArg₂ List.cons answer answers, last⟩

theorem put_of_error {name : ι} {made : Except Fault Timings} {totals : Phase → Nat} {fault : Fault}
    (exact : made = ofTotals totals) (failed : (put timings name made).1 = .error fault) :
    fault = .durationOverflow ∧ (put timings name made).2 = timings := by
  cases made with
  | ok t => cases failed
  | error e =>
      cases failed
      exact ⟨(ofTotals_eq_error_iff.mp exact.symm).1, rfl⟩

/-- A call that fails changes no timings. -/
theorem onTimings_of_error {call : Call ι} {fault : Fault}
    (failed : (onTimings timings call).1 = .error fault) :
    fault = .durationOverflow ∧ (onTimings timings call).2 = timings := by
  cases call with
  | record name phase elapsed =>
      rw [onTimings_record] at failed ⊢
      exact put_of_error (record_eq _ _ _) failed
  | take source target => cases failed
  | add left right target =>
      rw [onTimings_add] at failed ⊢
      exact put_of_error (add_eq_ofTotals _ _) failed
  | addAssign target other =>
      rw [onTimings_addAssign] at failed ⊢
      exact put_of_error (add_eq_ofTotals _ _) failed

end Call

/-! ## Exact times -/

/-- The ledgers that timings start with have their counters as entries. -/
def opened (timings : ι → Timings) (name : ι) : Ledger := fun phase => [(timings name).counter phase]

omit [DecidableEq ι] in
theorem balanced_opened (timings : ι → Timings) : Balanced timings (opened timings) :=
  fun _ _ => List.sum_singleton.symm

/-- The sum of a list of timings is the exact total of each phase, however the list is arranged. -/
structure Summed (ts : List Timings) : Prop where
  exact : ∀ t, sum ts = .ok t ↔ ∀ phase, (t.counter phase).nanos = total ts phase
  fails : ∀ fault, sum ts = .error fault ↔
    fault = .durationOverflow ∧ ∃ phase, longest.nanos < total ts phase
  order : ∀ us, us.Perm ts → sum us = sum ts
  grouping : ∀ groups : List (List Timings), groups.flatten.Perm ts →
    (groups.mapM sum >>= sum) = sum ts

theorem summed (ts : List Timings) : Summed ts where
  exact t := by rw [sum_eq, ofTotals_eq_ok_iff]
  fails fault := by rw [sum_eq, ofTotals_eq_error_iff]
  order us perm := sum_perm perm
  grouping groups perm := (sum_of_groups groups).trans (sum_perm perm)

/-- **Time is neither lost nor counted twice.**  Durations are the pairs of seconds in a word and
nanoseconds below a second, and they add up with a carry, or not at all.  After any calls on any
number of timings, each counter is the sum of the durations in its ledger, which are those that were
recorded in the phase, or came with other timings, since the timings were last taken; and each call
has failed exactly if some counter would have been longer than any duration.  A call that fails
leaves all timings as they were.  A list of timings sums to the exact total of each phase, in any
order and by any groups, and fails to exactly if one of these totals is too long. -/
theorem counters_exact (ι : Type) [DecidableEq ι] :
    ((∀ seconds nanos, (∃! d : Duration, d.parts = (seconds, nanos)) ↔
        seconds < wordCount ∧ nanos < nanosPerSecond) ∧
      ∀ d e : Duration, (d.add e).toOption.map parts = carryAdd d.parts e.parts) ∧
    (∀ (start : ι → Timings) (calls : List (Call ι)),
      let made := Call.runAll Call.onTimings calls start
      let meant := Call.runAll Call.onLedgers calls (opened start)
      made.1 = meant.1 ∧ Balanced made.2 meant.2) ∧
    (∀ (timings : ι → Timings) (call : Call ι) (fault : Fault),
      (call.onTimings timings).1 = .error fault →
        fault = .durationOverflow ∧ (call.onTimings timings).2 = timings) ∧
    ∀ ts : List Timings, Summed ts :=
  ⟨⟨existsUnique_parts_iff, parts_add⟩,
    fun start calls => Call.runAll_balanced (balanced_opened start) calls,
    fun _ _ _ failed => Call.onTimings_of_error failed, summed⟩

/-- Packing in the first timings takes as long as can be, so they cannot be added to timings with a
nanosecond of it, and not even their other phases are.  Once taken, they can. -/
theorem counters_exact_taken :
    let calls : List (Call (Fin 3)) :=
      [.record 0 .setup ⟨700000000, by decide⟩, .record 0 .packing longest,
        .record 1 .setup ⟨600000000, by decide⟩, .record 1 .packing ⟨1, by decide⟩,
        .addAssign 1 0, .take 0 2, .record 0 .setup ⟨500000000, by decide⟩, .addAssign 1 0]
    let made := Call.runAll Call.onTimings calls fun _ => zero
    made.1 = [.ok (), .ok (), .ok (), .ok (), .error .durationOverflow, .ok (), .ok (), .ok ()] ∧
      ((made.2 1).counter .setup).parts = (1, 100000000) ∧
      (made.2 2).counter .packing = longest ∧
      sum [made.2 0, made.2 1, made.2 2] = .error .durationOverflow := by
  intro calls made
  obtain ⟨-, runs, -, sums⟩ := counters_exact (Fin 3)
  obtain ⟨answers, balanced⟩ := runs (fun _ => zero) calls
  have setup : ((made.2 1).counter .setup).nanos = 1100000000 :=
    (balanced 1 .setup).trans (by decide +kernel)
  have one : ((made.2 1).counter .packing).nanos = 1 :=
    (balanced 1 .packing).trans (by decide +kernel)
  have most : ((made.2 2).counter .packing).nanos = longest.nanos :=
    (balanced 2 .packing).trans (by decide +kernel)
  refine ⟨answers.trans (by decide +kernel), ?_, eq_of_nanos_eq most, ?_⟩
  · rw [parts, seconds, subsecond, setup]
    rfl
  · refine ((sums _).fails _).mpr ⟨rfl, .packing, ?_⟩
    simp only [total_cons, one, most]
    omega

end MatrixFree.Timings

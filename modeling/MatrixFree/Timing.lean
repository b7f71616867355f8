import MatrixFree.Failure
import MatrixFree.Text.Number
import MatrixFree.Word

/-!
# Timings

Durations are exact counts of nanoseconds, below `2 ^ 64` seconds. Each session adds up the time it
spends in three phases, and the sums of several sessions are added phase by phase. A sum that is no
duration any more is a fault, and then nothing is added at all.
-/

namespace MatrixFree

open Text

/-- Nanoseconds in a second. -/
def nanosPerSecond : Nat := 1000000000

/-- An exact span of time. -/
structure Duration where
  nanos : Nat
  nanos_lt : nanos < wordCount * nanosPerSecond
deriving DecidableEq

namespace Duration

def zero : Duration := ⟨0, by decide⟩

/-- A count of nanoseconds, if it is a duration. -/
def ofNanos? (nanos : Nat) : Option Duration :=
  if h : nanos < wordCount * nanosPerSecond then some ⟨nanos, h⟩ else none

/-- Seconds and nanoseconds, of which there may be more than a second. -/
def ofParts (seconds nanos : Nat) : Except Fault Duration :=
  match ofNanos? (seconds * nanosPerSecond + nanos) with
  | some d => .ok d
  | none => .error .durationTooLong

def add (d e : Duration) : Except Fault Duration :=
  match ofNanos? (d.nanos + e.nanos) with
  | some sum => .ok sum
  | none => .error .durationOverflow

/-- Whole seconds. -/
def seconds (d : Duration) : Nat := d.nanos / nanosPerSecond

/-- Nanoseconds beyond the whole seconds. -/
def subsecond (d : Duration) : Nat := d.nanos % nanosPerSecond

/-- Seconds in binary64, whole seconds and fraction each rounded. -/
def toFloat (d : Duration) : Float :=
  d.seconds.toUInt64.toFloat + d.subsecond.toUInt64.toFloat / 1e9

end Duration

/-- What time is spent on. Packing that happens while inverting counts in both. -/
inductive Phase where
  | setup
  | invert
  | packing
deriving DecidableEq, Repr

/-- Time spent in each phase. -/
structure Timings where
  setup : Duration
  invert : Duration
  packing : Duration
deriving DecidableEq

namespace Timings

def zero : Timings := ⟨.zero, .zero, .zero⟩

/-- Phase by phase. -/
def add (t u : Timings) : Except Fault Timings := do
  let setup ← t.setup.add u.setup
  let invert ← t.invert.add u.invert
  let packing ← t.packing.add u.packing
  return ⟨setup, invert, packing⟩

/-- Add a measurement to its phase. -/
def record (t : Timings) : Phase → Duration → Except Fault Timings
  | .setup, d => do return { t with setup := ← t.setup.add d }
  | .invert, d => do return { t with invert := ← t.invert.add d }
  | .packing, d => do return { t with packing := ← t.packing.add d }

/-- The times so far, and the timings that start anew. -/
def take (t : Timings) : Timings × Timings := (t, zero)

/-- Sum of a list, from the first to the last. -/
def sum (ts : List Timings) : Except Fault Timings := ts.foldlM add zero

/-- Seconds with six decimals. -/
def text (t : Timings) : String :=
  let seconds := fun (d : Duration) => Number.places 6 d.toFloat
  "Setup " ++ seconds t.setup ++ " , Invert(packing) " ++ seconds t.invert ++ "("
    ++ seconds t.packing ++ ")"

end Timings

end MatrixFree

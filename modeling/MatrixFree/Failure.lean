import MatrixFree.Grid.Kind
import MatrixFree.Text.Layout
import MatrixFree.Text.Quoted

/-!
# What can go wrong

Two families of errors are answers that a caller is meant to handle. The engine (shell operators,
vectors, solver handles) reports an `EngineError`, a session reports a `SessionError`, and either may
carry the other: a session names the engine call that failed, and an operator that a session runs
inside the engine sends its own error through the engine's `callback`.

A `Fault` is a broken promise of the caller instead, such as an index outside a field. Operators may
commit one as well, so what runs an operator answers a `Failure`: an error or a fault.

Every case holds its cause. The texts are made by the `message` functions alone.
-/

namespace MatrixFree

open Text

mutual

/-- Errors of the solver engine. -/
inductive EngineError where
  | invalidArgument (what : String)
  | sizeMismatch (expected found : Nat)
  | wrongState (what : String)
  | nullArgument (what : String)
  /-- An option whose value cannot be read. -/
  | badOption (key value : String)
  /-- The multiply of a shell operator failed. -/
  | callback (cause : Cause)
  | unsupported (what : String)
deriving DecidableEq

/-- What a failed multiply reports. -/
inductive Cause where
  | text (what : String)
  | session (e : SessionError)
deriving DecidableEq

/-- Errors of an invertible operator session. -/
inductive SessionError where
  | setupReentry
  | useBeforeSetup
  | useAfterDestroy
  /-- The field given lives on another mesh than the session. -/
  | meshMismatch
  /-- The operator function answered on another mesh. -/
  | foreignResult
  /-- The solver stopped without converging. -/
  | notConverged (reason : Int)
  /-- A call of the engine failed. -/
  | engineCall (call : String) (source : EngineError)
  | localSizeMismatch (expected found : Nat)
  | unallocated
  | unsupported (what : String)
deriving DecidableEq

end

/-- Promises that a caller can break. -/
inductive Fault where
  | readUnallocated (kind : Grid.Kind)
  | writtenUnallocated (kind : Grid.Kind)
  | outsideExtents (index extents : List Nat)
  /-- An index without an entry in storage, because the count of entries has wrapped around. -/
  | outsideStorage (size position : Nat)
  /-- An inner product of vectors of two lengths. -/
  | lengthMismatch (left right : Nat)
  | durationOverflow
  /-- Seconds and nanoseconds that make no duration together. -/
  | durationTooLong
  /-- A block of storage larger than any can be. -/
  | capacityOverflow
deriving DecidableEq, Repr

/-- The outcomes of running an operator that are no answer. -/
inductive Failure (ε : Type) where
  | error (e : ε)
  | fault (f : Fault)
deriving DecidableEq

namespace EngineError

/-- The number that stands for the error. -/
def code : EngineError → Int
  | invalidArgument _ => 62
  | sizeMismatch _ _ => 60
  | wrongState _ => 73
  | nullArgument _ => 85
  | badOption _ _ => 62
  | callback _ => 83
  | unsupported _ => 56

/-- The name of the case. -/
def name : EngineError → String
  | invalidArgument _ => "InvalidArgument"
  | sizeMismatch _ _ => "SizeMismatch"
  | wrongState _ => "WrongState"
  | nullArgument _ => "NullArgument"
  | badOption _ _ => "BadOption"
  | callback _ => "Callback"
  | unsupported _ => "Unsupported"

def message : EngineError → String
  | invalidArgument what => "invalid argument: " ++ what
  | sizeMismatch expected found =>
    "size mismatch: expected " ++ toString expected ++ ", found " ++ toString found
  | wrongState what => "object in wrong state: " ++ what
  | nullArgument what => "null argument: " ++ what
  | badOption key value => "option -" ++ key ++ ": cannot parse " ++ quote value
  | callback _ => "shell multiply callback failed"
  | unsupported what => "unsupported operation: " ++ what

end EngineError

namespace SessionError

/-- The name of the case. -/
def name : SessionError → String
  | setupReentry => "SetupReentry"
  | useBeforeSetup => "UseBeforeSetup"
  | useAfterDestroy => "UseAfterDestroy"
  | meshMismatch => "MeshMismatch"
  | foreignResult => "ForeignOperatorResult"
  | notConverged _ => "ConvergenceFailure"
  | engineCall _ _ => "EngineCall"
  | localSizeMismatch _ _ => "LocalSizeMismatch"
  | unallocated => "Unallocated"
  | unsupported _ => "Unsupported"

def message : SessionError → String
  | setupReentry => "setup called on an invertible operator that has already been set up"
  | useBeforeSetup => "invert called on an invertible operator that has not been set up"
  | useAfterDestroy => "invertible operator used after it was destroyed"
  | meshMismatch => "field is bound to a different mesh than the invertible operator"
  | foreignResult => "operator function returned a field bound to a different mesh"
  | notConverged reason => "KSP solve failed with converged reason " ++ toString reason
  | engineCall call source => call ++ " failed with status " ++ toString source.code
  | localSizeMismatch expected found =>
    "local vector length " ++ toString expected ++ " does not match field entry count "
      ++ toString found
  | unallocated => "field has not been allocated"
  | unsupported what => "unsupported operation: " ++ what

end SessionError

def Cause.message : Cause → String
  | text what => what
  | session e => e.message

mutual

/-- The error with all it carries, as a structured text. -/
def EngineError.detail : EngineError → String
  | .invalidArgument what => applied "InvalidArgument" (quote what)
  | .sizeMismatch expected found =>
    record "SizeMismatch" [("expected", toString expected), ("found", toString found)]
  | .wrongState what => applied "WrongState" (quote what)
  | .nullArgument what => applied "NullArgument" (quote what)
  | .badOption key value => record "BadOption" [("key", quote key), ("value", quote value)]
  | .callback cause => applied "Callback" cause.detail
  | .unsupported what => applied "Unsupported" (quote what)

/-- The cause with all it carries. -/
def Cause.detail : Cause → String
  | .text what => quote what
  | .session e => e.detail

/-- The error with all it carries, as a structured text. -/
def SessionError.detail : SessionError → String
  | .setupReentry => "SetupReentry"
  | .useBeforeSetup => "UseBeforeSetup"
  | .useAfterDestroy => "UseAfterDestroy"
  | .meshMismatch => "MeshMismatch"
  | .foreignResult => "ForeignOperatorResult"
  | .notConverged reason => record "ConvergenceFailure" [("reason", toString reason)]
  | .engineCall call source =>
    record "EngineCall"
      [("call", quote call), ("code", toString source.code), ("source", source.detail)]
  | .localSizeMismatch expected found =>
    record "LocalSizeMismatch" [("expected", toString expected), ("found", toString found)]
  | .unallocated => "Unallocated"
  | .unsupported what => applied "Unsupported" (quote what)

end

def Fault.message : Fault → String
  | readUnallocated kind => kind.name ++ " read before allocation"
  | writtenUnallocated kind => kind.name ++ " written before allocation"
  | outsideExtents index extents =>
    "index " ++ tuple (index.map toString) ++ " outside local extents "
      ++ tuple (extents.map toString)
  | outsideStorage size position =>
    "index out of bounds: the len is " ++ toString size ++ " but the index is " ++ toString position
  | lengthMismatch left right =>
    "assertion `left == right` failed: Vectors must have the same length\n  left: "
      ++ toString left ++ "\n right: " ++ toString right
  | durationOverflow => "overflow when adding durations"
  | durationTooLong => "overflow in Duration::new"
  | capacityOverflow => "capacity overflow"

end MatrixFree

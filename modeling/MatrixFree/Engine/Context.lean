import MatrixFree.Failure

/-!
# Contexts of unknown type

A context for operators that share a multiply and differ in a value, whose type the multiply only
learns when it asks for it.
-/

namespace MatrixFree.Engine

/-- A value of one of four types. -/
inductive Context where
  | unit
  | text (s : String)
  | word (w : UInt32)
  | real (x : Float)

namespace Context

/-- The types a context may have. -/
inductive Shape where
  | unit
  | text
  | word
  | real
deriving DecidableEq, Repr

/-- The name of the type in errors. -/
def Shape.name : Shape → String
  | unit => "()"
  | text => "alloc::string::String"
  | word => "u32"
  | real => "f64"

def shape : Context → Shape
  | unit => .unit
  | text _ => .text
  | word _ => .word
  | real _ => .real

/-- The error of a context that has another type than the one asked for. -/
def notA (shape : Shape) : EngineError := .invalidArgument ("shell context is not a " ++ shape.name)

/-- The context, if it has the type asked for. -/
def expect (c : Context) (shape : Shape) : Except EngineError Context :=
  if c.shape = shape then .ok c else .error (notA shape)

/-- The number in a context that holds a word. -/
def word? : Context → Except EngineError UInt32
  | word w => .ok w
  | _ => .error (notA .word)

end Context

end MatrixFree.Engine

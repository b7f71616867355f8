import MatrixFree.Operators.Rule
import MatrixFree.Operators.Staged
import MatrixFree.Session.Adapter

/-!
# Ready-made operators on fields

A rule runs on the values of a field in the order of its indices; the neighbours of a tridiagonal
rule are the neighbours in x. Reading a field that holds no values is a fault. Other operators answer
a field that a session has to refuse.
-/

namespace MatrixFree.Operators

open Grid

/-- An operator on fields. -/
inductive OnField where
  /-- The input as it is, with or without values. -/
  | identity
  | rule (r : Rule)
  /-- A field without values on the input's mesh. -/
  | unallocated
  /-- A field of ones on a mesh of its own. -/
  | foreign (mesh : Mesh)
  /-- A field without values on a mesh of its own. -/
  | foreignUnallocated (mesh : Mesh)

namespace OnField

variable {k : Kind}

def run (o : OnField) (f : Field k) : Except Fault (Field k) :=
  match o with
  | identity => .ok f
  | rule r => do
    let x := (← f.gather).toArray
    let y := r.apply (x.size / f.mesh.nx) x (Vector.replicate x.size 0.0)
    Field.ofList f.mesh y.toList
  | unallocated => .ok (.new f.mesh)
  | foreign mesh => Field.ofFn mesh fun _ => 1.0
  | foreignUnallocated mesh => .ok (.new mesh)

/-- A constant and a multiple of each coordinate, added from the left. -/
def affine (constant : Float) (slopes : List Float) (index : Box.Index) : Float :=
  (slopes.zip index).foldl (fun acc (c, i) => acc + c * i.toUInt64.toFloat) constant

/-- The operator function. -/
def function (s : Staged OnField) : FieldOperator k Nat := s.operator run

end OnField

end MatrixFree.Operators

/-!
# The communicator

A partitioned problem is spread over the processes of a communicator, and sums and maxima are taken
over all of them. The library runs on one process, where every reduction is the identity.

Counts are reduced like any other number, in binary64. A count above `2 ^ 53` is therefore rounded to
the nearest binary64 number, and comes back as the closest 64-bit count to that.
-/

namespace MatrixFree

/-- The processes that share a problem. -/
inductive Communicator where
  | serial
deriving DecidableEq, Repr

namespace Communicator

/-- The number of this process. -/
def rank : Communicator → Nat
  | serial => 0

/-- The number of processes. -/
def size : Communicator → Nat
  | serial => 1

/-- Sum over all processes. -/
def sum : Communicator → Float → Float
  | serial, x => x

/-- Maximum over all processes. -/
def max : Communicator → Float → Float
  | serial, x => x

/-- Sum of a count over all processes. -/
def total (c : Communicator) (count : Nat) : Nat := (c.sum count.toUInt64.toFloat).toUInt64.toNat

def text : Communicator → String
  | serial => "Serial"

end Communicator

end MatrixFree

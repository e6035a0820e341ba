/-!
# Limits

How deep and how large a condition may be.  The nesting limit applies while a
condition is read and again while it is evaluated; the node limit applies to
reading only.
-/

namespace Criteria

/--
The greatest nesting of arrays and functions, and the greatest number of nodes.
-/
structure Limits where
  maxDepth : Nat
  maxNodes : Nat
  deriving DecidableEq

namespace Limits

/-- The limits in force unless others are configured. -/
def standard : Limits :=
  ⟨64, 10000⟩

instance : Inhabited Limits :=
  ⟨standard⟩

end Limits

end Criteria

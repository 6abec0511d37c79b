/-! # Refusals

Devices and stores can be told to fail chosen calls before they reach anything.  `Refusals` lists
the calls of one method to refuse, numbered from zero, and counts the calls made. -/

namespace CaptureFlow

/-- Which calls of a method are refused, and how many have been made. -/
structure Refusals where
  refused : List Nat := []
  made : Nat := 0
deriving DecidableEq, Repr, Inhabited

namespace Refusals

def refusesNext (r : Refusals) : Bool := r.refused.contains r.made

def count (r : Refusals) : Refusals := { r with made := r.made + 1 }

def none : Refusals := {}

@[simp] theorem refusesNext_count_none (n : Nat) :
    refusesNext { refused := [], made := n } = false := rfl

end Refusals

end CaptureFlow


namespace Dispatchers.Text

/-- Every `step`-th code point from `first` to `last`. -/
structure Run where
  first : Nat
  last : Nat
  step : Nat

/-- A run whose code points all move by the distance from `first` to `target`. -/
structure Shift extends Run where
  target : Nat

def Run.contains (r : Run) (n : Nat) : Bool :=
  r.first ≤ n && n ≤ r.last && (n - r.first) % r.step == 0

def Shift.image? (s : Shift) (n : Nat) : Option Nat :=
  if s.toRun.contains n then some (s.target + (n - s.first)) else none

end Dispatchers.Text

import ControlLoop.Decimal.Nearest

namespace ControlLoop

/-! # Summary statistics and the round-trip window

`Summary.of?` summarises the finite values of a list: least, greatest, the mean of their
left-to-right sum, and their count; there is no summary of no finite values. A round-trip
window keeps the last thousand values pushed into it and counts every push.
-/

/-- Least, greatest and mean of some finite values, and how many there were. -/
structure Summary where
  min : Float
  max : Float
  mean : Float
  count : Nat

namespace Summary

/-- The running least: a value replaces the least unless the least is strictly smaller. -/
def least (acc x : Float) : Float := if acc < x then acc else x

/-- The running greatest: a value replaces the greatest unless it is strictly larger. -/
def greatest (acc x : Float) : Float := if acc > x then acc else x

/-- The summary of the finite values of `xs`, if there are any. -/
def of? (xs : List Float) : Option Summary :=
  let finite := xs.filter Float.isFinite
  if finite.isEmpty then none
  else
    let lo := finite.foldl least (Binary64.infinity false)
    let hi := finite.foldl greatest (Binary64.infinity true)
    let sum := finite.foldl (· + ·) 0.0
    some ⟨lo, hi, sum / Binary64.ofInt finite.length, finite.length⟩

end Summary

/-- The most values a window keeps. -/
def windowCapacity : Nat := 1000

/-- The last values pushed, oldest first, and the number of pushes ever made, as a 64-bit
counter. -/
structure RttWindow where
  samples : List Float := []
  total : UInt64 := 0

namespace RttWindow

/-- Pushes a value, dropping the oldest when the window is full. -/
def push (w : RttWindow) (x : Float) : RttWindow :=
  let kept := if w.samples.length ≥ windowCapacity then w.samples.drop 1 else w.samples
  { samples := kept ++ [x], total := w.total + 1 }

/-- The summary of the values in the window. -/
def summary (w : RttWindow) : Option Summary := Summary.of? w.samples

end RttWindow

end ControlLoop

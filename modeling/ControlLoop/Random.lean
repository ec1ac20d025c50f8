import ControlLoop.Fault

namespace ControlLoop

/-! # A pseudo-random source

Noise is drawn from a SplitMix64 generator: the state advances by a fixed odd constant, and
each output is the state mixed by two multiply-xorshift rounds. The top 53 bits of an output
give a double in `[0, 1)`.

A draw from `[lo, hi)` fails, and stops the program (`Panic.emptyRange`,
`Panic.nonFinite`), when the range is empty (`lo < hi` is false, as with a NaN bound) or when
its width `hi - lo` is not a finite number.
-/

/-- The state of the generator. -/
structure Random where
  seed : UInt64 := 0x853c49e6748fea9b
  deriving Inhabited

namespace Random

/-- The next 64 random bits. -/
def next (r : Random) : UInt64 × Random :=
  let s := r.seed + 0x9e3779b97f4a7c15
  let z := (s ^^^ (s >>> 30)) * 0xbf58476d1ce4e5b9
  let z := (z ^^^ (z >>> 27)) * 0x94d049bb133111eb
  (z ^^^ (z >>> 31), ⟨s⟩)

/-- A double drawn evenly from `[lo, hi)`, or why there is none. -/
def uniform (r : Random) (lo hi : Float) : Except Panic (Float × Random) :=
  if !(lo < hi) then .error .emptyRange
  else if !(hi - lo).isFinite then .error .nonFinite
  else
    let (bits, r) := r.next
    let u := (bits >>> 11).toFloat / 9007199254740992.0
    .ok (lo + u * (hi - lo), r)

end Random

end ControlLoop

import ControlLoop.Decimal.Nearest

namespace ControlLoop

/-! # Spans of time

A span is a whole number of nanoseconds. Reading seconds given as a double rounds to the
nearest nanosecond, a tie going to the even count; negative numbers, NaN, and spans of
`2^64` seconds or more have no span. A span reads back as seconds by adding its whole
seconds to its remaining nanoseconds over `10^9`.
-/

/-- A span of time. -/
structure Duration where
  nanos : Nat
  deriving DecidableEq, Repr, Inhabited

/-- Why a number of seconds is not a span. -/
inductive DurationError where
  | negative
  | tooBigOrNan
  deriving DecidableEq, Repr

/-- The words for a number of seconds that is not a span. -/
def DurationError.message : DurationError → String
  | .negative => "cannot convert float seconds to Duration: value is negative"
  | .tooBigOrNan => "cannot convert float seconds to Duration: value is either too big or NaN"

namespace Duration

/-- Nanoseconds per second. -/
def perSecond : Nat := 1000000000

/-- The whole seconds. -/
def secs (d : Duration) : Nat := d.nanos / perSecond

/-- The nanoseconds past the whole seconds. -/
def subsecNanos (d : Duration) : Nat := d.nanos % perSecond

/-- A span of milliseconds. -/
def ofMillis (ms : Nat) : Duration := ⟨ms * 1000000⟩

/-- The span in seconds. -/
def toSeconds (d : Duration) : Float := Binary64.ofInt d.secs + Binary64.ofInt d.subsecNanos / 1e9

/-- The span of a number of seconds, rounded to the nearest nanosecond (ties to even). -/
def ofSeconds? (x : Float) : Except DurationError Duration :=
  if x < 0.0 then .error .negative
  else match Binary64.shape x with
    | .nan | .infinite _ => .error .tooBigOrNan
    | .zero _ => .ok ⟨0⟩
    | .finite _ mant exp =>
      if mant * 2 ^ exp.toNat ≥ 2 ^ 64 * 2 ^ (-exp).toNat then .error .tooBigOrNan
      else .ok ⟨Binary64.roundHalfEven (mant * perSecond * 2 ^ exp.toNat) (2 ^ (-exp).toNat)⟩

/-- The span between tick starts at a rate: one second over the rate, at least one tick per
second. -/
def period (rate : Nat) : Duration :=
  match ofSeconds? (1.0 / Binary64.ofInt (max rate 1)) with
  | .ok d => d
  | .error _ => ⟨0⟩

end Duration

end ControlLoop

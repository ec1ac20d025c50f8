import ControlLoop.Decimal.Nearest
import ControlLoop.Double
import ControlLoop.Decimal.Text
import ControlLoop.NameMap

namespace ControlLoop

/-! # Property values

A property of a plant holds a truth value, a 64-bit integer or a double (kept as its bits).
Controllers and recorders read every value as a number (`true` is one), tests read it as a
truth (nonzero is true, NaN too), and an offset moves numbers while leaving truths alone.
Two values are equal when they have the same kind and, for doubles, the same number, so a
NaN equals nothing. A value prints plainly, or tagged with its kind.
-/

/-- The value of one property. -/
inductive Value where
  | bool (b : Bool)
  | int (i : Int64)
  | float (x : Double)
  deriving Inhabited, Repr

/-- Property values by name, in byte order of the names. -/
abbrev PropMap := NameMap Value

namespace Value

/-- The value of a `Float`. -/
def ofFloat (x : Float) : Value := float (Double.ofFloat x)

/-- Same kind and same number: doubles compare as numbers, so `0.0` equals `-0.0` and a NaN
equals nothing. -/
def beq : Value → Value → Bool
  | bool a, bool b => a == b
  | int a, int b => a == b
  | float a, float b => a.toFloat == b.toFloat
  | _, _ => false

instance : BEq Value := ⟨beq⟩

/-- The numeric view: truths are 0 and 1, integers round to the nearest double. -/
def toFloat : Value → Float
  | bool b => if b then 1.0 else 0.0
  | int i => Binary64.ofInt i.toInt
  | float x => x.toFloat

/-- The truth view: integers and doubles are true when nonzero (NaN is true). -/
def toBool : Value → Bool
  | bool b => b
  | int i => i != 0
  | float x => x.toFloat != 0.0

/-- Adds `d` to a number, which becomes a double; a truth is unchanged. -/
def offset (v : Value) (d : Float) : Value :=
  match v with
  | bool b => bool b
  | int _ => ofFloat (v.toFloat + d)
  | float x => ofFloat (x.toFloat + d)

/-- The plain text: `true`, `-3`, `0.1`, `1000000000000000000000`. -/
def display : Value → String
  | bool b => toString b
  | int i => toString i.toInt
  | float x => FloatFormat.plain.render x.toFloat

/-- The tagged text: `Bool(true)`, `Int(-3)`, `Float(1e21)`, `Float(100.0)`. -/
def tagged : Value → String
  | bool b => "Bool(" ++ toString b ++ ")"
  | int i => "Int(" ++ toString i.toInt ++ ")"
  | float x => "Float(" ++ FloatFormat.marked.render x.toFloat ++ ")"

end Value

end ControlLoop

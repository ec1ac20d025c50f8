import ControlLoop.Decimal.Basic

namespace ControlLoop

/-! # Doubles by their bits

A double is held as its 64 bits. Arithmetic goes through `Float`, but a `Float` reads every
NaN back as the same quiet NaN, so a double that only travels, from the wire back to the
wire, is kept as bits: its sign, exponent and fraction, a NaN's payload included, come out
exactly as they went in.
-/

/-- A double as its 64 bits. -/
structure Double where
  bits : UInt64
  deriving DecidableEq, Inhabited, Repr

namespace Double

/-- The double of a `Float`. -/
def ofFloat (x : Float) : Double := ⟨x.toBits⟩

/-- The `Float` of a double; every NaN becomes the quiet NaN. -/
def toFloat (x : Double) : Float := Float.ofBits x.bits

/-- The double of a bit pattern given as a number (taken modulo `2^64`). -/
def ofBitsNat (n : Nat) : Double := ⟨UInt64.ofNat n⟩

/-- The bits of a double as a number. -/
def toBitsNat (x : Double) : Nat := x.bits.toNat

/-- The quiet NaN: the one NaN a `Float` holds. -/
def quietNaN : Double := ⟨0x7ff8000000000000⟩

/-- Whether the double is a NaN: an exponent field of all ones and a fraction that is not
zero. -/
def isNaN (x : Double) : Bool := Binary64.shapeOfBits x.bits.toNat == .nan

/-- The double with a NaN made the quiet NaN: what a `Float` keeps of it. -/
def quieted (x : Double) : Double := if x.isNaN then quietNaN else x

/-- The double with its sign bit flipped, as negation does to every double, a NaN included. -/
def neg (x : Double) : Double := ⟨x.bits ^^^ 0x8000000000000000⟩

/-- The bits read back give the same double. -/
@[simp] theorem ofBitsNat_toBitsNat (x : Double) : ofBitsNat x.toBitsNat = x := by
  simp [ofBitsNat, toBitsNat]

end Double

end ControlLoop

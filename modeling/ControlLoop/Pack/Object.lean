import ControlLoop.Power

namespace ControlLoop

/-! # MessagePack objects

The objects of the MessagePack format, as they stand on the wire: integers keep whether
they were written with a signed or an unsigned marker, floats keep their bit pattern, and
strings keep their raw bytes, which need not be valid UTF-8.
-/

namespace Pack

/-- One MessagePack object. -/
inductive Obj where
  | nil
  | bool (b : Bool)
  /-- An integer written with an unsigned marker (positive fixint or `uint8`…`uint64`). -/
  | uint (n : Nat)
  /-- An integer written with a signed marker (negative fixint or `int8`…`int64`). -/
  | sint (i : Int)
  /-- A single-precision float, by its 32 bits. -/
  | f32 (bits : Nat)
  /-- A double-precision float, by its 64 bits. -/
  | f64 (bits : Nat)
  | str (bytes : List UInt8)
  | bin (bytes : List UInt8)
  | arr (items : List Obj)
  | map (entries : List (Obj × Obj))
  | ext (tag : UInt8) (data : List UInt8)
  deriving Repr, Inhabited

/-- A number as `width` bytes, most significant first. -/
def bigEndian (width n : Nat) : List UInt8 :=
  (List.range width).reverse.map fun i => UInt8.ofNat (n / 256 ^ i % 256)

/-- The number that bytes stand for, most significant first. -/
def ofBigEndian (bs : List UInt8) : Nat := bs.foldl (fun n b => 256 * n + b.toNat) 0

end Pack

end ControlLoop

import ControlLoop.Pack.Object

namespace ControlLoop

/-! # Writing MessagePack

Each object is written in its shortest form: an integer takes the smallest marker that
holds it (a non-negative one always an unsigned marker), a string or map length the
smallest header. Floats keep their width.
-/

namespace Pack

/-- A marker byte followed by a big-endian number. -/
def tagged (marker : UInt8) (width n : Nat) : List UInt8 := marker :: bigEndian width n

/-- A non-negative integer in its shortest form. -/
def writeUint (n : Nat) : List UInt8 :=
  if n < 128 then [UInt8.ofNat n]
  else if n < 2 ^ 8 then tagged 0xcc 1 n
  else if n < 2 ^ 16 then tagged 0xcd 2 n
  else if n < 2 ^ 32 then tagged 0xce 4 n
  else tagged 0xcf 8 n

/-- An integer in its shortest form: non-negative ones as unsigned, negative ones in two's
complement of the smallest width. -/
def writeInt (i : Int) : List UInt8 :=
  if 0 ≤ i then writeUint i.toNat
  else if -32 ≤ i then [UInt8.ofNat (256 + i).toNat]
  else if -2 ^ 7 ≤ i then tagged 0xd0 1 (2 ^ 8 + i).toNat
  else if -2 ^ 15 ≤ i then tagged 0xd1 2 (2 ^ 16 + i).toNat
  else if -2 ^ 31 ≤ i then tagged 0xd2 4 (2 ^ 32 + i).toNat
  else tagged 0xd3 8 (2 ^ 64 + i).toNat

/-- A length header: the fixed form below `fixLimit`, else one of 8 (if `w8` is given),
16 or 32 bits. -/
def header (fixBase : UInt8) (fixLimit : Nat) (w8 : Option UInt8) (w16 w32 : UInt8) (n : Nat) :
    List UInt8 :=
  if n < fixLimit then [fixBase + UInt8.ofNat n]
  else match w8 with
    | some m => if n < 2 ^ 8 then tagged m 1 n else if n < 2 ^ 16 then tagged w16 2 n else tagged w32 4 n
    | none => if n < 2 ^ 16 then tagged w16 2 n else tagged w32 4 n

/-- A string of raw bytes. -/
def writeStr (bs : List UInt8) : List UInt8 := header 0xa0 32 (some 0xd9) 0xda 0xdb bs.length ++ bs

/-- The bytes of an extension object: a fixed form for 1, 2, 4, 8 and 16 bytes, else a
length of 8, 16 or 32 bits; then the tag and the data. -/
def writeExt (tag : UInt8) (data : List UInt8) : List UInt8 :=
  let n := data.length
  let head := match n with
    | 1 => [0xd4] | 2 => [0xd5] | 4 => [0xd6] | 8 => [0xd7] | 16 => [0xd8]
    | _ => if n < 2 ^ 8 then tagged 0xc7 1 n else if n < 2 ^ 16 then tagged 0xc8 2 n
      else tagged 0xc9 4 n
  head ++ tag :: data

mutual

/-- The bytes of an object. -/
def Obj.write : Obj → List UInt8
  | .nil => [0xc0]
  | .bool b => [if b then 0xc3 else 0xc2]
  | .uint n => writeUint n
  | .sint i => writeInt i
  | .f32 bits => tagged 0xca 4 bits
  | .f64 bits => tagged 0xcb 8 bits
  | .str bs => writeStr bs
  | .bin bs => header 0 0 (some 0xc4) 0xc5 0xc6 bs.length ++ bs
  | .arr items => header 0x90 16 none 0xdc 0xdd items.length ++ Obj.writeItems items
  | .map entries => header 0x80 16 none 0xde 0xdf entries.length ++ Obj.writeEntries entries
  | .ext tag data => writeExt tag data

/-- The bytes of objects one after another. -/
def Obj.writeItems : List Obj → List UInt8
  | [] => []
  | o :: os => o.write ++ Obj.writeItems os

/-- The bytes of map entries, each key before its value. -/
def Obj.writeEntries : List (Obj × Obj) → List UInt8
  | [] => []
  | (k, v) :: rest => k.write ++ v.write ++ Obj.writeEntries rest

end

end Pack

end ControlLoop

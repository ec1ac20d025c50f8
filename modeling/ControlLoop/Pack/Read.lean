import ControlLoop.Pack.Object

namespace ControlLoop

/-! # Reading MessagePack

`Obj.read room bytes` reads one object from the front of `bytes` and returns it with the
bytes after it. Every marker of the format is accepted except the reserved `0xc1`. Nesting
is bounded: `room` is how many more containers (arrays, maps, extensions) may open inside
the current one, and a container that opens with no room left fails. A read that runs out
of bytes fails.
-/

namespace Pack

/-- The first `n` bytes and the rest, when there are at least `n`. -/
def takeExact (n : Nat) (bs : List UInt8) : Option (List UInt8 × List UInt8) :=
  if bs.length < n then none else some (bs.take n, bs.drop n)

/-- A big-endian number of `width` bytes and the rest. -/
def readNat (width : Nat) (bs : List UInt8) : Option (Nat × List UInt8) :=
  (takeExact width bs).map fun (h, r) => (ofBigEndian h, r)

/-- A two's-complement number of `width` bytes and the rest. -/
def readInt (width : Nat) (bs : List UInt8) : Option (Int × List UInt8) :=
  (readNat width bs).map fun (n, r) =>
    (if n ≥ 2 ^ (8 * width - 1) then (n : Int) - 2 ^ (8 * width) else n, r)

/-- A length of `width` bytes, then that many bytes. -/
def readBlob (width : Nat) (bs : List UInt8) : Option (List UInt8 × List UInt8) := do
  let (n, r) ← readNat width bs
  takeExact n r

/-- `n` items, each read by `item`, one after another. -/
def readSeq {α : Type} (item : List UInt8 → Option (α × List UInt8)) :
    Nat → List UInt8 → Option (List α × List UInt8)
  | 0, bs => some ([], bs)
  | n + 1, bs => do
    let (a, r) ← item bs
    let (as, r) ← readSeq item n r
    pure (a :: as, r)

/-- An extension object: its tag, then `n` bytes of data. -/
def readExtBody (n : Nat) (bs : List UInt8) : Option (Obj × List UInt8) :=
  match bs with
  | tag :: r => (takeExact n r).map fun (d, r) => (.ext tag d, r)
  | [] => none

/-- Reads one object with room for `room` more nested containers. -/
def Obj.read : Nat → List UInt8 → Option (Obj × List UInt8)
  | _, [] => none
  | room, b :: rest =>
    let n := b.toNat
    -- opening a container uses up one unit of room
    let items (count : Nat) : Option (List Obj × List UInt8) :=
      match room with
      | 0 => none
      | r + 1 => readSeq (Obj.read r) count rest
    let entries (count : Nat) (bs : List UInt8) : Option (List (Obj × Obj) × List UInt8) :=
      match room with
      | 0 => none
      | r + 1 => readSeq (fun bs => do
          let (k, bs) ← Obj.read r bs
          let (v, bs) ← Obj.read r bs
          pure ((k, v), bs)) count bs
    let arrOf (width : Nat) : Option (Obj × List UInt8) := do
      let (c, r) ← readNat width rest
      match room with
      | 0 => none
      | r' + 1 => (readSeq (Obj.read r') c r).map fun (xs, r) => (.arr xs, r)
    let mapOf (width : Nat) : Option (Obj × List UInt8) := do
      let (c, r) ← readNat width rest
      (entries c r).map fun (es, r) => (.map es, r)
    let ext (lenWidth fixed : Nat) : Option (Obj × List UInt8) :=
      match room with
      | 0 => none
      | _ + 1 =>
        if lenWidth = 0 then readExtBody fixed rest
        else do
          let (len, r) ← readNat lenWidth rest
          readExtBody len r
    if n < 0x80 then some (.uint n, rest)
    else if n < 0x90 then (entries (n - 0x80) rest).map fun (es, r) => (.map es, r)
    else if n < 0xa0 then (items (n - 0x90)).map fun (xs, r) => (.arr xs, r)
    else if n < 0xc0 then (takeExact (n - 0xa0) rest).map fun (s, r) => (.str s, r)
    else if n ≥ 0xe0 then some (.sint ((n : Int) - 256), rest)
    else match n with
      | 0xc0 => some (.nil, rest)
      | 0xc2 => some (.bool false, rest)
      | 0xc3 => some (.bool true, rest)
      | 0xc4 => (readBlob 1 rest).map fun (s, r) => (.bin s, r)
      | 0xc5 => (readBlob 2 rest).map fun (s, r) => (.bin s, r)
      | 0xc6 => (readBlob 4 rest).map fun (s, r) => (.bin s, r)
      | 0xc7 => ext 1 0
      | 0xc8 => ext 2 0
      | 0xc9 => ext 4 0
      | 0xca => (readNat 4 rest).map fun (v, r) => (.f32 v, r)
      | 0xcb => (readNat 8 rest).map fun (v, r) => (.f64 v, r)
      | 0xcc => (readNat 1 rest).map fun (v, r) => (.uint v, r)
      | 0xcd => (readNat 2 rest).map fun (v, r) => (.uint v, r)
      | 0xce => (readNat 4 rest).map fun (v, r) => (.uint v, r)
      | 0xcf => (readNat 8 rest).map fun (v, r) => (.uint v, r)
      | 0xd0 => (readInt 1 rest).map fun (v, r) => (.sint v, r)
      | 0xd1 => (readInt 2 rest).map fun (v, r) => (.sint v, r)
      | 0xd2 => (readInt 4 rest).map fun (v, r) => (.sint v, r)
      | 0xd3 => (readInt 8 rest).map fun (v, r) => (.sint v, r)
      | 0xd4 => ext 0 1
      | 0xd5 => ext 0 2
      | 0xd6 => ext 0 4
      | 0xd7 => ext 0 8
      | 0xd8 => ext 0 16
      | 0xd9 => (readBlob 1 rest).map fun (s, r) => (.str s, r)
      | 0xda => (readBlob 2 rest).map fun (s, r) => (.str s, r)
      | 0xdb => (readBlob 4 rest).map fun (s, r) => (.str s, r)
      | 0xdc => arrOf 2
      | 0xdd => arrOf 4
      | 0xde => mapOf 2
      | 0xdf => mapOf 4
      | _ => none

end Pack

end ControlLoop

import ControlLoop.Message.Basic
import ControlLoop.Pack.Read
import ControlLoop.Pack.Write

namespace ControlLoop

/-! # Messages on the wire

A message is written as a MessagePack map of four entries, `msg_type`, `seq`, `timestamp`
and `payload` in that order, with the payload's names in byte order. Reading is more
tolerant: the four fields may come in any order, named by string, by binary, or by their
position number; other keys are skipped; the positional form is an array of exactly four
objects; integers of any width are accepted where the value fits; and bytes after the
message are left alone. A field given twice, a missing field or a value of the wrong kind
makes the message malformed.
-/

namespace Pack

/-- The text of UTF-8 bytes, when they are valid. -/
def utf8? (bs : List UInt8) : Option String := String.fromUTF8? (ByteArray.mk bs.toArray)

/-- The UTF-8 bytes of a text. -/
def bytesOf (s : String) : List UInt8 := s.toUTF8.toList

/-- The double of single-precision bits, exactly. A NaN is made quiet and keeps its payload
in the high fraction bits. -/
def widenF32 (bits : Nat) : Double :=
  let negative := decide (bits / 2 ^ 31 % 2 = 1)
  let field := bits / 2 ^ 23 % 256
  let frac := bits % 2 ^ 23
  let sign := if negative then 2 ^ 63 else 0
  if field = 255 then
    if frac = 0 then .ofBitsNat (sign + 2047 * 2 ^ 52)
    else .ofBitsNat (sign + 2047 * 2 ^ 52 + (frac ||| 2 ^ 22) * 2 ^ 29)
  else .ofFloat <|
    if field = 0 then Binary64.ofRatio negative frac (2 ^ 149)
    else if field ≥ 150 then Binary64.ofRatio negative ((frac + 2 ^ 23) * 2 ^ (field - 150)) 1
    else Binary64.ofRatio negative (frac + 2 ^ 23) (2 ^ (150 - field))

/-- The double an integer or float object stands for. -/
def Obj.toDouble? : Obj → Option Double
  | .uint n => some (.ofFloat (Binary64.ofInt n))
  | .sint i => some (.ofFloat (Binary64.ofInt i))
  | .f32 bits => some (widenF32 bits)
  | .f64 bits => some (.ofBitsNat bits)
  | _ => none

/-- The value of an integer object, whatever its marker. -/
def Obj.toInt? : Obj → Option Int
  | .uint n => some n
  | .sint i => some i
  | _ => none

end Pack

open Pack

namespace Value

/-- A value as an object: integers in their shortest form, doubles by their bits. -/
def toObj : Value → Obj
  | .bool b => .bool b
  | .int i => if 0 ≤ i.toInt then .uint i.toInt.toNat else .sint i.toInt
  | .float x => .f64 x.toBitsNat

/-- The value an object stands for: a truth, an integer that fits 64 signed bits, a larger
unsigned integer as the nearest double, or a float. -/
def ofObj? : Obj → Option Value
  | .bool b => some (.bool b)
  | .uint n => if n < 2 ^ 63 then some (.int (Int64.ofInt n)) else some (.ofFloat (Binary64.ofInt n))
  | .sint i => some (.int (Int64.ofInt i))
  | .f32 bits => some (.float (widenF32 bits))
  | .f64 bits => some (.float (.ofBitsNat bits))
  | _ => none

end Value

namespace Message

/-- The names of the four fields, in the order they are written. -/
def fieldNames : List String := ["msg_type", "seq", "timestamp", "payload"]

/-- A message as a MessagePack map. -/
def toObj (m : Message) : Obj :=
  .map [(.str (bytesOf "msg_type"), .uint m.kind.code), (.str (bytesOf "seq"), .uint m.seq),
    (.str (bytesOf "timestamp"), .f64 m.timestamp.toBitsNat),
    (.str (bytesOf "payload"),
      .map (m.payload.entries.map fun e => (.str (bytesOf e.1), e.2.toObj)))]

/-- The bytes of a message. -/
def encode (m : Message) : List UInt8 := m.toObj.write

/-- Which field a key names: `some (some i)` for field `i`, `some none` for a key to skip,
`none` for a key that cannot name a field. Text keys that are not UTF-8 are skipped. -/
def fieldOf : Obj → Option (Option Nat)
  | .str bs => some ((utf8? bs).bind fun s => fieldNames.idxOf? s)
  | .bin bs => some ((fieldNames.map bytesOf).idxOf? bs)
  | .uint n => some (if n < 4 then some n else none)
  | _ => none

/-- A payload: a map from UTF-8 names (text or binary) to values; a later name wins. -/
def payloadOf? : Obj → Option PropMap
  | .map entries => entries.foldlM (fun m e => do
      let name ← match e.1 with
        | .str bs | .bin bs => utf8? bs
        | _ => none
      let v ← Value.ofObj? e.2
      pure (m.insert name v)) {}
  | _ => none

/-- The kind a type object stands for: an integer from 0 to 255 that is a kind's code. -/
def kindOf? (o : Obj) : Option Kind := do
  let i ← o.toInt?
  if 0 ≤ i ∧ i < 256 then Kind.ofCode? i.toNat else none

/-- A sequence number: a non-negative integer below `2^64`. -/
def seqOf? (o : Obj) : Option Nat := do
  let i ← o.toInt?
  if 0 ≤ i ∧ i < 2 ^ 64 then some i.toNat else none

/-- The fields read so far. -/
structure Fields where
  kind : Option Kind := none
  seq : Option Nat := none
  timestamp : Option Double := none
  payload : Option PropMap := none

/-- Reads the value of field `i` into the fields; a field met twice fails. -/
def Fields.put (f : Fields) (i : Nat) (o : Obj) : Option Fields :=
  match i with
  | 0 => if f.kind.isSome then none else (kindOf? o).map fun k => { f with kind := some k }
  | 1 => if f.seq.isSome then none else (seqOf? o).map fun s => { f with seq := some s }
  | 2 => if f.timestamp.isSome then none else o.toDouble?.map fun t => { f with timestamp := some t }
  | _ => if f.payload.isSome then none else (payloadOf? o).map fun p => { f with payload := some p }

/-- The message of complete fields. -/
def Fields.finish (f : Fields) : Option Message := do
  pure { kind := ← f.kind, seq := ← f.seq, timestamp := ← f.timestamp, payload := ← f.payload }

/-- The message an object stands for: a map of the four fields or an array of exactly four
values in field order. -/
def ofObj? : Obj → Option Message
  | .map entries => do
    let f ← entries.foldlM (fun f e => do
      match ← fieldOf e.1 with
      | some i => f.put i e.2
      | none => pure f) ({} : Fields)
    f.finish
  | .arr [k, s, t, p] => do
    let f ← ({} : Fields).put 0 k
    let f ← f.put 1 s
    let f ← f.put 2 t
    let f ← f.put 3 p
    f.finish
  | _ => none

/-- Room for nested containers inside a message: 1024 levels in all. -/
def nestingRoom : Nat := 1023

end Message

/-- Why bytes are not a message. -/
inductive ParseError where
  /-- There were no bytes. -/
  | noMessage
  /-- The bytes do not hold a message. -/
  | malformed
  deriving DecidableEq, Repr

namespace Message

/-- The message at the front of some bytes. -/
def decode (bs : List UInt8) : Except ParseError Message :=
  if bs.isEmpty then .error .noMessage
  else match Obj.read nestingRoom bs with
    | some (o, _) => match ofObj? o with
      | some m => .ok m
      | none => .error .malformed
    | none => .error .malformed

end Message

end ControlLoop

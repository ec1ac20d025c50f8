import ControlLoop.Text.Quoted

namespace ControlLoop

/-! # Bytes as hexadecimal text

Bytes are written as two lowercase hexadecimal digits each, the high digit first. Reading
goes over the UTF-8 bytes of the text, two at a time, and takes digits of either case; a
pair may also be a plus sign and one digit, which is that digit's value, the way a number
with an optional sign reads. Text of an odd number of bytes is not bytes. A pair whose
second byte is followed by a byte that continues a character cuts that character in two,
which is reported with the byte index, before the pair's digits are looked at; a pair that
is not a number is reported as such. The first pair read decides which flaw is reported.
-/

namespace Hex

/-- The lowercase digit of a value below sixteen. -/
def digit (n : Nat) : Char := Char.ofNat (if n < 10 then 0x30 + n else 0x57 + n)

/-- The value of a hexadecimal digit of either case. -/
def value? (c : Char) : Option Nat :=
  if '0' ≤ c && c ≤ '9' then some (c.toNat - 0x30)
  else if 'a' ≤ c && c ≤ 'f' then some (c.toNat - 0x57)
  else if 'A' ≤ c && c ≤ 'F' then some (c.toNat - 0x37)
  else none

/-- The value of a byte read as a hexadecimal digit; no byte outside ASCII is one. -/
def byteValue? (b : UInt8) : Option Nat := value? (Char.ofNat b.toNat)

/-- The number two bytes spell: two digits, or a plus sign and one digit. -/
def pairValue? (a b : UInt8) : Option Nat :=
  if a = 0x2B then byteValue? b
  else match byteValue? a, byteValue? b with
    | some x, some y => some (16 * x + y)
    | _, _ => none

/-- Whether a byte continues a character begun by an earlier byte. -/
def continues (b : UInt8) : Bool := b &&& 0xC0 = 0x80

/-- Why a text is not bytes. -/
inductive Flaw where
  | oddLength
  | notDigit
  /-- A pair ends at this byte index, which lies inside a character. -/
  | splitChar (index : Nat)
  deriving DecidableEq, Repr

/-- The text of some bytes. -/
def encode (bs : List UInt8) : String :=
  String.ofList (bs.flatMap fun b => [digit (b.toNat / 16), digit (b.toNat % 16)])

/-- Reads bytes two at a time, the first of them at byte index `pos`. -/
def pairs (pos : Nat) : List UInt8 → Except Flaw (List UInt8)
  | a :: b :: r =>
    if (r.head?.map continues).getD false then .error (.splitChar (pos + 2))
    else match pairValue? a b with
      | some x => (UInt8.ofNat x :: ·) <$> pairs (pos + 2) r
      | none => .error .notDigit
  | _ => .ok []

/-- The bytes of a text, two bytes of it each. -/
def decode (s : String) : Except Flaw (List UInt8) :=
  if s.utf8ByteSize % 2 = 1 then .error .oddLength else pairs 0 s.toUTF8.toList

/-- The character of a text whose bytes hold a byte index, with the index it starts at. -/
def charAt? (s : String) (index : Nat) : Option (Char × Nat) :=
  go s.toList 0
where
  /-- Walks the characters from the one starting at `start`. -/
  go : List Char → Nat → Option (Char × Nat)
    | [], _ => none
    | c :: cs, start =>
      if index < start + c.utf8Size then some (c, start) else go cs (start + c.utf8Size)

/-- The longest beginning of a text, in whole characters, of at most `limit` bytes. -/
def prefixWithin (limit : Nat) (s : String) : String :=
  String.ofList (go s.toList 0)
where
  /-- Keeps characters while they end within the limit, `used` bytes being taken. -/
  go : List Char → Nat → List Char
    | [], _ => []
    | c :: cs, used => if used + c.utf8Size ≤ limit then c :: go cs (used + c.utf8Size) else []

/-- The report of a text cut inside a character at a byte index: the character between
single quotes, its byte range, and the text, shortened to 256 bytes with a mark. -/
def splitMessage (s : String) (index : Nat) : String :=
  let shown := prefixWithin 256 s
  let more := if shown.utf8ByteSize < s.utf8ByteSize then "[...]" else ""
  let place := match charAt? s index with
    | some (c, start) =>
      "'" ++ Quoted.escape c ++ "' (bytes " ++ toString start ++ ".." ++
        toString (start + c.utf8Size) ++ ")"
    | none => "'' (bytes " ++ toString index ++ ".." ++ toString index ++ ")"
  "byte index " ++ toString index ++ " is not a char boundary; it is inside " ++ place ++
    " of " ++ "`" ++ shown ++ "`" ++ more

/-- Every digit reads back as its value. -/
theorem value?_digit : ∀ n < 16, value? (digit n) = some n := by decide

end Hex

end ControlLoop

import ControlLoop.Power

namespace ControlLoop

/-! # Socket addresses

An address is an IPv4 host of four octets or an IPv6 host of eight 16-bit groups with a
flow label and a scope number, and a port. The text form of IPv4 is four decimal octets without leading
zeros; of IPv6, one to four hexadecimal digits per group, with one `::` standing for a run of
zero groups and an optional dotted IPv4 tail, inside brackets, with `%scope` before the
closing bracket. A port follows a colon. IPv6 is written with the longest run of two or more
zero groups (the first of equal runs) as `::`, and addresses of the form `::ffff:a.b.c.d`
with their IPv4 tail. The text carries no flow label: one read from text has none.
-/

/-- The host part of an address. -/
inductive Host where
  /-- Four octets. -/
  | v4 (octets : List Nat)
  /-- Eight 16-bit groups, a flow label and a scope number. -/
  | v6 (groups : List Nat) (flowinfo : Nat) (scope : Nat)
  deriving DecidableEq, Repr, Inhabited

/-- A host and a port. -/
structure SocketAddr where
  host : Host
  port : Nat
  deriving DecidableEq, Repr, Inhabited

namespace SocketAddr

/-- The value of a digit in a radix. -/
def digitIn (radix : Nat) (c : Char) : Option Nat :=
  let v := if c.isDigit then c.toNat - '0'.toNat
    else if 'a' ≤ c && c ≤ 'z' then c.toNat - 'a'.toNat + 10
    else if 'A' ≤ c && c ≤ 'Z' then c.toNat - 'A'.toNat + 10
    else radix
  if v < radix then some v else none

/-- The leading digits in a radix. -/
def spanDigits (radix : Nat) (cs : List Char) : List Nat × List Char :=
  match cs with
  | c :: rest => match digitIn radix c with
    | some v => let (ds, r) := spanDigits radix rest; (v :: ds, r)
    | none => ([], cs)
  | [] => ([], [])

/-- A number: at least one digit, at most `maxDigits` when given, below `bound`, and without a
leading zero unless `zeroPrefix`. -/
def number (radix : Nat) (maxDigits : Option Nat) (zeroPrefix : Bool) (bound : Nat)
    (cs : List Char) : Option (Nat × List Char) :=
  let (ds, rest) := spanDigits radix cs
  let v := ds.foldl (fun n d => radix * n + d) 0
  if ds.isEmpty then none
  else if maxDigits.any (ds.length > ·) then none
  else if !zeroPrefix && ds.length > 1 && ds.head? == some 0 then none
  else if v ≥ bound then none
  else some (v, rest)

/-- `n` items separated by `sep`. -/
def separated (sep : Char) (item : List Char → Option (Nat × List Char)) :
    Nat → List Char → Option (List Nat × List Char)
  | 0, cs => some ([], cs)
  | n + 1, cs => do
    let (x, r) ← item cs
    match n with
    | 0 => pure ([x], r)
    | _ + 1 =>
      match r with
      | c :: r' =>
        if c == sep then (separated sep item n r').map fun (xs, r) => (x :: xs, r) else none
      | [] => none

/-- Four octets separated by dots. -/
def ipv4 (cs : List Char) : Option (List Nat × List Char) :=
  separated '.' (number 10 (some 3) false 256) 4 cs

/-- Up to `limit` groups: each after a colon except the first, with a dotted IPv4 tail as two
groups when at least two groups are left; stops before the first that does not read. Also
tells whether an IPv4 tail was read. -/
def groups (limit : Nat) (first : Bool) (cs : List Char) : List Nat × List Char × Bool :=
  match limit with
  | 0 => ([], cs, false)
  | k + 1 =>
    let body := if first then some cs else match cs with
      | ':' :: r => some r
      | _ => none
    match body with
    | none => ([], cs, false)
    | some b =>
      let tail := if k ≥ 1 then ipv4 b else none
      match tail with
      | some ([a, b', c, d], r) => ([a * 256 + b', c * 256 + d], r, true)
      | _ => match number 16 (some 4) true 65536 b with
        | some (g, r) =>
          let (gs, r, v4) := groups k false r
          (g :: gs, r, v4)
        | none => ([], cs, false)

/-- Eight groups, with one `::` standing for zeros. -/
def ipv6 (cs : List Char) : Option (List Nat × List Char) :=
  let (head, rest, headV4) := groups 8 true cs
  if head.length = 8 then some (head, rest)
  else if headV4 then none
  else match rest with
    | ':' :: ':' :: r =>
      let (tail, r, _) := groups (7 - head.length) true r
      some (head ++ List.replicate (8 - head.length - tail.length) 0 ++ tail, r)
    | _ => none

/-- A port after a colon. -/
def portAfter (cs : List Char) : Option Nat :=
  match cs with
  | ':' :: r => match number 10 none true 65536 r with
    | some (p, []) => some p
    | _ => none
  | _ => none

/-- Reads an address. -/
def parse? (s : String) : Option SocketAddr :=
  let cs := s.toList
  match ipv4 cs with
  | some (os, r) => (portAfter r).map fun p => ⟨.v4 os, p⟩
  | none => match cs with
    | '[' :: r => do
      let (gs, r) ← ipv6 r
      let (scope, r) ← match r with
        | '%' :: r' => number 10 none true (2 ^ 32) r'
        | _ => some (0, r)
      match r with
      | ']' :: r => (portAfter r).map fun p => ⟨.v6 gs 0 scope, p⟩
      | _ => none
    | _ => none

/-- Dotted octets. -/
def dotted (os : List Nat) : String := ".".intercalate (os.map toString)

/-- Groups in hexadecimal, separated by colons. -/
def hexGroups (gs : List Nat) : String := ":".intercalate (gs.map fun g => String.ofList (Nat.toDigits 16 g))

/-- One group of the scan for the longest run of zero groups: the longest run so far and the
current run, each as (start, length), and the index of the group. -/
def zeroRunStep (acc : (Nat × Nat) × (Nat × Nat) × Nat) (g : Nat) :
    (Nat × Nat) × (Nat × Nat) × Nat :=
  let (best, cur, i) := acc
  let cur := if g = 0 then (if cur.2 = 0 then (i, 1) else (cur.1, cur.2 + 1)) else (0, 0)
  let best := if cur.2 > best.2 then cur else best
  (best, cur, i + 1)

/-- The longest run of zero groups as (start, length); the first of equal runs. -/
def zeroRun (gs : List Nat) : Nat × Nat := (gs.foldl zeroRunStep ((0, 0), (0, 0), 0)).1

/-- The text of IPv6 groups. -/
def v6Text (gs : List Nat) : String :=
  if gs.take 5 == [0, 0, 0, 0, 0] && (gs.drop 5).head? == some 0xffff then
    let t := gs.drop 6
    let a := t.headD 0
    let b := (t.drop 1).headD 0
    "::ffff:" ++ dotted [a / 256, a % 256, b / 256, b % 256]
  else
    let (start, len) := zeroRun gs
    if len > 1 then hexGroups (gs.take start) ++ "::" ++ hexGroups (gs.drop (start + len))
    else hexGroups gs

/-- The text of an address. -/
def render (a : SocketAddr) : String :=
  match a.host with
  | .v4 os => dotted os ++ ":" ++ toString a.port
  | .v6 gs _ scope =>
    "[" ++ v6Text gs ++ (if scope = 0 then "" else "%" ++ toString scope) ++ "]:" ++ toString a.port

/-- The IPv4 address with all octets zero. -/
def anyV4 (port : Nat) : SocketAddr := ⟨.v4 [0, 0, 0, 0], port⟩

/-- The IPv4 loopback address. -/
def loopbackV4 (port : Nat) : SocketAddr := ⟨.v4 [127, 0, 0, 1], port⟩

end SocketAddr

end ControlLoop

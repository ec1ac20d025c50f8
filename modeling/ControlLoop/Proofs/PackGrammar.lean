import ControlLoop.Proofs.FrameBoundary
import Mathlib.Tactic.IntervalCases

/-! # The grammar of MessagePack objects

The reader accepts more than the writer writes: every width of every marker, the short fixed
forms and the long ones alike. `Pack.Spells room o bs` says, marker by marker and without
mention of the reader, which byte strings spell the object `o`: an integer in any width that
holds it, a string or binary under any length header that holds its length, an array or map
under any count header with its items spelled one after another, an extension under a fixed
or a length header, and containers nested at most `room` deep.

The reader is sound and complete for this grammar (`Obj.read_sound`, `Spells.read_append`):
whatever it reads from the front of some bytes is spelled by the bytes it consumed, and every
spelling is read back whatever follows it; together, `Obj.read_eq_some_iff`. Both directions
go marker by marker, through one equation per family of markers (`read_uintWide`,
`read_fixMap`, …) that says what the reader does after it.
-/

namespace ControlLoop.Pack

/-! ## §1. The grammar -/

/-- The unsigned integer markers, with the widths of the numbers after them. -/
def uintMarkers : List (UInt8 × Nat) := [(0xcc, 1), (0xcd, 2), (0xce, 4), (0xcf, 8)]

/-- The signed integer markers, with their widths. -/
def sintMarkers : List (UInt8 × Nat) := [(0xd0, 1), (0xd1, 2), (0xd2, 4), (0xd3, 8)]

/-- The string markers, with the widths of the lengths after them. -/
def strMarkers : List (UInt8 × Nat) := [(0xd9, 1), (0xda, 2), (0xdb, 4)]

/-- The binary markers, with the widths of their lengths. -/
def binMarkers : List (UInt8 × Nat) := [(0xc4, 1), (0xc5, 2), (0xc6, 4)]

/-- The array markers, with the widths of the counts after them. -/
def arrMarkers : List (UInt8 × Nat) := [(0xdc, 2), (0xdd, 4)]

/-- The map markers, with the widths of their counts. -/
def mapMarkers : List (UInt8 × Nat) := [(0xde, 2), (0xdf, 4)]

/-- The extension markers with a length, with the widths of their lengths. -/
def extMarkers : List (UInt8 × Nat) := [(0xc7, 1), (0xc8, 2), (0xc9, 4)]

/-- The extension markers of a fixed size, with their sizes. -/
def fixExtMarkers : List (UInt8 × Nat) := [(0xd4, 1), (0xd5, 2), (0xd6, 4), (0xd7, 8), (0xd8, 16)]

/-- The headers that announce the number `n` (a value, a length or a count): the single byte
`fixBase + n` when `n < fixLimit`, or a wide marker followed by `n` in the marker's width when
`n` fits that width. -/
def Announces (fixBase fixLimit : Nat) (wide : List (UInt8 × Nat)) (n : Nat) (h : List UInt8) :
    Prop :=
  (n < fixLimit ∧ h = [UInt8.ofNat (fixBase + n)]) ∨
    ∃ m w, (m, w) ∈ wide ∧ n < 256 ^ w ∧ h = tagged m w n

/-- The spellings of an integer under a signed marker: the one byte `256 + i` for
`-32 ≤ i < 0`, or a marker followed by `i` in two's complement of the marker's width when `i`
fits that width. -/
def SignedSpelling (i : Int) (h : List UInt8) : Prop :=
  (-32 ≤ i ∧ i < 0 ∧ h = [UInt8.ofNat (256 + i).toNat]) ∨
    ∃ m w, (m, w) ∈ sintMarkers ∧
      -2 ^ (8 * w - 1) ≤ i ∧ i < 2 ^ (8 * w - 1) ∧ h = tagged m w (i % 2 ^ (8 * w)).toNat

/-- The headers of extension data of `n` bytes: a fixed marker for 1, 2, 4, 8 or 16 bytes, or
a marker followed by `n` in one, two or four bytes. -/
def ExtHeader (n : Nat) (h : List UInt8) : Prop :=
  (∃ m, (m, n) ∈ fixExtMarkers ∧ h = [m]) ∨ Announces 0 0 extMarkers n h

/-- The objects of map entries, each key before its value. -/
def entryObjs (es : List (Obj × Obj)) : List Obj := es.flatMap fun e => [e.1, e.2]

mutual

/-- `Spells room o bs`: the bytes `bs` spell the object `o`, in any of the format's widths, with
containers (arrays, maps, extensions) nested at most `room` deep. -/
inductive Spells : Nat → Obj → List UInt8 → Prop
  | nil {room : Nat} : Spells room .nil [0xc0]
  | bool {room : Nat} (b : Bool) : Spells room (.bool b) [if b then 0xc3 else 0xc2]
  | uint {room n : Nat} {h : List UInt8} :
      Announces 0 0x80 uintMarkers n h →
        Spells room (.uint n) h
  | sint {room : Nat} {i : Int} {h : List UInt8} : SignedSpelling i h → Spells room (.sint i) h
  | f32 {room bits : Nat} : bits < 2 ^ 32 → Spells room (.f32 bits) (tagged 0xca 4 bits)
  | f64 {room bits : Nat} : bits < 2 ^ 64 → Spells room (.f64 bits) (tagged 0xcb 8 bits)
  | str {room : Nat} {bs h : List UInt8} :
      Announces 0xa0 32 strMarkers bs.length h →
        Spells room (.str bs) (h ++ bs)
  | bin {room : Nat} {bs h : List UInt8} :
      Announces 0 0 binMarkers bs.length h →
        Spells room (.bin bs) (h ++ bs)
  | arr {room : Nat} {xs : List Obj} {h body : List UInt8} :
      Announces 0x90 16 arrMarkers xs.length h → SpellsAll room xs body →
        Spells (room + 1) (.arr xs) (h ++ body)
  | map {room : Nat} {es : List (Obj × Obj)} {h body : List UInt8} :
      Announces 0x80 16 mapMarkers es.length h →
        SpellsAll room (entryObjs es) body → Spells (room + 1) (.map es) (h ++ body)
  | ext {room : Nat} {tag : UInt8} {data h : List UInt8} :
      ExtHeader data.length h → Spells (room + 1) (.ext tag data) (h ++ tag :: data)

/-- `SpellsAll room os bs`: the bytes `bs` spell the objects `os` one after another. -/
inductive SpellsAll : Nat → List Obj → List UInt8 → Prop
  | nil {room : Nat} : SpellsAll room [] []
  | cons {room : Nat} {o : Obj} {os : List Obj} {b bs : List UInt8} :
      Spells room o b → SpellsAll room os bs → SpellsAll room (o :: os) (b ++ bs)

end

/-! ## §2. Big-endian numbers read back -/

/-- Reading bytes after a number `acc` already read shifts `acc` past them. -/
theorem foldl_ofBigEndian (h : List UInt8) (acc : Nat) :
    h.foldl (fun n b => 256 * n + b.toNat) acc = acc * 256 ^ h.length + ofBigEndian h := by
  induction h generalizing acc with
  | nil => simp [ofBigEndian]
  | cons a t ih =>
    simp only [ofBigEndian, List.foldl_cons] at ih ⊢
    rw [ih, ih (256 * 0 + a.toNat), List.length_cons, Nat.pow_succ]
    ring

/-- The first byte counts `256 ^ k` times, `k` the number of bytes after it. -/
theorem ofBigEndian_cons (a : UInt8) (t : List UInt8) :
    ofBigEndian (a :: t) = a.toNat * 256 ^ t.length + ofBigEndian t := by
  simp only [ofBigEndian, List.foldl_cons]
  rw [foldl_ofBigEndian]
  simp [ofBigEndian]

/-- The number of some bytes is below `256` to the number of bytes. -/
theorem ofBigEndian_lt (h : List UInt8) : ofBigEndian h < 256 ^ h.length := by
  induction h with
  | nil => simp [ofBigEndian]
  | cons a t ih =>
    have ha : a.toNat < 256 := a.toNat_lt
    rw [ofBigEndian_cons, List.length_cons, Nat.pow_succ]
    calc a.toNat * 256 ^ t.length + ofBigEndian t
        < (a.toNat + 1) * 256 ^ t.length := by rw [Nat.add_mul, Nat.one_mul]; omega
      _ ≤ 256 ^ t.length * 256 := by
        rw [Nat.mul_comm]
        exact Nat.mul_le_mul_left _ ha

/-- Multiples of `256 ^ w` do not show in the last `w` bytes. -/
theorem bigEndian_mul_add (w k n : Nat) : bigEndian w (k * 256 ^ w + n) = bigEndian w n := by
  simp only [bigEndian, List.map_inj_left, List.mem_reverse, List.mem_range]
  intro i hi
  -- `256 ^ w` is `256 ^ i` times a positive power of `256`
  have hpow : (256 : Nat) ^ w = 256 ^ (w - i - 1) * 256 * 256 ^ i := by
    rw [← Nat.pow_succ, ← Nat.pow_add]
    congr 1
    omega
  have hsplit : k * 256 ^ w = (k * 256 ^ (w - i - 1) * 256) * 256 ^ i := by
    rw [hpow]
    ring
  rw [hsplit, Nat.add_comm, Nat.add_mul_div_right _ _ (Nat.pow_pos (by omega)),
    Nat.add_mul_mod_self_right]

/-- Bytes are the big-endian spelling of their number. -/
theorem bigEndian_ofBigEndian (h : List UInt8) : bigEndian h.length (ofBigEndian h) = h := by
  induction h with
  | nil => rfl
  | cons a t ih =>
    have hlt := ofBigEndian_lt t
    have hdiv : (a.toNat * 256 ^ t.length + ofBigEndian t) / 256 ^ t.length = a.toNat := by
      rw [Nat.add_comm, Nat.add_mul_div_right _ _ (Nat.pow_pos (by omega)),
        Nat.div_eq_of_lt hlt, Nat.zero_add]
    rw [List.length_cons, ofBigEndian_cons, bigEndian_succ, bigEndian_mul_add, ih, hdiv,
      Nat.mod_eq_of_lt a.toNat_lt, UInt8.ofNat_toNat]

/-! ## §3. What the fixed-width readers consumed -/

/-- Taking `n` bytes splits off exactly `n` bytes. -/
theorem takeExact_eq_some {n : Nat} {bs h r : List UInt8} (hx : takeExact n bs = some (h, r)) :
    h.length = n ∧ bs = h ++ r := by
  unfold takeExact at hx
  split at hx
  · cases hx
  · cases hx
    exact ⟨by simp; omega, (List.take_append_drop n bs).symm⟩

/-- A number read in `w` bytes fits them, and the bytes are its spelling. -/
theorem readNat_eq_some {w v : Nat} {bs r : List UInt8} (hx : readNat w bs = some (v, r)) :
    v < 256 ^ w ∧ bs = bigEndian w v ++ r := by
  obtain ⟨⟨h, r'⟩, ht, he⟩ := Option.map_eq_some_iff.1 hx
  cases he
  obtain ⟨rfl, rfl⟩ := takeExact_eq_some ht
  exact ⟨ofBigEndian_lt h, by rw [bigEndian_ofBigEndian]⟩

/-- An integer read in `w` bytes of two's complement fits them, and the bytes are its
spelling. -/
theorem readInt_eq_some {w : Nat} {i : Int} {bs r : List UInt8} (hw : 0 < w)
    (hx : readInt w bs = some (i, r)) :
    -2 ^ (8 * w - 1) ≤ i ∧ i < 2 ^ (8 * w - 1) ∧ bs = bigEndian w (i % 2 ^ (8 * w)).toNat ++ r := by
  obtain ⟨⟨n, r'⟩, hn, he⟩ := Option.map_eq_some_iff.1 hx
  cases he
  obtain ⟨hlt, rfl⟩ := readNat_eq_some hn
  have hpow : (256 : Nat) ^ w = 2 ^ (8 * w) := by
    rw [Nat.pow_mul]
  have hhalf : (2 : Int) ^ (8 * w) = 2 * 2 ^ (8 * w - 1) := by
    rw [← Int.pow_succ']
    congr 1
    omega
  have hlt' : (n : Int) < 2 ^ (8 * w) := by
    rw [hpow] at hlt
    exact_mod_cast hlt
  split_ifs with htop
  · -- the upper half of the width stands for a negative number
    have htop' : (2 : Int) ^ (8 * w - 1) ≤ n := by exact_mod_cast htop
    refine ⟨by omega, by omega, ?_⟩
    rw [Int.sub_emod, Int.emod_self, Int.sub_zero, Int.emod_emod_of_dvd _ (dvd_refl _),
      Int.emod_eq_of_lt (by omega) hlt', Int.toNat_natCast]
  · have hlow : (n : Int) < 2 ^ (8 * w - 1) := by
      have : n < 2 ^ (8 * w - 1) := Nat.lt_of_not_le htop
      exact_mod_cast this
    refine ⟨by omega, hlow, ?_⟩
    rw [Int.emod_eq_of_lt (by omega) hlt', Int.toNat_natCast]

/-- A blob read after a length of `w` bytes has that length, which fits the width. -/
theorem readBlob_eq_some {w : Nat} {bs d r : List UInt8} (hx : readBlob w bs = some (d, r)) :
    d.length < 256 ^ w ∧ bs = bigEndian w d.length ++ (d ++ r) := by
  obtain ⟨⟨n, r'⟩, hn, ht⟩ := Option.bind_eq_some_iff.1 hx
  obtain ⟨hlt, rfl⟩ := readNat_eq_some hn
  obtain ⟨rfl, rfl⟩ := takeExact_eq_some ht
  exact ⟨hlt, rfl⟩

/-- Extension data read after its header: a tag byte, then exactly `n` bytes. -/
theorem readExtBody_eq_some {n : Nat} {bs r : List UInt8} {o : Obj}
    (hx : readExtBody n bs = some (o, r)) :
    ∃ tag data, o = .ext tag data ∧ data.length = n ∧ bs = tag :: (data ++ r) := by
  cases bs with
  | nil => cases hx
  | cons tag rest =>
    obtain ⟨⟨d, r'⟩, ht, he⟩ := Option.map_eq_some_iff.1 hx
    cases he
    obtain ⟨hlen, rfl⟩ := takeExact_eq_some ht
    exact ⟨tag, d, rfl, hlen, rfl⟩

/-- Reading `n + 1` items reads one, then `n` from what it left. -/
theorem readSeq_succ_eq_some {α : Type} {item : List UInt8 → Option (α × List UInt8)} {n : Nat}
    {bs r : List UInt8} {xs : List α} :
    readSeq item (n + 1) bs = some (xs, r) ↔
      ∃ a r₁ as, item bs = some (a, r₁) ∧ readSeq item n r₁ = some (as, r) ∧ xs = a :: as := by
  simp only [readSeq, bind, Option.bind_eq_some_iff, pure, Option.some.injEq, Prod.mk.injEq,
    Prod.exists]
  constructor
  · rintro ⟨a, r₁, ha, as, r₂, has, rfl, rfl⟩
    exact ⟨a, r₁, as, ha, has, rfl⟩
  · rintro ⟨a, r₁, as, ha, has, rfl⟩
    exact ⟨a, r₁, ha, as, r, has, rfl, rfl⟩

/-- A map entry read by `item`: a key, then a value. -/
def readEntry (item : List UInt8 → Option (Obj × List UInt8)) (bs : List UInt8) :
    Option ((Obj × Obj) × List UInt8) := do
  let x ← item bs
  let y ← item x.2
  pure ((x.1, y.1), y.2)

/-! ## §4. The reader, marker by marker -/

section Markers

variable {room : Nat} {rest : List UInt8}

/-- A byte's number is the number it was made from. -/
theorem toNat_byte {n : Nat} (h : n < 256) : (UInt8.ofNat n).toNat = n :=
  UInt8.toNat_ofNat_of_lt' h

theorem read_nil : Obj.read room (0xc0 :: rest) = some (.nil, rest) := by
  simp +decide only [Obj.read, UInt8.reduceToNat, reduceIte]

theorem read_bool (b : Bool) :
    Obj.read room ((if b then 0xc3 else 0xc2) :: rest) = some (.bool b, rest) := by
  cases b <;> simp +decide only [Obj.read, UInt8.reduceToNat, reduceIte]

/-- The reserved marker `0xc1` is read as nothing. -/
theorem read_reserved : Obj.read room (0xc1 :: rest) = none := by
  simp +decide only [Obj.read, UInt8.reduceToNat, reduceIte]

theorem read_fixUint {n : Nat} (h : n < 0x80) :
    Obj.read room (UInt8.ofNat n :: rest) = some (.uint n, rest) := by
  simp only [Obj.read, toNat_byte (show n < 256 by omega), if_pos h]

theorem read_fixSint {n : Nat} (h : 0xe0 ≤ n) (h' : n < 256) :
    Obj.read room (UInt8.ofNat n :: rest) = some (.sint ((n : Int) - 256), rest) := by
  simp only [Obj.read, toNat_byte h', if_neg (show ¬ n < 0x80 by omega),
    if_neg (show ¬ n < 0x90 by omega), if_neg (show ¬ n < 0xa0 by omega),
    if_neg (show ¬ n < 0xc0 by omega), if_pos (show n ≥ 0xe0 from h)]

theorem read_fixStr {n : Nat} (h : 0xa0 ≤ n) (h' : n < 0xc0) :
    Obj.read room (UInt8.ofNat n :: rest) =
      (takeExact (n - 0xa0) rest).map fun x => (.str x.1, x.2) := by
  simp only [Obj.read, toNat_byte (show n < 256 by omega), if_neg (show ¬ n < 0x80 by omega),
    if_neg (show ¬ n < 0x90 by omega), if_neg (show ¬ n < 0xa0 by omega), if_pos h']

theorem read_fixArr {n : Nat} (h : 0x90 ≤ n) (h' : n < 0xa0) :
    Obj.read (room + 1) (UInt8.ofNat n :: rest) =
      (readSeq (Obj.read room) (n - 0x90) rest).map fun x => (.arr x.1, x.2) := by
  simp only [Obj.read, toNat_byte (show n < 256 by omega), if_neg (show ¬ n < 0x80 by omega),
    if_neg (show ¬ n < 0x90 by omega), if_pos h']

theorem read_fixMap {n : Nat} (h : 0x80 ≤ n) (h' : n < 0x90) :
    Obj.read (room + 1) (UInt8.ofNat n :: rest) =
      (readSeq (readEntry (Obj.read room)) (n - 0x80) rest).map fun x => (.map x.1, x.2) := by
  simp only [Obj.read, toNat_byte (show n < 256 by omega), if_neg (show ¬ n < 0x80 by omega),
    if_pos h']
  rfl

theorem read_uintWide {m : UInt8} {w : Nat} (hm : (m, w) ∈ uintMarkers) :
    Obj.read room (m :: rest) = (readNat w rest).map fun x => (.uint x.1, x.2) := by
  simp only [uintMarkers, List.mem_cons, Prod.mk.injEq, List.not_mem_nil, or_false] at hm
  rcases hm with ⟨rfl, rfl⟩ | ⟨rfl, rfl⟩ | ⟨rfl, rfl⟩ | ⟨rfl, rfl⟩ <;>
    simp +decide only [Obj.read, UInt8.reduceToNat, reduceIte]

theorem read_sintWide {m : UInt8} {w : Nat} (hm : (m, w) ∈ sintMarkers) :
    Obj.read room (m :: rest) = (readInt w rest).map fun x => (.sint x.1, x.2) := by
  simp only [sintMarkers, List.mem_cons, Prod.mk.injEq, List.not_mem_nil, or_false] at hm
  rcases hm with ⟨rfl, rfl⟩ | ⟨rfl, rfl⟩ | ⟨rfl, rfl⟩ | ⟨rfl, rfl⟩ <;>
    simp +decide only [Obj.read, UInt8.reduceToNat, reduceIte]

theorem read_f32 : Obj.read room (0xca :: rest) = (readNat 4 rest).map fun x => (.f32 x.1, x.2) := by
  simp +decide only [Obj.read, UInt8.reduceToNat, reduceIte]

theorem read_f64 : Obj.read room (0xcb :: rest) = (readNat 8 rest).map fun x => (.f64 x.1, x.2) := by
  simp +decide only [Obj.read, UInt8.reduceToNat, reduceIte]

theorem read_strWide {m : UInt8} {w : Nat} (hm : (m, w) ∈ strMarkers) :
    Obj.read room (m :: rest) = (readBlob w rest).map fun x => (.str x.1, x.2) := by
  simp only [strMarkers, List.mem_cons, Prod.mk.injEq, List.not_mem_nil, or_false] at hm
  rcases hm with ⟨rfl, rfl⟩ | ⟨rfl, rfl⟩ | ⟨rfl, rfl⟩ <;>
    simp +decide only [Obj.read, UInt8.reduceToNat, reduceIte]

theorem read_binWide {m : UInt8} {w : Nat} (hm : (m, w) ∈ binMarkers) :
    Obj.read room (m :: rest) = (readBlob w rest).map fun x => (.bin x.1, x.2) := by
  simp only [binMarkers, List.mem_cons, Prod.mk.injEq, List.not_mem_nil, or_false] at hm
  rcases hm with ⟨rfl, rfl⟩ | ⟨rfl, rfl⟩ | ⟨rfl, rfl⟩ <;>
    simp +decide only [Obj.read, UInt8.reduceToNat, reduceIte]

theorem read_arrWide {m : UInt8} {w : Nat} (hm : (m, w) ∈ arrMarkers) :
    Obj.read (room + 1) (m :: rest) =
      (readNat w rest).bind fun x => (readSeq (Obj.read room) x.1 x.2).map fun y => (.arr y.1, y.2) := by
  simp only [arrMarkers, List.mem_cons, Prod.mk.injEq, List.not_mem_nil, or_false] at hm
  rcases hm with ⟨rfl, rfl⟩ | ⟨rfl, rfl⟩ <;>
    simp +decide only [Obj.read, UInt8.reduceToNat, reduceIte] <;> rfl

theorem read_mapWide {m : UInt8} {w : Nat} (hm : (m, w) ∈ mapMarkers) :
    Obj.read (room + 1) (m :: rest) =
      (readNat w rest).bind fun x =>
        (readSeq (readEntry (Obj.read room)) x.1 x.2).map fun y => (.map y.1, y.2) := by
  simp only [mapMarkers, List.mem_cons, Prod.mk.injEq, List.not_mem_nil, or_false] at hm
  rcases hm with ⟨rfl, rfl⟩ | ⟨rfl, rfl⟩ <;>
    simp +decide only [Obj.read, UInt8.reduceToNat, reduceIte] <;> rfl

theorem read_extWide {m : UInt8} {w : Nat} (hm : (m, w) ∈ extMarkers) :
    Obj.read (room + 1) (m :: rest) = (readNat w rest).bind fun x => readExtBody x.1 x.2 := by
  simp only [extMarkers, List.mem_cons, Prod.mk.injEq, List.not_mem_nil, or_false] at hm
  rcases hm with ⟨rfl, rfl⟩ | ⟨rfl, rfl⟩ | ⟨rfl, rfl⟩ <;>
    simp +decide only [Obj.read, UInt8.reduceToNat, reduceIte] <;> rfl

theorem read_fixExt {m : UInt8} {n : Nat} (hm : (m, n) ∈ fixExtMarkers) :
    Obj.read (room + 1) (m :: rest) = readExtBody n rest := by
  simp only [fixExtMarkers, List.mem_cons, Prod.mk.injEq, List.not_mem_nil, or_false] at hm
  rcases hm with ⟨rfl, rfl⟩ | ⟨rfl, rfl⟩ | ⟨rfl, rfl⟩ | ⟨rfl, rfl⟩ | ⟨rfl, rfl⟩ <;>
    simp +decide only [Obj.read, UInt8.reduceToNat, reduceIte]

/-- With no room left, a container is read as nothing. -/
theorem read_zero_fixArr {n : Nat} (h : 0x90 ≤ n) (h' : n < 0xa0) :
    Obj.read 0 (UInt8.ofNat n :: rest) = none := by
  simp only [Obj.read, toNat_byte (show n < 256 by omega), if_neg (show ¬ n < 0x80 by omega),
    if_neg (show ¬ n < 0x90 by omega), if_pos h']
  rfl

theorem read_zero_fixMap {n : Nat} (h : 0x80 ≤ n) (h' : n < 0x90) :
    Obj.read 0 (UInt8.ofNat n :: rest) = none := by
  simp only [Obj.read, toNat_byte (show n < 256 by omega), if_neg (show ¬ n < 0x80 by omega),
    if_pos h']
  rfl

theorem read_zero_arrWide {m : UInt8} {w : Nat} (hm : (m, w) ∈ arrMarkers) :
    Obj.read 0 (m :: rest) = none := by
  simp only [arrMarkers, List.mem_cons, Prod.mk.injEq, List.not_mem_nil, or_false] at hm
  rcases hm with ⟨rfl, rfl⟩ | ⟨rfl, rfl⟩ <;>
    simp +decide only [Obj.read, UInt8.reduceToNat, reduceIte, bind, Option.bind_fun_none]

theorem read_zero_mapWide {m : UInt8} {w : Nat} (hm : (m, w) ∈ mapMarkers) :
    Obj.read 0 (m :: rest) = none := by
  simp only [mapMarkers, List.mem_cons, Prod.mk.injEq, List.not_mem_nil, or_false] at hm
  rcases hm with ⟨rfl, rfl⟩ | ⟨rfl, rfl⟩ <;>
    simp +decide only [Obj.read, UInt8.reduceToNat, reduceIte, bind, Option.map_none,
      Option.bind_fun_none]

theorem read_zero_extWide {m : UInt8} {w : Nat} (hm : (m, w) ∈ extMarkers) :
    Obj.read 0 (m :: rest) = none := by
  simp only [extMarkers, List.mem_cons, Prod.mk.injEq, List.not_mem_nil, or_false] at hm
  rcases hm with ⟨rfl, rfl⟩ | ⟨rfl, rfl⟩ | ⟨rfl, rfl⟩ <;>
    simp +decide only [Obj.read, UInt8.reduceToNat, reduceIte]

theorem read_zero_fixExt {m : UInt8} {n : Nat} (hm : (m, n) ∈ fixExtMarkers) :
    Obj.read 0 (m :: rest) = none := by
  simp only [fixExtMarkers, List.mem_cons, Prod.mk.injEq, List.not_mem_nil, or_false] at hm
  rcases hm with ⟨rfl, rfl⟩ | ⟨rfl, rfl⟩ | ⟨rfl, rfl⟩ | ⟨rfl, rfl⟩ | ⟨rfl, rfl⟩ <;>
    simp +decide only [Obj.read, UInt8.reduceToNat, reduceIte]

end Markers

/-! ## §5. Every spelling is read back -/

section Complete

variable {room : Nat}

/-- The signed markers have widths of at least a byte. -/
theorem pos_of_mem_sintMarkers {m : UInt8} {w : Nat} (hm : (m, w) ∈ sintMarkers) : 0 < w := by
  simp only [sintMarkers, List.mem_cons, Prod.mk.injEq, List.not_mem_nil, or_false] at hm
  omega

/-- An integer that fits a width is read back from its two's complement in that width. -/
theorem readInt_spelled {w : Nat} {i : Int} (hw : 0 < w) (hlo : -2 ^ (8 * w - 1) ≤ i)
    (hhi : i < 2 ^ (8 * w - 1)) (rest : List UInt8) :
    readInt w (bigEndian w (i % 2 ^ (8 * w)).toNat ++ rest) = some (i, rest) := by
  have hhalf : (2 : Int) ^ (8 * w) = 2 * 2 ^ (8 * w - 1) := by
    rw [← Int.pow_succ']
    congr 1
    omega
  rcases Int.lt_or_le i 0 with hneg | hnonneg
  · -- a negative number is its complement `2 ^ (8 * w) + i`
    have hmod : i % 2 ^ (8 * w) = 2 ^ (8 * w) + i := by
      rw [← Int.add_mul_emod_self_right i 1, Int.one_mul, Int.emod_eq_of_lt (by omega) (by omega),
        Int.add_comm]
    rw [hmod]
    exact readInt_bigEndian hw hlo hneg rest
  · have hmod : i % 2 ^ (8 * w) = i := Int.emod_eq_of_lt hnonneg (by omega)
    have hfit : i.toNat < 256 ^ w := by
      have : (256 : Nat) ^ w = 2 ^ (8 * w) := by rw [Nat.pow_mul]
      rw [this]
      zify [hnonneg]
      omega
    have hlow : ¬ i.toNat ≥ 2 ^ (8 * w - 1) := by
      zify [hnonneg]
      omega
    simp only [hmod, readInt, readNat_bigEndian hfit, Option.map_some, if_neg hlow,
      Int.toNat_of_nonneg hnonneg]

/-- An unsigned integer under any of its headers is read back. -/
theorem read_uint_spelled {n : Nat} {h : List UInt8} (ha : Announces 0 0x80 uintMarkers n h)
    (rest : List UInt8) : Obj.read room (h ++ rest) = some (.uint n, rest) := by
  rcases ha with ⟨hlt, rfl⟩ | ⟨m, w, hm, hlt, rfl⟩
  · rw [List.singleton_append, Nat.zero_add, read_fixUint hlt]
  · rw [tagged, List.cons_append, read_uintWide hm, readNat_bigEndian hlt]
    rfl

/-- A signed integer under any of its headers is read back. -/
theorem read_sint_spelled {i : Int} {h : List UInt8} (hs : SignedSpelling i h)
    (rest : List UInt8) : Obj.read room (h ++ rest) = some (.sint i, rest) := by
  rcases hs with ⟨hlo, hneg, rfl⟩ | ⟨m, w, hm, hlo, hhi, rfl⟩
  · -- a negative fixint is the one byte `256 + i`, from `0xe0` up
    obtain ⟨n, hn⟩ : ∃ n : Nat, (256 + i).toNat = n := ⟨_, rfl⟩
    have hval : (n : Int) - 256 = i := by omega
    rw [hn, List.singleton_append, read_fixSint (by omega) (by omega), hval]
  · rw [tagged, List.cons_append, read_sintWide hm,
      readInt_spelled (pos_of_mem_sintMarkers hm) hlo hhi]
    rfl

/-- A string under any of its length headers is read back. -/
theorem read_str_spelled {bs h : List UInt8} (ha : Announces 0xa0 32 strMarkers bs.length h)
    (rest : List UInt8) : Obj.read room (h ++ bs ++ rest) = some (.str bs, rest) := by
  rcases ha with ⟨hlt, rfl⟩ | ⟨m, w, hm, hlt, rfl⟩
  · rw [List.singleton_append, List.cons_append, read_fixStr (by omega) (by omega),
      Nat.add_sub_cancel_left, takeExact_append]
    rfl
  · rw [tagged, List.cons_append, List.cons_append, read_strWide hm, List.append_assoc,
      readBlob_bigEndian hlt]
    rfl

/-- A binary under any of its length headers is read back. -/
theorem read_bin_spelled {bs h : List UInt8} (ha : Announces 0 0 binMarkers bs.length h)
    (rest : List UInt8) : Obj.read room (h ++ bs ++ rest) = some (.bin bs, rest) := by
  rcases ha with ⟨hlt, -⟩ | ⟨m, w, hm, hlt, rfl⟩
  · omega
  · rw [tagged, List.cons_append, List.cons_append, read_binWide hm, List.append_assoc,
      readBlob_bigEndian hlt]
    rfl

/-- An array under any of its count headers is read back when its items are. -/
theorem read_arr_spelled {xs : List Obj} {h body : List UInt8}
    (ha : Announces 0x90 16 arrMarkers xs.length h)
    (hbody : ∀ rest, readSeq (Obj.read room) xs.length (body ++ rest) = some (xs, rest))
    (rest : List UInt8) : Obj.read (room + 1) (h ++ body ++ rest) = some (.arr xs, rest) := by
  rcases ha with ⟨hlt, rfl⟩ | ⟨m, w, hm, hlt, rfl⟩
  · rw [List.singleton_append, List.cons_append, read_fixArr (by omega) (by omega),
      Nat.add_sub_cancel_left, hbody]
    rfl
  · rw [tagged, List.cons_append, List.cons_append, read_arrWide hm, List.append_assoc,
      readNat_bigEndian hlt]
    simp [hbody]

/-- A map under any of its count headers is read back when its entries are. -/
theorem read_map_spelled {es : List (Obj × Obj)} {h body : List UInt8}
    (ha : Announces 0x80 16 mapMarkers es.length h)
    (hbody : ∀ rest, readSeq (readEntry (Obj.read room)) es.length (body ++ rest) = some (es, rest))
    (rest : List UInt8) : Obj.read (room + 1) (h ++ body ++ rest) = some (.map es, rest) := by
  rcases ha with ⟨hlt, rfl⟩ | ⟨m, w, hm, hlt, rfl⟩
  · rw [List.singleton_append, List.cons_append, read_fixMap (by omega) (by omega),
      Nat.add_sub_cancel_left, hbody]
    rfl
  · rw [tagged, List.cons_append, List.cons_append, read_mapWide hm, List.append_assoc,
      readNat_bigEndian hlt]
    simp [hbody]

/-- Extension data under any of its headers is read back. -/
theorem read_ext_spelled {tag : UInt8} {data h : List UInt8} (he : ExtHeader data.length h)
    (rest : List UInt8) :
    Obj.read (room + 1) (h ++ tag :: data ++ rest) = some (.ext tag data, rest) := by
  rcases he with ⟨m, hm, rfl⟩ | ⟨hlt, -⟩ | ⟨m, w, hm, hlt, rfl⟩
  · rw [List.singleton_append, List.cons_append, read_fixExt hm, List.cons_append]
    simp [readExtBody]
  · omega
  · rw [tagged, List.cons_append, List.cons_append, read_extWide hm, List.append_assoc,
      readNat_bigEndian hlt]
    simp [readExtBody]

/-- Items read two at a time are the entries of the map they spell. -/
theorem readSeq_readEntry_of_items {item : List UInt8 → Option (Obj × List UInt8)} :
    ∀ {es : List (Obj × Obj)} {bs r : List UInt8},
      readSeq item (entryObjs es).length bs = some (entryObjs es, r) →
        readSeq (readEntry item) es.length bs = some (es, r)
  | [], bs, r, h => by simpa [entryObjs, readSeq] using h
  | e :: es, bs, r, h => by
    have hlen : (entryObjs (e :: es)).length = (entryObjs es).length + 1 + 1 := by
      simp [entryObjs]
    rw [hlen, readSeq_succ_eq_some] at h
    obtain ⟨k, r₁, xs, hk, h, hxs⟩ := h
    rw [readSeq_succ_eq_some] at h
    obtain ⟨v, r₂, ys, hv, hys, rfl⟩ := h
    simp only [entryObjs, List.flatMap_cons, List.cons_append, List.nil_append,
      List.cons.injEq] at hxs
    obtain ⟨rfl, rfl, rfl⟩ := hxs
    rw [List.length_cons, readSeq_succ_eq_some]
    exact ⟨e, r₂, es, by simp [readEntry, hk, hv], readSeq_readEntry_of_items hys, rfl⟩

mutual

/-- Every spelling of an object is read back as the object, whatever follows it. -/
theorem Spells.read_append : ∀ {room : Nat} {o : Obj} {b : List UInt8}, Spells room o b →
    ∀ rest, Obj.read room (b ++ rest) = some (o, rest)
  | _, _, _, .nil, _ => read_nil
  | _, _, _, .bool b, _ => read_bool b
  | _, _, _, .uint ha, rest => read_uint_spelled ha rest
  | _, _, _, .sint hs, rest => read_sint_spelled hs rest
  | _, _, _, .f32 hb, rest => by
    rw [tagged, List.cons_append, read_f32, readNat_bigEndian (by omega)]
    rfl
  | _, _, _, .f64 hb, rest => by
    rw [tagged, List.cons_append, read_f64, readNat_bigEndian (by omega)]
    rfl
  | _, _, _, .str ha, rest => read_str_spelled ha rest
  | _, _, _, .bin ha, rest => read_bin_spelled ha rest
  | _, _, _, .arr ha hall, rest => read_arr_spelled ha hall.readSeq_append rest
  | _, _, _, .map ha hall, rest =>
    read_map_spelled ha (fun rest => readSeq_readEntry_of_items (hall.readSeq_append rest)) rest
  | _, _, _, .ext he, rest => read_ext_spelled he rest

/-- Objects spelled one after another are read back one after another. -/
theorem SpellsAll.readSeq_append : ∀ {room : Nat} {os : List Obj} {b : List UInt8},
    SpellsAll room os b → ∀ rest, readSeq (Obj.read room) os.length (b ++ rest) = some (os, rest)
  | _, _, _, .nil, _ => rfl
  | _, _, _, .cons ho hos, rest => by
    rw [List.length_cons, readSeq_succ_eq_some]
    exact ⟨_, _, _, by rw [List.append_assoc, ho.read_append], hos.readSeq_append rest, rfl⟩

end

end Complete

/-! ## §6. Whatever is read was spelled -/

/-- The reader with room `room` reads only spellings: what it consumed spells what it read. -/
def ReadsSpellings (room : Nat) : Prop :=
  ∀ {bs r : List UInt8} {o : Obj}, Obj.read room bs = some (o, r) →
    ∃ pre, bs = pre ++ r ∧ Spells room o pre

section Sound

variable {room : Nat} {rest r : List UInt8} {o : Obj}

/-- Items read one after another by a reader of spellings are spelled one after another. -/
theorem readSeq_sound (hread : ReadsSpellings room) :
    ∀ {n : Nat} {bs r : List UInt8} {xs : List Obj}, readSeq (Obj.read room) n bs = some (xs, r) →
      xs.length = n ∧ ∃ body, bs = body ++ r ∧ SpellsAll room xs body
  | 0, bs, r, xs, h => by
    simp only [readSeq, Option.some.injEq, Prod.mk.injEq] at h
    obtain ⟨rfl, rfl⟩ := h
    exact ⟨rfl, [], rfl, .nil⟩
  | n + 1, bs, r, xs, h => by
    obtain ⟨a, r₁, as, ha, has, rfl⟩ := readSeq_succ_eq_some.1 h
    obtain ⟨pre, rfl, hpre⟩ := hread ha
    obtain ⟨hlen, body, rfl, hbody⟩ := readSeq_sound hread has
    exact ⟨by rw [List.length_cons, hlen], pre ++ body, (List.append_assoc _ _ _).symm,
      .cons hpre hbody⟩

/-- Map entries read by a reader of spellings are spelled key, value, key, value. -/
theorem readSeq_readEntry_sound (hread : ReadsSpellings room) :
    ∀ {n : Nat} {bs r : List UInt8} {es : List (Obj × Obj)},
      readSeq (readEntry (Obj.read room)) n bs = some (es, r) →
        es.length = n ∧ ∃ body, bs = body ++ r ∧ SpellsAll room (entryObjs es) body
  | 0, bs, r, es, h => by
    simp only [readSeq, Option.some.injEq, Prod.mk.injEq] at h
    obtain ⟨rfl, rfl⟩ := h
    exact ⟨rfl, [], rfl, .nil⟩
  | n + 1, bs, r, es, h => by
    obtain ⟨⟨k, v⟩, r₂, es', he, hes, rfl⟩ := readSeq_succ_eq_some.1 h
    simp only [readEntry, bind, Option.bind_eq_some_iff, pure, Option.some.injEq,
      Prod.mk.injEq, Prod.exists] at he
    obtain ⟨k', r₁, hk, v', r₂', hv, ⟨rfl, rfl⟩, rfl⟩ := he
    obtain ⟨pk, rfl, hpk⟩ := hread hk
    obtain ⟨pv, rfl, hpv⟩ := hread hv
    obtain ⟨hlen, body, rfl, hbody⟩ := readSeq_readEntry_sound hread hes
    refine ⟨by rw [List.length_cons, hlen], pk ++ (pv ++ body), by simp, ?_⟩
    exact .cons hpk (.cons hpv hbody)

theorem fixUint_sound {n : Nat} (h : n < 0x80) (hx : Obj.read room (UInt8.ofNat n :: rest) = some (o, r)) :
    ∃ pre, UInt8.ofNat n :: rest = pre ++ r ∧ Spells room o pre := by
  rw [read_fixUint h] at hx
  cases hx
  exact ⟨[UInt8.ofNat n], rfl, .uint (.inl ⟨h, by rw [Nat.zero_add]⟩)⟩

theorem fixSint_sound {n : Nat} (h : 0xe0 ≤ n) (h' : n < 256)
    (hx : Obj.read room (UInt8.ofNat n :: rest) = some (o, r)) :
    ∃ pre, UInt8.ofNat n :: rest = pre ++ r ∧ Spells room o pre := by
  rw [read_fixSint h h'] at hx
  cases hx
  have hbyte : (256 + ((n : Int) - 256)).toNat = n := by omega
  exact ⟨[UInt8.ofNat n], rfl, .sint (.inl ⟨by omega, by omega, by rw [hbyte]⟩)⟩

theorem fixStr_sound {n : Nat} (h : 0xa0 ≤ n) (h' : n < 0xc0)
    (hx : Obj.read room (UInt8.ofNat n :: rest) = some (o, r)) :
    ∃ pre, UInt8.ofNat n :: rest = pre ++ r ∧ Spells room o pre := by
  rw [read_fixStr h h'] at hx
  obtain ⟨⟨s, r'⟩, hs, he⟩ := Option.map_eq_some_iff.1 hx
  dsimp only at he
  cases he
  obtain ⟨hlen, rfl⟩ := takeExact_eq_some hs
  obtain rfl : n = 0xa0 + s.length := by omega
  exact ⟨[UInt8.ofNat (0xa0 + s.length)] ++ s, rfl, .str (.inl ⟨by omega, rfl⟩)⟩

theorem fixArr_sound {n : Nat} (h : 0x90 ≤ n) (h' : n < 0xa0)
    (hin : ∀ r, room = r + 1 → ReadsSpellings r)
    (hx : Obj.read room (UInt8.ofNat n :: rest) = some (o, r)) :
    ∃ pre, UInt8.ofNat n :: rest = pre ++ r ∧ Spells room o pre := by
  rcases room with _ | room
  · rw [read_zero_fixArr h h'] at hx
    cases hx
  rw [read_fixArr h h'] at hx
  obtain ⟨⟨xs, r'⟩, hxs, he⟩ := Option.map_eq_some_iff.1 hx
  dsimp only at he
  cases he
  obtain ⟨hlen, body, rfl, hbody⟩ := readSeq_sound (hin room rfl) hxs
  obtain rfl : n = 0x90 + xs.length := by omega
  exact ⟨[UInt8.ofNat (0x90 + xs.length)] ++ body, rfl, .arr (.inl ⟨by omega, rfl⟩) hbody⟩

theorem fixMap_sound {n : Nat} (h : 0x80 ≤ n) (h' : n < 0x90)
    (hin : ∀ r, room = r + 1 → ReadsSpellings r)
    (hx : Obj.read room (UInt8.ofNat n :: rest) = some (o, r)) :
    ∃ pre, UInt8.ofNat n :: rest = pre ++ r ∧ Spells room o pre := by
  rcases room with _ | room
  · rw [read_zero_fixMap h h'] at hx
    cases hx
  rw [read_fixMap h h'] at hx
  obtain ⟨⟨es, r'⟩, hes, he⟩ := Option.map_eq_some_iff.1 hx
  dsimp only at he
  cases he
  obtain ⟨hlen, body, rfl, hbody⟩ := readSeq_readEntry_sound (hin room rfl) hes
  obtain rfl : n = 0x80 + es.length := by omega
  exact ⟨[UInt8.ofNat (0x80 + es.length)] ++ body, rfl, .map (.inl ⟨by omega, rfl⟩) hbody⟩

theorem nil_sound (hx : Obj.read room (0xc0 :: rest) = some (o, r)) :
    ∃ pre, 0xc0 :: rest = pre ++ r ∧ Spells room o pre := by
  rw [read_nil] at hx
  cases hx
  exact ⟨[0xc0], rfl, .nil⟩

theorem reserved_sound (hx : Obj.read room (0xc1 :: rest) = some (o, r)) : False := by
  rw [read_reserved] at hx
  cases hx

theorem bool_sound (b : Bool) (hx : Obj.read room ((if b then 0xc3 else 0xc2) :: rest) = some (o, r)) :
    ∃ pre, (if b then 0xc3 else 0xc2) :: rest = pre ++ r ∧ Spells room o pre := by
  rw [read_bool] at hx
  cases hx
  exact ⟨[if b then 0xc3 else 0xc2], rfl, .bool b⟩

theorem uintWide_sound {m : UInt8} (w : Nat) (hm : (m, w) ∈ uintMarkers)
    (hx : Obj.read room (m :: rest) = some (o, r)) :
    ∃ pre, m :: rest = pre ++ r ∧ Spells room o pre := by
  rw [read_uintWide hm] at hx
  obtain ⟨⟨v, r'⟩, hv, he⟩ := Option.map_eq_some_iff.1 hx
  dsimp only at he
  cases he
  obtain ⟨hlt, rfl⟩ := readNat_eq_some hv
  exact ⟨tagged m w v, rfl, .uint (.inr ⟨m, w, hm, hlt, rfl⟩)⟩

theorem sintWide_sound {m : UInt8} (w : Nat) (hm : (m, w) ∈ sintMarkers)
    (hx : Obj.read room (m :: rest) = some (o, r)) :
    ∃ pre, m :: rest = pre ++ r ∧ Spells room o pre := by
  rw [read_sintWide hm] at hx
  obtain ⟨⟨i, r'⟩, hi, he⟩ := Option.map_eq_some_iff.1 hx
  dsimp only at he
  cases he
  obtain ⟨hlo, hhi, rfl⟩ := readInt_eq_some (pos_of_mem_sintMarkers hm) hi
  exact ⟨tagged m w (i % 2 ^ (8 * w)).toNat, rfl, .sint (.inr ⟨m, w, hm, hlo, hhi, rfl⟩)⟩

theorem f32_sound (hx : Obj.read room (0xca :: rest) = some (o, r)) :
    ∃ pre, 0xca :: rest = pre ++ r ∧ Spells room o pre := by
  rw [read_f32] at hx
  obtain ⟨⟨v, r'⟩, hv, he⟩ := Option.map_eq_some_iff.1 hx
  dsimp only at he
  cases he
  obtain ⟨hlt, rfl⟩ := readNat_eq_some hv
  exact ⟨tagged 0xca 4 v, rfl, .f32 (by omega)⟩

theorem f64_sound (hx : Obj.read room (0xcb :: rest) = some (o, r)) :
    ∃ pre, 0xcb :: rest = pre ++ r ∧ Spells room o pre := by
  rw [read_f64] at hx
  obtain ⟨⟨v, r'⟩, hv, he⟩ := Option.map_eq_some_iff.1 hx
  dsimp only at he
  cases he
  obtain ⟨hlt, rfl⟩ := readNat_eq_some hv
  exact ⟨tagged 0xcb 8 v, rfl, .f64 (by omega)⟩

theorem strWide_sound {m : UInt8} (w : Nat) (hm : (m, w) ∈ strMarkers)
    (hx : Obj.read room (m :: rest) = some (o, r)) :
    ∃ pre, m :: rest = pre ++ r ∧ Spells room o pre := by
  rw [read_strWide hm] at hx
  obtain ⟨⟨s, r'⟩, hs, he⟩ := Option.map_eq_some_iff.1 hx
  dsimp only at he
  cases he
  obtain ⟨hlt, rfl⟩ := readBlob_eq_some hs
  exact ⟨tagged m w s.length ++ s, by simp [tagged], .str (.inr ⟨m, w, hm, hlt, rfl⟩)⟩

theorem binWide_sound {m : UInt8} (w : Nat) (hm : (m, w) ∈ binMarkers)
    (hx : Obj.read room (m :: rest) = some (o, r)) :
    ∃ pre, m :: rest = pre ++ r ∧ Spells room o pre := by
  rw [read_binWide hm] at hx
  obtain ⟨⟨s, r'⟩, hs, he⟩ := Option.map_eq_some_iff.1 hx
  dsimp only at he
  cases he
  obtain ⟨hlt, rfl⟩ := readBlob_eq_some hs
  exact ⟨tagged m w s.length ++ s, by simp [tagged], .bin (.inr ⟨m, w, hm, hlt, rfl⟩)⟩

theorem arrWide_sound {m : UInt8} (w : Nat) (hm : (m, w) ∈ arrMarkers)
    (hin : ∀ r, room = r + 1 → ReadsSpellings r) (hx : Obj.read room (m :: rest) = some (o, r)) :
    ∃ pre, m :: rest = pre ++ r ∧ Spells room o pre := by
  rcases room with _ | room
  · rw [read_zero_arrWide hm] at hx
    cases hx
  rw [read_arrWide hm] at hx
  obtain ⟨⟨c, r₁⟩, hc, hx⟩ := Option.bind_eq_some_iff.1 hx
  obtain ⟨⟨xs, r'⟩, hxs, he⟩ := Option.map_eq_some_iff.1 hx
  dsimp only at he
  cases he
  obtain ⟨hlt, rfl⟩ := readNat_eq_some hc
  obtain ⟨rfl, body, rfl, hbody⟩ := readSeq_sound (hin room rfl) hxs
  exact ⟨tagged m w xs.length ++ body, by simp [tagged], .arr (.inr ⟨m, w, hm, hlt, rfl⟩) hbody⟩

theorem mapWide_sound {m : UInt8} (w : Nat) (hm : (m, w) ∈ mapMarkers)
    (hin : ∀ r, room = r + 1 → ReadsSpellings r) (hx : Obj.read room (m :: rest) = some (o, r)) :
    ∃ pre, m :: rest = pre ++ r ∧ Spells room o pre := by
  rcases room with _ | room
  · rw [read_zero_mapWide hm] at hx
    cases hx
  rw [read_mapWide hm] at hx
  obtain ⟨⟨c, r₁⟩, hc, hx⟩ := Option.bind_eq_some_iff.1 hx
  obtain ⟨⟨es, r'⟩, hes, he⟩ := Option.map_eq_some_iff.1 hx
  dsimp only at he
  cases he
  obtain ⟨hlt, rfl⟩ := readNat_eq_some hc
  obtain ⟨rfl, body, rfl, hbody⟩ := readSeq_readEntry_sound (hin room rfl) hes
  exact ⟨tagged m w es.length ++ body, by simp [tagged], .map (.inr ⟨m, w, hm, hlt, rfl⟩) hbody⟩

theorem extWide_sound {m : UInt8} (w : Nat) (hm : (m, w) ∈ extMarkers)
    (hx : Obj.read room (m :: rest) = some (o, r)) :
    ∃ pre, m :: rest = pre ++ r ∧ Spells room o pre := by
  rcases room with _ | room
  · rw [read_zero_extWide hm] at hx
    cases hx
  rw [read_extWide hm] at hx
  obtain ⟨⟨n, r₁⟩, hn, hx⟩ := Option.bind_eq_some_iff.1 hx
  obtain ⟨tag, data, rfl, rfl, rfl⟩ := readExtBody_eq_some hx
  obtain ⟨hlt, rfl⟩ := readNat_eq_some hn
  exact ⟨tagged m w data.length ++ tag :: data, by simp [tagged],
    .ext (.inr (.inr ⟨m, w, hm, hlt, rfl⟩))⟩

theorem fixExt_sound {m : UInt8} (n : Nat) (hm : (m, n) ∈ fixExtMarkers)
    (hx : Obj.read room (m :: rest) = some (o, r)) :
    ∃ pre, m :: rest = pre ++ r ∧ Spells room o pre := by
  rcases room with _ | room
  · rw [read_zero_fixExt hm] at hx
    cases hx
  rw [read_fixExt hm] at hx
  obtain ⟨tag, data, rfl, rfl, rfl⟩ := readExtBody_eq_some hx
  exact ⟨[m] ++ tag :: data, rfl, .ext (.inl ⟨m, hm, rfl⟩)⟩

/-- After its marker, an object is read only from a spelling of it. The marker picks the
form: the ranges below `0xc0` and from `0xe0` hold the short forms, the markers between them
are taken one by one. -/
theorem read_cons_sound (hin : ∀ r, room = r + 1 → ReadsSpellings r) {b : UInt8}
    (hx : Obj.read room (b :: rest) = some (o, r)) :
    ∃ pre, b :: rest = pre ++ r ∧ Spells room o pre := by
  obtain ⟨n, hn, rfl⟩ : ∃ n, n < 256 ∧ b = UInt8.ofNat n :=
    ⟨b.toNat, b.toNat_lt, UInt8.ofNat_toNat.symm⟩
  by_cases h1 : n < 0x80
  · exact fixUint_sound h1 hx
  by_cases h2 : n < 0x90
  · exact fixMap_sound (by omega) h2 hin hx
  by_cases h3 : n < 0xa0
  · exact fixArr_sound (by omega) h3 hin hx
  by_cases h4 : n < 0xc0
  · exact fixStr_sound (by omega) h4 hx
  by_cases h5 : 0xe0 ≤ n
  · exact fixSint_sound h5 hn hx
  have hlo : 0xc0 ≤ n := by omega
  have hhi : n < 0xe0 := by omega
  interval_cases n
  · exact nil_sound hx
  · exact (reserved_sound hx).elim
  · exact bool_sound false hx
  · exact bool_sound true hx
  · exact binWide_sound 1 (by decide) hx
  · exact binWide_sound 2 (by decide) hx
  · exact binWide_sound 4 (by decide) hx
  · exact extWide_sound 1 (by decide) hx
  · exact extWide_sound 2 (by decide) hx
  · exact extWide_sound 4 (by decide) hx
  · exact f32_sound hx
  · exact f64_sound hx
  · exact uintWide_sound 1 (by decide) hx
  · exact uintWide_sound 2 (by decide) hx
  · exact uintWide_sound 4 (by decide) hx
  · exact uintWide_sound 8 (by decide) hx
  · exact sintWide_sound 1 (by decide) hx
  · exact sintWide_sound 2 (by decide) hx
  · exact sintWide_sound 4 (by decide) hx
  · exact sintWide_sound 8 (by decide) hx
  · exact fixExt_sound 1 (by decide) hx
  · exact fixExt_sound 2 (by decide) hx
  · exact fixExt_sound 4 (by decide) hx
  · exact fixExt_sound 8 (by decide) hx
  · exact fixExt_sound 16 (by decide) hx
  · exact strWide_sound 1 (by decide) hx
  · exact strWide_sound 2 (by decide) hx
  · exact strWide_sound 4 (by decide) hx
  · exact arrWide_sound 2 (by decide) hin hx
  · exact arrWide_sound 4 (by decide) hin hx
  · exact mapWide_sound 2 (by decide) hin hx
  · exact mapWide_sound 4 (by decide) hin hx

end Sound

/-- The object reader reads only spellings, at every nesting room. -/
theorem Obj.read_sound (room : Nat) : ReadsSpellings room := by
  induction room with
  | zero =>
    intro bs r o hx
    cases bs with
    | nil => simp [Obj.read] at hx
    | cons b rest => exact read_cons_sound (fun r h => by omega) hx
  | succ room ih =>
    intro bs r o hx
    cases bs with
    | nil => simp [Obj.read] at hx
    | cons b rest => exact read_cons_sound (fun r h => Nat.add_right_cancel h ▸ ih) hx

/-- The reader reads exactly the spellings: it reads `o` and leaves `rest` exactly when the
bytes are a spelling of `o` followed by `rest`. -/
theorem Obj.read_eq_some_iff {room : Nat} {bs rest : List UInt8} {o : Obj} :
    Obj.read room bs = some (o, rest) ↔ ∃ pre, bs = pre ++ rest ∧ Spells room o pre :=
  ⟨Obj.read_sound room, fun ⟨_, h, hs⟩ => h ▸ hs.read_append rest⟩

end ControlLoop.Pack

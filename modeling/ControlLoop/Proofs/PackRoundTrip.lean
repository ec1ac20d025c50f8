import ControlLoop.Pack.Read
import ControlLoop.Pack.Write
import Mathlib.Tactic.Ring
import Mathlib.Tactic.Zify

/-! # Reading back what was written

The writer puts every object in its shortest form; this module shows that the reader takes
each such form back to the object it came from, leaving whatever bytes follow untouched.

## What reads back

  * truth values, and integers that fit 64 bits: non-negative ones as written with an
    unsigned marker of the smallest width, negative ones in two's complement of the
    smallest width;
  * doubles, by their 64 bits;
  * strings of fewer than `2 ^ 32` bytes, under any of their four length headers;
  * maps of fewer than `2 ^ 32` entries whose keys and values read back, with one more
    unit of nesting room than their entries need.

`ReadsBack room o` is the statement for one object; the map lemma `readsBack_map` builds it
for a container out of its parts, so a nested value is handled level by level. The bounds
are the format's own: a marker carries at most 64 bits of an integer and 32 bits of a
length, and the writer truncates anything longer.
-/

namespace ControlLoop.Pack

/-! ## §1. Big-endian numbers -/

/-- A number written in `w` bytes takes `w` bytes. -/
@[simp] theorem length_bigEndian (w n : Nat) : (bigEndian w n).length = w := by
  simp [bigEndian]

/-- The most significant byte comes first. -/
theorem bigEndian_succ (w n : Nat) :
    bigEndian (w + 1) n = UInt8.ofNat (n / 256 ^ w % 256) :: bigEndian w n := by
  simp [bigEndian, List.range_succ]

/-- Reading the `w` bytes of `n` after a number `acc` already read shifts `acc` by `w`
bytes and adds `n` modulo `256 ^ w`. -/
theorem foldl_bigEndian (w n acc : Nat) :
    (bigEndian w n).foldl (fun n b => 256 * n + b.toNat) acc = acc * 256 ^ w + n % 256 ^ w := by
  induction w generalizing acc with
  | zero => simp [bigEndian, Nat.mod_one]
  | succ w ih =>
    have hdigit : (UInt8.ofNat (n / 256 ^ w % 256)).toNat = n / 256 ^ w % 256 := by simp
    rw [bigEndian_succ, List.foldl_cons, ih, hdigit, Nat.mod_pow_succ, Nat.pow_succ]
    ring

/-- The bytes of a number read back as the number modulo `256 ^ w`. -/
@[simp] theorem ofBigEndian_bigEndian (w n : Nat) :
    ofBigEndian (bigEndian w n) = n % 256 ^ w := by
  simp [ofBigEndian, foldl_bigEndian]

/-! ## §2. Fixed-width fields -/

/-- Exactly the bytes in front are taken and the rest is left. -/
@[simp] theorem takeExact_append (bs rest : List UInt8) :
    takeExact bs.length (bs ++ rest) = some (bs, rest) := by
  simp [takeExact]

/-- A number that fits its width is read back from its bytes. -/
theorem readNat_bigEndian {w n : Nat} (h : n < 256 ^ w) (rest : List UInt8) :
    readNat w (bigEndian w n ++ rest) = some (n, rest) := by
  have htake := takeExact_append (bigEndian w n) rest
  rw [length_bigEndian] at htake
  simp [readNat, htake, Nat.mod_eq_of_lt h]

/-- A negative number is read back from its two's complement in a width that holds it. -/
theorem readInt_bigEndian {w : Nat} {i : Int} (hw : 0 < w) (hlo : -2 ^ (8 * w - 1) ≤ i)
    (hneg : i < 0) (rest : List UInt8) :
    readInt w (bigEndian w (2 ^ (8 * w) + i).toNat ++ rest) = some (i, rest) := by
  have hhalf : (2 : Int) ^ (8 * w) = 2 * 2 ^ (8 * w - 1) := by
    rw [← pow_succ']
    congr 1
    omega
  have hpow : (256 : Nat) ^ w = 2 ^ (8 * w) := by
    rw [pow_mul]
    norm_num
  have hval : (((2 ^ (8 * w) + i).toNat : Nat) : Int) = 2 ^ (8 * w) + i := by
    rw [Int.toNat_of_nonneg]
    omega
  -- the complement lies in the upper half of the width, which the reader takes as negative
  have hfit : (2 ^ (8 * w) + i).toNat < 256 ^ w := by
    rw [hpow]
    zify
    omega
  have htop : 2 ^ (8 * w - 1) ≤ (2 ^ (8 * w) + i).toNat := by
    zify
    omega
  simp [readInt, readNat_bigEndian hfit, htop, hval]

/-- A blob of bytes is read back after its length in a width that holds it. -/
theorem readBlob_bigEndian {w : Nat} {bs : List UInt8} (h : bs.length < 256 ^ w)
    (rest : List UInt8) :
    readBlob w (bigEndian w bs.length ++ (bs ++ rest)) = some (bs, rest) := by
  simp [readBlob, readNat_bigEndian h]

/-! ## §3. Objects that read back -/

/-- The object `o` is read back from its bytes, whatever bytes follow them, with room for
`room` more nested containers. -/
def ReadsBack (room : Nat) (o : Obj) : Prop :=
  ∀ rest, Obj.read room (o.write ++ rest) = some (o, rest)

/-- A truth value reads back. -/
theorem readsBack_bool (room : Nat) (b : Bool) : ReadsBack room (.bool b) := by
  intro rest
  cases b <;> simp [Obj.write, Obj.read]

/-- An integer that fits 64 unsigned bits reads back, in each of its five forms. -/
theorem readsBack_uint (room : Nat) {n : Nat} (h : n < 2 ^ 64) : ReadsBack room (.uint n) := by
  intro rest
  simp only [Obj.write, writeUint]
  split_ifs with h1 h2 h3 h4
  · have hbyte : (UInt8.ofNat n).toNat = n := by simp; omega
    simp [Obj.read, hbyte, h1]
  · simp [tagged, Obj.read, readNat_bigEndian (show n < 256 ^ 1 by omega)]
  · simp [tagged, Obj.read, readNat_bigEndian (show n < 256 ^ 2 by omega)]
  · simp [tagged, Obj.read, readNat_bigEndian (show n < 256 ^ 4 by omega)]
  · simp [tagged, Obj.read, readNat_bigEndian (show n < 256 ^ 8 by omega)]

/-- A negative integer that fits 64 signed bits reads back, in each of its five forms. -/
theorem readsBack_sint (room : Nat) {i : Int} (hlo : -2 ^ 63 ≤ i) (hneg : i < 0) :
    ReadsBack room (.sint i) := by
  intro rest
  simp only [Obj.write, writeInt, if_neg (Int.not_le.2 hneg)]
  split_ifs with h1 h2 h3 h4
  · -- a negative fixint is the one byte `256 + i`, at or above `0xe0`
    obtain ⟨b, hb⟩ : ∃ b, (256 + i).toNat = b := ⟨_, rfl⟩
    have hbyte : (UInt8.ofNat b).toNat = b := by simp; omega
    have hval : (b : Int) - 256 = i := by omega
    simp only [hb, List.singleton_append, Obj.read, hbyte]
    rw [if_neg (by omega), if_neg (by omega), if_neg (by omega), if_neg (by omega),
      if_pos (by omega), hval]
  · have := readInt_bigEndian (w := 1) (by omega) (by simpa using h2) hneg rest
    simpa [tagged, Obj.read] using this
  · have := readInt_bigEndian (w := 2) (by omega) (by simpa using h3) hneg rest
    simpa [tagged, Obj.read] using this
  · have := readInt_bigEndian (w := 4) (by omega) (by simpa using h4) hneg rest
    simpa [tagged, Obj.read] using this
  · have := readInt_bigEndian (w := 8) (by omega) (by simpa using hlo) hneg rest
    simpa [tagged, Obj.read] using this

/-- A double reads back by its 64 bits. -/
theorem readsBack_f64 (room : Nat) {bits : Nat} (h : bits < 2 ^ 64) :
    ReadsBack room (.f64 bits) := by
  intro rest
  simp [Obj.write, tagged, Obj.read, readNat_bigEndian (show bits < 256 ^ 8 by omega)]

/-- A string of fewer than `2 ^ 32` bytes reads back, under each of its four headers. -/
theorem readsBack_str (room : Nat) {bs : List UInt8} (h : bs.length < 2 ^ 32) :
    ReadsBack room (.str bs) := by
  intro rest
  simp only [Obj.write, writeStr, header]
  split_ifs with h1 h2 h3
  · -- a short string's length sits in its marker, `0xa0` to `0xbf`
    obtain ⟨b, hb⟩ : ∃ b, (0xa0 + UInt8.ofNat bs.length : UInt8).toNat = b := ⟨_, rfl⟩
    have hval : b = 160 + bs.length := by
      rw [← hb]
      simp [UInt8.toNat_add]
      omega
    simp only [List.cons_append, Obj.read, hb]
    rw [if_neg (by omega), if_neg (by omega), if_neg (by omega), if_pos (by omega),
      show b - 0xa0 = bs.length by omega]
    simp
  · simp [tagged, Obj.read, readBlob_bigEndian (show bs.length < 256 ^ 1 by omega)]
  · simp [tagged, Obj.read, readBlob_bigEndian (show bs.length < 256 ^ 2 by omega)]
  · simp [tagged, Obj.read, readBlob_bigEndian (show bs.length < 256 ^ 4 by omega)]

/-! ## §4. Maps -/

/-- The bytes of map entries are the bytes of each key and value in turn. -/
theorem writeEntries_eq_flatMap (es : List (Obj × Obj)) :
    Obj.writeEntries es = es.flatMap fun e => e.1.write ++ e.2.write := by
  induction es with
  | nil => simp [Obj.writeEntries]
  | cons e es ih =>
    obtain ⟨k, v⟩ := e
    simp [Obj.writeEntries, ih]

/-- Items that each read back from their bytes are read back one after another. -/
theorem readSeq_flatMap {α : Type} (item : List UInt8 → Option (α × List UInt8))
    (enc : α → List UInt8) :
    ∀ (xs : List α) (rest : List UInt8),
      (∀ x ∈ xs, ∀ rest, item (enc x ++ rest) = some (x, rest)) →
      readSeq item xs.length (xs.flatMap enc ++ rest) = some (xs, rest)
  | [], rest, _ => by simp [readSeq]
  | x :: xs, rest, h => by
    have hx := h x List.mem_cons_self (xs.flatMap enc ++ rest)
    have hxs := readSeq_flatMap item enc xs rest fun y hy => h y (List.mem_cons_of_mem x hy)
    simp [readSeq, hx, hxs]

/-- The entries of a map whose keys and values read back are read back in order, by the
entry reader the map markers use. -/
theorem readSeq_entries {room : Nat} {es : List (Obj × Obj)}
    (hes : ∀ e ∈ es, ReadsBack room e.1 ∧ ReadsBack room e.2) (rest : List UInt8) :
    readSeq (fun bs => (Obj.read room bs).bind fun k => (Obj.read room k.2).bind fun v =>
        some ((k.1, v.1), v.2)) es.length (Obj.writeEntries es ++ rest) = some (es, rest) := by
  rw [writeEntries_eq_flatMap]
  refine readSeq_flatMap _ _ es rest fun e he rest => ?_
  rw [List.append_assoc, (hes e he).1, Option.bind_some, (hes e he).2, Option.bind_some]

/-- A map of fewer than `2 ^ 32` entries that read back reads back, under each of its three
headers, with one more unit of room than its entries. -/
theorem readsBack_map {room : Nat} {es : List (Obj × Obj)} (h : es.length < 2 ^ 32)
    (hes : ∀ e ∈ es, ReadsBack room e.1 ∧ ReadsBack room e.2) :
    ReadsBack (room + 1) (.map es) := by
  intro rest
  simp only [Obj.write, header]
  split_ifs with h1 h2
  · -- a small map's size sits in its marker, `0x80` to `0x8f`
    obtain ⟨b, hb⟩ : ∃ b, (0x80 + UInt8.ofNat es.length : UInt8).toNat = b := ⟨_, rfl⟩
    have hval : b = 128 + es.length := by
      rw [← hb]
      simp [UInt8.toNat_add]
      omega
    simp only [List.cons_append, Obj.read, hb]
    rw [if_neg (by omega), if_pos (by omega), show b - 0x80 = es.length by omega]
    simp [readSeq_entries hes]
  · simp [tagged, Obj.read, readNat_bigEndian (show es.length < 256 ^ 2 by omega),
      readSeq_entries hes]
  · simp [tagged, Obj.read, readNat_bigEndian (show es.length < 256 ^ 4 by omega),
      readSeq_entries hes]

end ControlLoop.Pack

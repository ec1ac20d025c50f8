import ControlLoop.Message.Wire
import ControlLoop.Proofs.PackRoundTrip

/-! # Messages survive the wire

Decoding the bytes of a message gives back the very message that was encoded: its kind,
its sequence number, its timestamp bit for bit, and its payload, each value of the same
variant as before. An integral double stays a double and every 64-bit integer stays an
integer, since integers are written with integer markers and doubles with the double
marker, and the reader maps the two apart.

## Layers

  * names: a string's UTF-8 bytes decode to the string (`utf8?_bytesOf`);
  * values: each value's object stands for it and reads back (`Value.ofObj?_toObj`,
    `Value.readsBack_toObj`);
  * payloads: decoding the entries of an ordered map inserts them in order, which rebuilds
    the map (`Message.payloadOf?_map`, through `NameMap.ofList_entries`);
  * messages: the four fields are found by name and the whole object reads back from its
    bytes (`Message.ofObj?_toObj`, `Message.readsBack_toObj`), hence `Message.decode_encode`.

The only bounds are the format's: a sequence number fits 64 bits, and the payload has fewer
than `2 ^ 32` entries, each named by fewer than `2 ^ 32` bytes.
-/

namespace ControlLoop

namespace Pack

/-! ## §1. Names -/

/-- Turning bytes into a list walks them from the first. -/
theorem toList_loop (bs : ByteArray) (i : Nat) (r : List UInt8) :
    ByteArray.toList.loop bs i r = r.reverse ++ bs.data.toList.drop i := by
  fun_induction ByteArray.toList.loop bs i r with
  | case1 i r hi ih =>
    have hlen : i < bs.data.toList.length := by
      rw [Array.length_toList]
      exact hi
    rw [ih, List.reverse_cons, List.append_assoc, List.drop_eq_getElem_cons hlen]
    simp [ByteArray.get!, getElem!_pos bs.data i hi]
  | case2 i r hi =>
    have hlen : bs.data.toList.length ≤ i := by
      rw [Array.length_toList]
      exact Nat.le_of_not_lt hi
    rw [List.drop_eq_nil_of_le hlen, List.append_nil]

/-- The UTF-8 bytes of a text decode to the text. -/
@[simp] theorem utf8?_bytesOf (s : String) : utf8? (bytesOf s) = some s := by
  have hlist : s.toUTF8.toList = s.toUTF8.data.toList := by
    simp [ByteArray.toList, toList_loop]
  simp only [utf8?, bytesOf, hlist, Array.toArray_toList]
  simp [String.fromUTF8?, String.fromUTF8]
  exact s.isValidUTF8

end Pack

open Pack

/-! ## §2. Values -/

namespace Value

/-- A value's object stands for the value again, of the same variant. -/
@[simp] theorem ofObj?_toObj (v : Value) : ofObj? v.toObj = some v := by
  cases v with
  | bool b => rfl
  | int i =>
    by_cases h : 0 ≤ i.toInt
    · -- a non-negative integer travels as an unsigned one, below `2 ^ 63`
      have hlt : i.toInt.toNat < 2 ^ 63 := by
        have := Int64.toInt_lt i
        omega
      have hcast : ((i.toInt.toNat : Nat) : Int) = i.toInt := Int.toNat_of_nonneg h
      simp only [toObj, if_pos h, ofObj?, if_pos hlt, hcast, Int64.ofInt_toInt]
    · simp [toObj, ofObj?, h]
  | float x => simp [toObj, ofObj?]

/-- A value's object reads back from its bytes. -/
theorem readsBack_toObj (room : Nat) (v : Value) : ReadsBack room v.toObj := by
  cases v with
  | bool b => exact readsBack_bool room b
  | int i =>
    by_cases h : 0 ≤ i.toInt
    · have hlt := Int64.toInt_lt i
      simp only [toObj, if_pos h]
      exact readsBack_uint room (by omega)
    · simp only [toObj, if_neg h]
      exact readsBack_sint room (Int64.le_toInt i) (by omega)
  | float x =>
    exact readsBack_f64 room (by simpa [Double.toBitsNat] using x.bits.toNat_lt)

end Value

namespace Message

/-! ## §3. Payloads -/

/-- A fold whose every step succeeds is the plain fold. -/
theorem foldlM_of_some {α β : Type} (f : β → α → Option β) (g : β → α → β) :
    ∀ (l : List α) (acc : β), (∀ b, ∀ a ∈ l, f b a = some (g b a)) →
      l.foldlM f acc = some (l.foldl g acc)
  | [], _, _ => rfl
  | a :: l, acc, h => by
    rw [List.foldlM_cons, h acc a List.mem_cons_self, List.foldl_cons]
    exact foldlM_of_some f g l _ fun b a' ha' => h b a' (List.mem_cons_of_mem a ha')

/-- The entries of a payload, written as a map of names to value objects, decode to the
payload: every name and value decodes, and inserting them in their order rebuilds it. -/
theorem payloadOf?_map (p : PropMap) :
    payloadOf? (.map (p.entries.map fun e => (.str (bytesOf e.1), e.2.toObj))) = some p := by
  simp only [payloadOf?, List.foldlM_map]
  rw [foldlM_of_some _ (fun m e => m.insert e.1 e.2) _ _ fun b a _ => by simp]
  exact congrArg some (NameMap.ofList_entries p)

/-! ## §4. Messages -/

/-- A kind is read back from its code. -/
@[simp] theorem kindOf?_code (k : Kind) : kindOf? (.uint k.code) = some k := by
  cases k <;> rfl

/-- A sequence number that fits 64 bits is read back. -/
theorem seqOf?_uint {n : Nat} (h : n < 2 ^ 64) : seqOf? (.uint n) = some n := by
  -- rewriting only: a definitional check would unfold the bound `2 ^ 64` in the kernel
  rw [seqOf?, show Obj.toInt? (.uint n) = some (n : Int) from rfl, Option.bind_eq_bind,
    Option.bind_some, if_pos ⟨Int.natCast_nonneg n, by omega⟩, Int.toNat_natCast]

/-- The object of a message with a 64-bit sequence number stands for the message: each of
the four fields is found by its name, once. -/
theorem ofObj?_toObj (m : Message) (hseq : m.seq < 2 ^ 64) : ofObj? m.toObj = some m := by
  have h0 : fieldOf (.str (bytesOf "msg_type")) = some (some 0) := by decide +kernel
  have h1 : fieldOf (.str (bytesOf "seq")) = some (some 1) := by decide +kernel
  have h2 : fieldOf (.str (bytesOf "timestamp")) = some (some 2) := by decide +kernel
  have h3 : fieldOf (.str (bytesOf "payload")) = some (some 3) := by decide +kernel
  simp [toObj, ofObj?, h0, h1, h2, h3, Fields.put, seqOf?_uint hseq, Obj.toDouble?,
    payloadOf?_map, Fields.finish]

/-- Bytes that start with an object standing for a message decode to that message. -/
theorem decode_of_read {bs rest : List UInt8} {o : Obj} {m : Message}
    (hread : Obj.read nestingRoom bs = some (o, rest)) (hm : ofObj? o = some m) :
    decode bs = .ok m := by
  cases bs with
  | nil => simp [Obj.read] at hread
  | cons b bs => simp [decode, hread, hm]

/-- A message's object reads back from its bytes when its sequence number fits 64 bits and
its payload's size and names fit 32-bit lengths. -/
theorem readsBack_toObj (m : Message) (room : Nat) (hseq : m.seq < 2 ^ 64)
    (hsize : m.payload.size < 2 ^ 32)
    (hkeys : ∀ k ∈ m.payload.keys, (bytesOf k).length < 2 ^ 32) :
    ReadsBack (room + 2) m.toObj := by
  have hpayload : ReadsBack (room + 1)
      (.map (m.payload.entries.map fun e => (.str (bytesOf e.1), e.2.toObj))) := by
    refine readsBack_map (by simpa [NameMap.size] using hsize) fun e he => ?_
    obtain ⟨⟨k, v⟩, hkv, rfl⟩ := List.mem_map.1 he
    have hk : k ∈ m.payload.keys := List.mem_map.2 ⟨(k, v), hkv, rfl⟩
    exact ⟨readsBack_str room (hkeys k hk), Value.readsBack_toObj room v⟩
  refine readsBack_map (by simp) fun e he => ?_
  simp only [List.mem_cons, List.not_mem_nil, or_false] at he
  rcases he with rfl | rfl | rfl | rfl
  · exact ⟨readsBack_str _ (by decide +kernel), readsBack_uint _ (by cases m.kind <;> decide)⟩
  · exact ⟨readsBack_str _ (by decide +kernel), readsBack_uint _ hseq⟩
  · exact ⟨readsBack_str _ (by decide +kernel),
      readsBack_f64 _ (by simpa [Double.toBitsNat] using m.timestamp.bits.toNat_lt)⟩
  · exact ⟨readsBack_str _ (by decide +kernel), hpayload⟩

/-- Decoding the bytes of a message gives the message back: its kind, its sequence number,
its timestamp bit for bit, and its payload with every value of the same variant. The
sequence number fits 64 bits, and the payload has fewer than `2 ^ 32` entries, each named
by fewer than `2 ^ 32` bytes. -/
theorem decode_encode (m : Message) (hseq : m.seq < 2 ^ 64) (hsize : m.payload.size < 2 ^ 32)
    (hkeys : ∀ k ∈ m.payload.keys, (bytesOf k).length < 2 ^ 32) :
    decode m.encode = .ok m := by
  have hread := readsBack_toObj m 1021 hseq hsize hkeys []
  rw [List.append_nil] at hread
  exact decode_of_read hread (ofObj?_toObj m hseq)

/-- The largest sequence number, a NaN timestamp with a payload in its fraction, and values
at the edges of their variants (the least 64-bit integer under the empty name, a negative
zero, an integral double) come back as they went. -/
theorem decode_encode_edges :
    let m : Message :=
      { kind := .actuation, seq := 2 ^ 64 - 1, timestamp := ⟨0x7ff0000000000001⟩,
        payload := NameMap.ofList [("", .int (Int64.ofInt (-2 ^ 63))),
          ("minus_zero", .float ⟨0x8000000000000000⟩), ("two", .float ⟨0x4000000000000000⟩),
          ("big", .int (Int64.ofInt (2 ^ 53 + 1)))] }
    decode m.encode = .ok m :=
  decode_encode _ (by decide) (by decide) (by decide +kernel)

end Message

/-! ## §5. Messages short enough to send

A datagram holds far fewer than `2 ^ 32` bytes, and the bytes of a message hold at least one
byte per payload entry and every name's bytes, so a message that fits a datagram meets the
format's bounds on its own. -/

namespace Pack

/-- A length header takes at least one byte. -/
theorem header_length_pos (fixBase : UInt8) (fixLimit : Nat) (w8 : Option UInt8)
    (w16 w32 : UInt8) (n : Nat) : 0 < (header fixBase fixLimit w8 w16 w32 n).length := by
  unfold header
  split
  · simp
  · split <;> (try split) <;> (try split) <;> simp [tagged]

/-- The bytes of a payload's entries hold at least one byte per entry and all the bytes of
every name. -/
theorem writeEntries_payload_length (es : List (String × Value)) :
    es.length ≤ (Obj.writeEntries (es.map fun e => (.str (bytesOf e.1), e.2.toObj))).length ∧
    ∀ k ∈ es.map (·.1),
      (bytesOf k).length ≤ (Obj.writeEntries (es.map fun e => (.str (bytesOf e.1), e.2.toObj))).length := by
  induction es with
  | nil => simp
  | cons e es ih =>
    have hkey := header_length_pos 0xa0 32 (some 0xd9) 0xda 0xdb (bytesOf e.1).length
    simp only [List.map_cons, Obj.writeEntries, Obj.write, writeStr, List.length_append,
      List.length_cons]
    refine ⟨by omega, fun k hk => ?_⟩
    rcases List.mem_cons.1 hk with rfl | hk
    · omega
    · have := ih.2 k hk
      omega

end Pack

namespace Message

/-- A message of fewer than `2 ^ 32` bytes has a payload of fewer than `2 ^ 32` entries,
each named by fewer than `2 ^ 32` bytes. -/
theorem payload_fits_of_encode (m : Message) (h : m.encode.length < 2 ^ 32) :
    m.payload.size < 2 ^ 32 ∧ ∀ k ∈ m.payload.keys, (bytesOf k).length < 2 ^ 32 := by
  have hbound := writeEntries_payload_length m.payload.entries
  have hlen : (Obj.writeEntries (m.payload.entries.map fun e =>
      (.str (bytesOf e.1), e.2.toObj))).length ≤ m.encode.length := by
    simp only [encode, toObj, Obj.write, Obj.writeEntries, List.length_append]
    omega
  exact ⟨by simp only [NameMap.size]; omega, fun k hk => by have := hbound.2 k hk; omega⟩

/-- A message of fewer than `2 ^ 32` bytes whose sequence number fits 64 bits decodes back
from its bytes. -/
theorem decode_encode_of_short (m : Message) (hseq : m.seq < 2 ^ 64)
    (h : m.encode.length < 2 ^ 32) : decode m.encode = .ok m := by
  obtain ⟨hsize, hkeys⟩ := payload_fits_of_encode m h
  have hread := readsBack_toObj m 1021 hseq hsize hkeys []
  rw [List.append_nil] at hread
  exact decode_of_read hread (ofObj?_toObj m hseq)

end Message

end ControlLoop

import Mathlib.Data.List.Forall2
import Mathlib.Tactic.IntervalCases
import ControlLoop.Net.Address

/-! # Socket addresses read back from their text

Every address whose numbers fit their fields reads back from the text `render` gives it,
less an IPv6 flow label, which the text does not carry (`SocketAddr.parse?_render`): four
decimal octets, or eight hexadecimal groups with the longest run of zero groups written `::`
and an IPv4-mapped address with a dotted tail, a scope after `%` when it is not zero, and the
port after a colon.

## Layers

  * numerals: the digits `Nat.toDigits` writes read back as the number, up to the first
    character that is not a digit of the radix (`number_toDigits`);
  * octets: dotted octets read back (`ipv4_dotted`), and text without a dot is no IPv4
    address (`ipv4_of_no_dot`);
  * the zero run: the scan finds a run of zero groups inside the address (`zeroRun_spec`);
  * groups: hexadecimal groups after colons read back up to a text that ends them
    (`groups_colons`), and the IPv6 text of eight groups reads back (`ipv6_v6Text`).
-/

namespace ControlLoop

namespace SocketAddr

/-- A host the text form carries: four octets, or eight 16-bit groups with a 32-bit scope and
any flow label. -/
inductive HostFits : Host → Prop
  | v4 {os : List ℕ} : os.length = 4 → (∀ o ∈ os, o < 256) → HostFits (.v4 os)
  | v6 {gs : List ℕ} {flow scope : ℕ} : gs.length = 8 → (∀ g ∈ gs, g < 65536) → scope < 2 ^ 32 →
      HostFits (.v6 gs flow scope)

/-- An address the text form carries: its host fits, and so does its 16-bit port. -/
structure Fits (a : SocketAddr) : Prop where
  host : HostFits a.host
  port : a.port < 65536

/-- The flow label of an IPv6 address; an IPv4 address has none. -/
def flowinfo (a : SocketAddr) : ℕ :=
  match a.host with
  | .v6 _ flow _ => flow
  | .v4 _ => 0

/-- The address with its flow label cleared: what its text reads back as. -/
def withoutFlowinfo (a : SocketAddr) : SocketAddr :=
  match a.host with
  | .v6 gs _ scope => ⟨.v6 gs 0 scope, a.port⟩
  | .v4 _ => a

/-- Clearing the flow label changes an address exactly when it has one. -/
theorem withoutFlowinfo_eq_self (a : SocketAddr) : a.withoutFlowinfo = a ↔ a.flowinfo = 0 := by
  obtain ⟨host, port⟩ := a
  cases host with
  | v4 os => simp [withoutFlowinfo, flowinfo]
  | v6 gs flow scope => simp [withoutFlowinfo, flowinfo, eq_comm]

/-! ## §1. Numerals -/

/-- The digit characters of a radix up to sixteen read as their values. -/
theorem digitIn_digitChar {radix d : ℕ} (hr : radix ≤ 16) (hd : d < radix) :
    digitIn radix (Nat.digitChar d) = some d := by
  have h16 : d < 16 := by omega
  unfold digitIn
  interval_cases d <;> simp [Nat.digitChar, hd]

/-- The leading digits: a run of characters that read as digits, then one that does not. -/
theorem spanDigits_append {radix : ℕ} {cs rest : List Char} {ds : List ℕ}
    (hcs : List.Forall₂ (fun c d => digitIn radix c = some d) cs ds)
    (hrest : ∀ c ∈ rest.head?, digitIn radix c = none) :
    spanDigits radix (cs ++ rest) = (ds, rest) := by
  induction hcs with
  | nil =>
    cases rest with
    | nil => simp [spanDigits]
    | cons c r => simp [spanDigits, hrest c rfl]
  | cons hcd _ ih => simp [spanDigits, hcd, ih]

/-- What follows the leading digits is a suffix of the text. -/
theorem spanDigits_suffix (radix : ℕ) (cs : List Char) : (spanDigits radix cs).2 <:+ cs := by
  induction cs with
  | nil => simp [spanDigits]
  | cons c cs ih =>
    unfold spanDigits
    split
    · exact ih.trans (List.suffix_cons c cs)
    · exact List.suffix_refl _

/-- A numeral has a digit. -/
theorem ne_nil_of_forall₂_toDigits {R : Char → ℕ → Prop} {radix v : ℕ} {ds : List ℕ}
    (h : List.Forall₂ R (Nat.toDigits radix v) ds) : ds ≠ [] := by
  rintro rfl
  exact Nat.toDigits_ne_nil (List.forall₂_nil_right_iff.1 h)

/-- The digits of a numeral in a radix from two to sixteen, as values: they make the number,
and only zero begins with a zero. -/
theorem toDigits_values {radix : ℕ} (h2 : 2 ≤ radix) (h16 : radix ≤ 16) (v : ℕ) :
    ∃ ds, List.Forall₂ (fun c d => digitIn radix c = some d) (Nat.toDigits radix v) ds ∧
      ds.foldl (fun n d => radix * n + d) 0 = v ∧ (0 < v → ds.head? ≠ some 0) := by
  induction v using Nat.base_induction radix (by omega) with
  | single m hm =>
    refine ⟨[m], ?_, by simp, fun hpos h => by simp at h; omega⟩
    rw [Nat.toDigits_of_lt_base hm]
    exact .cons (digitIn_digitChar h16 hm) .nil
  | digit m k hk hm ih =>
    obtain ⟨ds, hds, hval, hhead⟩ := ih
    have hne : ds ≠ [] := ne_nil_of_forall₂_toDigits hds
    refine ⟨ds ++ [k], ?_, ?_, ?_⟩
    · rw [← Nat.toDigits_append_toDigits (by omega) hm hk, Nat.toDigits_of_lt_base hk]
      exact List.rel_append hds (.cons (digitIn_digitChar h16 hk) .nil)
    · rw [List.foldl_append, hval]
      rfl
    · intro _
      rw [List.head?_append_of_ne_nil _ hne]
      exact hhead hm

/-- A numeral reads back as its number, before a character that is not a digit. -/
theorem number_toDigits {radix bound v : ℕ} {maxDigits : Option ℕ} (zeroPrefix : Bool)
    {rest : List Char} (h2 : 2 ≤ radix) (h16 : radix ≤ 16) (hv : v < bound)
    (hmax : ∀ m ∈ maxDigits, (Nat.toDigits radix v).length ≤ m)
    (hrest : ∀ c ∈ rest.head?, digitIn radix c = none) :
    number radix maxDigits zeroPrefix bound (Nat.toDigits radix v ++ rest) = some (v, rest) := by
  obtain ⟨ds, hds, hval, hhead⟩ := toDigits_values h2 h16 v
  have hlen := hds.length_eq
  have hne : ds ≠ [] := ne_nil_of_forall₂_toDigits hds
  -- two digits or more make a number of at least the radix, which is not zero
  have hlead : ¬ (ds.length > 1 ∧ ds.head? = some 0) := by
    rintro ⟨hgt, h0⟩
    have : ¬ (Nat.toDigits radix v).length ≤ 1 := by omega
    rw [Nat.length_toDigits_le_iff (by omega) (by omega), pow_one] at this
    exact hhead (by omega) h0
  unfold number
  rw [spanDigits_append hds hrest]
  dsimp only
  rw [hval, if_neg (by simpa using hne), if_neg, if_neg, if_neg (by omega)]
  · simpa using fun _ => hlead
  · cases maxDigits with
    | none => simp
    | some m => simpa [← hlen] using hmax m rfl

/-- No numeral begins with a character that is not a digit. -/
theorem number_of_head {radix bound : ℕ} {maxDigits : Option ℕ} {zeroPrefix : Bool}
    {cs : List Char} (h : ∀ c ∈ cs.head?, digitIn radix c = none) :
    number radix maxDigits zeroPrefix bound cs = none := by
  have hspan : spanDigits radix cs = ([], cs) := by
    simpa using @spanDigits_append radix [] cs [] .nil h
  unfold number
  rw [hspan]
  rfl

/-- A numeral leaves a suffix of the text. -/
theorem number_suffix {radix bound : ℕ} {maxDigits : Option ℕ} {zeroPrefix : Bool}
    {cs r : List Char} {v : ℕ} (h : number radix maxDigits zeroPrefix bound cs = some (v, r)) :
    r <:+ cs := by
  unfold number at h
  dsimp only at h
  split_ifs at h
  cases h
  exact spanDigits_suffix radix cs

/-- A character that is no digit of a radix is no digit of a smaller one. -/
theorem digitIn_eq_none_of_le {r r' : ℕ} (hr : r ≤ r') {c : Char} (h : digitIn r' c = none) :
    digitIn r c = none := by
  unfold digitIn at h ⊢
  split_ifs at h ⊢ <;> simp_all <;> omega

/-! ## §2. Octets -/

/-- Items joined by a separator read back, item after item, when each item reads back before
any text that begins as the separator does or as the text after the items does. -/
theorem separated_intercalate (sep : Char) (item : List Char → Option (ℕ × List Char))
    (text : ℕ → List Char) (stop : Char → Prop) (hsep : stop sep) (xs : List ℕ)
    (hitem : ∀ x ∈ xs, ∀ r : List Char, (∀ c ∈ r.head?, stop c) → item (text x ++ r) = some (x, r))
    (hne : xs ≠ []) (rest : List Char) (hrest : ∀ c ∈ rest.head?, stop c) :
    separated sep item xs.length ([sep].intercalate (xs.map text) ++ rest) = some (xs, rest) := by
  induction xs with
  | nil => exact absurd rfl hne
  | cons x t ih =>
    cases t with
    | nil =>
      -- the last item
      simp [separated, hitem x List.mem_cons_self rest hrest]
    | cons y t =>
      -- an item, the separator, and the others
      have hx := hitem x List.mem_cons_self (sep :: ([sep].intercalate ((y :: t).map text) ++ rest))
        (by simpa using hsep)
      have ht := ih (fun z hz => hitem z (List.mem_cons_of_mem x hz)) (by simp)
      rw [List.map_cons, List.intercalate_cons_of_ne_nil (by simp), List.length_cons]
      simp only [List.append_assoc, List.cons_append, List.nil_append]
      rw [separated.eq_2, hx]
      simp only [List.map_cons, List.length_cons] at ht
      simp [ht]

/-- The text of an octet, or of any number in decimal. -/
theorem toList_toString (n : ℕ) : (toString n).toList = Nat.toDigits 10 n := by
  rw [Nat.toString_eq_ofList_toDigits, String.toList_ofList]

/-- Four dotted octets read back, before a character that is not a decimal digit. -/
theorem ipv4_dotted {os : List ℕ} (hlen : os.length = 4) (hos : ∀ o ∈ os, o < 256)
    (rest : List Char) (hrest : ∀ c ∈ rest.head?, digitIn 10 c = none) :
    ipv4 ((dotted os).toList ++ rest) = some (os, rest) := by
  have hitem : ∀ o ∈ os, ∀ r : List Char, (∀ c ∈ r.head?, digitIn 10 c = none) →
      number 10 (some 3) false 256 (Nat.toDigits 10 o ++ r) = some (o, r) := by
    intro o ho r hr
    refine number_toDigits false (by norm_num) (by norm_num) (hos o ho) ?_ hr
    intro m hm
    cases hm
    exact (Nat.length_toDigits_le_iff (by norm_num) (by norm_num)).2
      (lt_of_lt_of_le (hos o ho) (by norm_num))
  have hne : os ≠ [] := by
    rintro rfl
    simp at hlen
  have h := separated_intercalate '.' _ (Nat.toDigits 10) (fun c => digitIn 10 c = none)
    (by decide) os hitem hne rest hrest
  rw [hlen] at h
  unfold ipv4
  rw [dotted, String.toList_intercalate, List.map_map,
    show (String.toList ∘ fun n : ℕ => toString n) = Nat.toDigits 10 from funext toList_toString]
  exact h

/-- Text without a dot is no IPv4 address: after the first octet a dot must follow. -/
theorem ipv4_of_no_dot {cs : List Char} (h : '.' ∉ cs) : ipv4 cs = none := by
  unfold ipv4 separated
  cases hnum : number 10 (some 3) false 256 cs with
  | none => rfl
  | some p =>
    obtain ⟨x, r⟩ := p
    have hsuf := number_suffix hnum
    cases r with
    | nil => rfl
    | cons c r =>
      have hc : c ≠ '.' := fun hc => h (hsuf.subset (by simp [hc]))
      simp [hc]

/-- Text that does not begin with a decimal digit is no IPv4 address. -/
theorem ipv4_of_head {cs : List Char} (h : ∀ c ∈ cs.head?, digitIn 10 c = none) :
    ipv4 cs = none := by
  unfold ipv4 separated
  rw [number_of_head h]
  rfl

/-! ## §3. The longest run of zero groups -/

/-- What the scan for zero runs knows after the groups `l`: it has counted them, the longest
run so far is a run of zeros among them, and so is the current run, which ends them. -/
structure ZeroScan (l : List ℕ) (acc : (ℕ × ℕ) × (ℕ × ℕ) × ℕ) : Prop where
  count : acc.2.2 = l.length
  best : ∃ p q, l = p ++ List.replicate acc.1.2 0 ++ q ∧ p.length = acc.1.1
  cur : acc.2.1.2 = 0 ∨ ∃ p, l = p ++ List.replicate acc.2.1.2 0 ∧ p.length = acc.2.1.1

/-- One group of the scan keeps what it knows. -/
theorem ZeroScan.step {l : List ℕ} {acc : (ℕ × ℕ) × (ℕ × ℕ) × ℕ} (h : ZeroScan l acc) (g : ℕ) :
    ZeroScan (l ++ [g]) (zeroRunStep acc g) := by
  obtain ⟨⟨bs, bl⟩, ⟨cs, cl⟩, i⟩ := acc
  obtain ⟨hcount, ⟨p, q, hl, hp⟩, hcur⟩ := h
  dsimp only at hcount hl hp hcur
  -- the current run after the group: one zero longer, or a new run of one zero, or none
  have hnext : ∀ cur : ℕ × ℕ,
      cur = (if g = 0 then (if cl = 0 then (i, 1) else (cs, cl + 1)) else (0, 0)) →
      cur.2 = 0 ∨ ∃ p, l ++ [g] = p ++ List.replicate cur.2 0 ∧ p.length = cur.1 := by
    rintro cur rfl
    split_ifs with hg hc
    · exact .inr ⟨l, by simp [hg], hcount.symm⟩
    · rcases hcur with h0 | ⟨p', hl', hp'⟩
      · exact absurd h0 hc
      · exact .inr ⟨p', by rw [hl', hg, List.append_assoc, ← List.replicate_succ'], hp'⟩
    · exact .inl rfl
  unfold zeroRunStep
  dsimp only
  generalize hc : (if g = 0 then (if cl = 0 then (i, 1) else (cs, cl + 1)) else (0, 0)) = cur
  have hcur' := hnext cur hc.symm
  refine ⟨by simp [hcount], ?_, hcur'⟩
  -- the longest run is the current one if that is now longer
  split_ifs with hgt
  · rcases hcur' with h0 | ⟨p', hl', hp'⟩
    · omega
    · exact ⟨p', [], by rw [hl', List.append_nil], hp'⟩
  · exact ⟨p, q ++ [g], by rw [hl, List.append_assoc, List.append_assoc], hp⟩

/-- The scan keeps what it knows over any groups. -/
theorem ZeroScan.run {l : List ℕ} {acc : (ℕ × ℕ) × (ℕ × ℕ) × ℕ} (h : ZeroScan l acc)
    (m : List ℕ) : ZeroScan (l ++ m) (m.foldl zeroRunStep acc) := by
  induction m generalizing l acc with
  | nil => simpa using h
  | cons g m ih =>
    rw [List.foldl_cons, ← List.singleton_append, ← List.append_assoc]
    exact ih (h.step g)

/-- The run `zeroRun` reports is a run of zeros among the groups: they are the groups before
it, its zeros, and the groups after it. -/
theorem zeroRun_spec (gs : List ℕ) :
    ∃ p q, gs = p ++ List.replicate (zeroRun gs).2 0 ++ q ∧ p.length = (zeroRun gs).1 := by
  have h := (@ZeroScan.run [] ((0, 0), (0, 0), 0) ⟨rfl, ⟨[], [], rfl, rfl⟩, .inl rfl⟩ gs).best
  rwa [List.nil_append] at h

/-! ## §4. Hexadecimal groups -/

/-- The characters of a numeral in a radix up to sixteen are digits of the radix. -/
theorem digitIn_of_mem_toDigits {radix v : ℕ} (h2 : 2 ≤ radix) (h16 : radix ≤ 16) {c : Char}
    (hc : c ∈ Nat.toDigits radix v) : (digitIn radix c).isSome := by
  obtain ⟨ds, hds, -⟩ := toDigits_values h2 h16 v
  generalize Nat.toDigits radix v = cs at hds hc
  induction hds with
  | nil => simp at hc
  | cons hcd _ ih =>
    rcases List.mem_cons.1 hc with rfl | hc
    · simp [hcd]
    · exact ih hc

/-- No numeral has a dot in it. -/
theorem dot_not_mem_toDigits {radix v : ℕ} (h2 : 2 ≤ radix) (h16 : radix ≤ 16) :
    '.' ∉ Nat.toDigits radix v := fun h => by
  have := digitIn_of_mem_toDigits h2 h16 h
  simp [digitIn] at this

/-- A group reads back before any text that does not continue it with a hexadecimal digit. -/
theorem number_hex {g : ℕ} (hg : g < 65536) {r : List Char}
    (hr : ∀ c ∈ r.head?, digitIn 16 c = none) :
    number 16 (some 4) true 65536 (Nat.toDigits 16 g ++ r) = some (g, r) := by
  refine number_toDigits true (by norm_num) le_rfl hg ?_ hr
  intro m hm
  cases hm
  exact (Nat.length_toDigits_le_iff (by norm_num) (by norm_num)).2 (by simpa using hg)

/-- One step of the group reader whose text after the optional colon, `b`, holds no IPv4
tail and no group: no group is read. -/
theorem groups_succ_stop {k : ℕ} {first : Bool} {cs b : List Char}
    (hbody : first = true ∧ cs = b ∨ first = false ∧ cs = ':' :: b)
    (hv4 : (if k ≥ 1 then ipv4 b else none) = none)
    (hnum : number 16 (some 4) true 65536 b = none) :
    groups (k + 1) first cs = ([], cs, false) := by
  rcases hbody with ⟨rfl, rfl⟩ | ⟨rfl, rfl⟩
  · rw [groups.eq_def]
    simp only [if_true, hv4, hnum]
  · rw [groups.eq_def]
    simp only [Bool.false_eq_true, if_false, hv4, hnum]

/-- One step of the group reader whose text after the optional colon, `b`, holds no IPv4
tail but a group: the group, then the groups after it. -/
theorem groups_succ_group {k : ℕ} {first : Bool} {cs b r : List Char} {g : ℕ}
    (hbody : first = true ∧ cs = b ∨ first = false ∧ cs = ':' :: b)
    (hv4 : (if k ≥ 1 then ipv4 b else none) = none)
    (hnum : number 16 (some 4) true 65536 b = some (g, r)) :
    groups (k + 1) first cs =
      (g :: (groups k false r).1, (groups k false r).2.1, (groups k false r).2.2) := by
  rcases hbody with ⟨rfl, rfl⟩ | ⟨rfl, rfl⟩
  · rw [groups.eq_def]
    simp only [if_true, hv4, hnum]
  · rw [groups.eq_def]
    simp only [Bool.false_eq_true, if_false, hv4, hnum]

/-- The group reader after the first group stops at once where no colon follows. -/
theorem groups_succ_no_colon {k : ℕ} {cs : List Char} (hcs : ∀ r, cs ≠ ':' :: r) :
    groups (k + 1) false cs = ([], cs, false) := by
  rw [groups.eq_3 false cs k (fun r h => hcs r h)]
  rfl

/-- One step of the group reader whose text after the optional colon, `b`, begins with an
IPv4 address: its four octets are the last two groups. -/
theorem groups_succ_tail {k : ℕ} {first : Bool} {cs b r : List Char} {o₁ o₂ o₃ o₄ : ℕ}
    (hbody : first = true ∧ cs = b ∨ first = false ∧ cs = ':' :: b) (hk : k ≥ 1)
    (hv4 : ipv4 b = some ([o₁, o₂, o₃, o₄], r)) :
    groups (k + 1) first cs = ([o₁ * 256 + o₂, o₃ * 256 + o₄], r, true) := by
  rcases hbody with ⟨rfl, rfl⟩ | ⟨rfl, rfl⟩
  · rw [groups.eq_def]
    simp only [if_true, if_pos hk, hv4]
  · rw [groups.eq_def]
    simp only [Bool.false_eq_true, if_false, if_pos hk, hv4]

/-- The first step of the group reader reads nothing from a text that begins with no group
and holds no IPv4 address. -/
theorem groups_true_none {limit : ℕ} {cs : List Char} (hv4 : ipv4 cs = none)
    (hnum : number 16 (some 4) true 65536 cs = none) : groups limit true cs = ([], cs, false) := by
  cases limit with
  | zero => rfl
  | succ k => exact groups_succ_stop (.inl ⟨rfl, rfl⟩) (by split_ifs <;> simp [hv4]) hnum

/-- The group reader's try at an IPv4 tail fails on text without a dot. -/
theorem tail_of_no_dot {k : ℕ} {b : List Char} (h : '.' ∉ b) :
    (if k ≥ 1 then ipv4 b else none) = none := by
  split_ifs
  · exact ipv4_of_no_dot h
  · rfl

/-- Text after the last group read: no dot in it, and neither it nor, after a colon, the
character after the colon continues with a hexadecimal digit. -/
structure GroupsEnd (rest : List Char) : Prop where
  no_dot : '.' ∉ rest
  head : ∀ c ∈ rest.head?, digitIn 16 c = none
  after_colon : ∀ r, rest = ':' :: r → ∀ c ∈ r.head?, digitIn 16 c = none

/-- Text after groups, each after a colon, then an ending: it has no dot and does not begin
with a hexadecimal digit. -/
theorem colons_end (t : List ℕ) {rest : List Char} (hend : GroupsEnd rest) :
    '.' ∉ t.flatMap (fun g => ':' :: Nat.toDigits 16 g) ++ rest ∧
      ∀ c ∈ (t.flatMap (fun g => ':' :: Nat.toDigits 16 g) ++ rest).head?,
        digitIn 16 c = none := by
  constructor
  · simp only [List.mem_append, List.mem_flatMap, List.mem_cons, not_or, not_exists, not_and]
    exact ⟨fun x _ => ⟨by decide, dot_not_mem_toDigits (by norm_num) le_rfl⟩, hend.no_dot⟩
  · cases t with
    | nil => simpa using hend.head
    | cons => simp [digitIn]

/-- A group and text without a dot have no dot. -/
theorem dot_not_mem_hex_append (g : ℕ) {more : List Char} (h : '.' ∉ more) :
    '.' ∉ Nat.toDigits 16 g ++ more := fun hmem =>
  (List.mem_append.1 hmem).elim (dot_not_mem_toDigits (by norm_num) le_rfl) h

/-- Groups each after a colon read back up to a text that ends them, when the limit leaves
room for them all. -/
theorem groups_colons (gs : List ℕ) (hgs : ∀ g ∈ gs, g < 65536) {rest : List Char}
    (hend : GroupsEnd rest) :
    ∀ limit, gs.length ≤ limit →
      groups limit false (gs.flatMap (fun g => ':' :: Nat.toDigits 16 g) ++ rest) =
        (gs, rest, false) := by
  induction gs with
  | nil =>
    intro limit _
    cases limit with
    | zero => rfl
    | succ k =>
      -- no group follows: a colon, if any, is followed by no digit
      rw [List.flatMap_nil, List.nil_append]
      by_cases hc : ∃ r, rest = ':' :: r
      · obtain ⟨r, hr⟩ := hc
        have hv4 : (if k ≥ 1 then ipv4 r else none) = none :=
          tail_of_no_dot fun h => hend.no_dot (by rw [hr]; exact List.mem_cons_of_mem _ h)
        exact groups_succ_stop (.inr ⟨rfl, hr⟩) hv4 (number_of_head (hend.after_colon r hr))
      · exact groups_succ_no_colon fun r h => hc ⟨r, h⟩
  | cons g t ih =>
    intro limit hlen
    obtain ⟨k, rfl⟩ : ∃ k, limit = k + 1 := ⟨limit - 1, by simp at hlen; omega⟩
    -- what follows the group has no dot and does not continue it
    obtain ⟨hdot, hhead⟩ := colons_end t hend
    have htext : (g :: t).flatMap (fun g => ':' :: Nat.toDigits 16 g) ++ rest =
        ':' :: (Nat.toDigits 16 g ++ (t.flatMap (fun g => ':' :: Nat.toDigits 16 g) ++ rest)) := by
      simp
    rw [htext, groups_succ_group (.inr ⟨rfl, rfl⟩) (tail_of_no_dot (dot_not_mem_hex_append g hdot))
      (number_hex (hgs g List.mem_cons_self) hhead),
      ih (fun x hx => hgs x (List.mem_cons_of_mem g hx)) k (by simpa using hlen)]

/-- The text of groups: the first one, then each of the others after a colon. -/
theorem toList_hexGroups_cons (g : ℕ) (t : List ℕ) :
    (hexGroups (g :: t)).toList =
      Nat.toDigits 16 g ++ t.flatMap (fun g => ':' :: Nat.toDigits 16 g) := by
  rw [hexGroups, String.toList_intercalate, List.map_map, List.map_cons]
  induction t generalizing g with
  | nil => simp
  | cons g' t ih =>
    rw [List.map_cons, List.intercalate_cons_cons, ih g']
    simp

/-- Groups separated by colons read back up to a text that ends them, when the limit leaves
room for them all. -/
theorem groups_hexGroups {gs : List ℕ} (hgs : ∀ g ∈ gs, g < 65536) (hne : gs ≠ [])
    {rest : List Char} (hend : GroupsEnd rest) {limit : ℕ} (hlim : gs.length ≤ limit) :
    groups limit true ((hexGroups gs).toList ++ rest) = (gs, rest, false) := by
  obtain ⟨g, t, rfl⟩ := List.exists_cons_of_ne_nil hne
  obtain ⟨k, rfl⟩ : ∃ k, limit = k + 1 := ⟨limit - 1, by simp at hlim; omega⟩
  obtain ⟨hdot, hhead⟩ := colons_end t hend
  rw [toList_hexGroups_cons, List.append_assoc, groups_succ_group (.inl ⟨rfl, rfl⟩)
    (tail_of_no_dot (dot_not_mem_hex_append g hdot)) (number_hex (hgs g List.mem_cons_self) hhead),
    groups_colons t (fun x hx => hgs x (List.mem_cons_of_mem g hx)) hend k (by simpa using hlim)]

/-! ## §5. IPv6 hosts -/

/-- What follows an IPv6 host in an address: no dot, and a closing bracket or a scope mark. -/
theorem GroupsEnd.of_bracket {rest : List Char} (hdot : '.' ∉ rest)
    (hc : ∃ c r, rest = c :: r ∧ (c = ']' ∨ c = '%')) : GroupsEnd rest := by
  obtain ⟨c, r, rfl, hc⟩ := hc
  refine ⟨hdot, ?_, ?_⟩
  · rcases hc with rfl | rfl <;> simp [digitIn]
  · rintro r' h
    rcases hc with rfl | rfl <;> simp at h

/-- What follows the groups before `::`: the two colons, then groups and an ending. -/
theorem GroupsEnd.double_colon {more : List Char} (hdot : '.' ∉ more) :
    GroupsEnd (':' :: ':' :: more) := by
  refine ⟨by simp [hdot], by simp [digitIn], ?_⟩
  rintro r h
  cases h
  simp [digitIn]

/-- Groups read from text that is either empty or the text of groups, before an ending. -/
theorem groups_hexGroups_or_nil {gs : List ℕ} (hgs : ∀ g ∈ gs, g < 65536) {rest : List Char}
    (hend : GroupsEnd rest) {limit : ℕ} (hlim : gs.length ≤ limit) :
    groups limit true ((hexGroups gs).toList ++ rest) = (gs, rest, false) := by
  rcases eq_or_ne gs [] with rfl | hne
  · -- no groups: the ending holds no IPv4 address and begins with no group
    exact groups_true_none (ipv4_of_no_dot hend.no_dot) (number_of_head hend.head)
  · exact groups_hexGroups hgs hne hend hlim

/-- Eight groups written in full read back. -/
theorem ipv6_plain {gs : List ℕ} (hlen : gs.length = 8) (hgs : ∀ g ∈ gs, g < 65536)
    {rest : List Char} (hend : GroupsEnd rest) :
    ipv6 ((hexGroups gs).toList ++ rest) = some (gs, rest) := by
  have hne : gs ≠ [] := by
    rintro rfl
    simp at hlen
  unfold ipv6
  rw [groups_hexGroups hgs hne hend hlen.le]
  simp [hlen]

/-- Groups written with `::` for a run of two zeros or more read back. -/
theorem ipv6_compressed {p q : List ℕ} {len : ℕ} (hlen : p.length + len + q.length = 8)
    (hrun : 1 < len) (hp : ∀ g ∈ p, g < 65536) (hq : ∀ g ∈ q, g < 65536) {rest : List Char}
    (hend : GroupsEnd rest) :
    ipv6 ((hexGroups p ++ "::" ++ hexGroups q).toList ++ rest) =
      some (p ++ List.replicate len 0 ++ q, rest) := by
  have hqdot : '.' ∉ (hexGroups q).toList ++ rest := by
    rcases eq_or_ne q [] with rfl | hne
    · simpa [hexGroups] using hend.no_dot
    · obtain ⟨g, t, rfl⟩ := List.exists_cons_of_ne_nil hne
      rw [toList_hexGroups_cons, List.append_assoc]
      exact dot_not_mem_hex_append g (colons_end t hend).1
  have htext : (hexGroups p ++ "::" ++ hexGroups q).toList ++ rest =
      (hexGroups p).toList ++ (':' :: ':' :: ((hexGroups q).toList ++ rest)) := by
    simp
  -- the groups before `::`, then those after it
  unfold ipv6
  rw [htext, groups_hexGroups_or_nil hp (GroupsEnd.double_colon hqdot) (by omega)]
  simp only [show p.length ≠ 8 by omega, if_false, Bool.false_eq_true]
  rw [groups_hexGroups_or_nil hq hend (by omega)]
  dsimp only
  rw [show 8 - p.length - q.length = len by omega]

/-- An IPv4-mapped address written with its dotted tail reads back. -/
theorem ipv6_mapped {a b : ℕ} (ha : a < 65536) (hb : b < 65536) {rest : List Char}
    (hend : GroupsEnd rest) :
    ipv6 (("::ffff:" ++ dotted [a / 256, a % 256, b / 256, b % 256]).toList ++ rest) =
      some ([0, 0, 0, 0, 0, 0xffff, a, b], rest) := by
  have hoct : ipv4 ((dotted [a / 256, a % 256, b / 256, b % 256]).toList ++ rest) =
      some ([a / 256, a % 256, b / 256, b % 256], rest) :=
    ipv4_dotted rfl (by simp; omega) rest
      (fun c hc => digitIn_eq_none_of_le (by norm_num) (hend.head c hc))
  have hffff : Nat.toDigits 16 65535 = ['f', 'f', 'f', 'f'] := by decide
  set tail := (dotted [a / 256, a % 256, b / 256, b % 256]).toList ++ rest
  have htext : ("::ffff:" ++ dotted [a / 256, a % 256, b / 256, b % 256]).toList ++ rest =
      ':' :: ':' :: (Nat.toDigits 16 65535 ++ ':' :: tail) := by
    rw [hffff]
    simp [tail]
  -- no group before `::`; after it the group `ffff`, then the dotted tail as two groups
  have hv4 : (if 6 ≥ 1 then ipv4 (Nat.toDigits 16 65535 ++ ':' :: tail) else none) = none := by
    rw [if_pos (by norm_num)]
    exact ipv4_of_head (by rw [hffff]; simp [digitIn])
  unfold ipv6
  rw [htext, groups_true_none (ipv4_of_head (by simp [digitIn])) (number_of_head (by simp [digitIn]))]
  simp only [List.length_nil, show (0 : ℕ) ≠ 8 by decide, if_false, Bool.false_eq_true,
    show 7 - 0 = 6 + 1 from rfl]
  rw [groups_succ_group (.inl ⟨rfl, rfl⟩) hv4 (number_hex (by norm_num) (by simp [digitIn])),
    groups_succ_tail (k := 5) (.inr ⟨rfl, rfl⟩) (by norm_num) hoct]
  simp only [List.length_cons, List.length_nil, List.nil_append, Option.some.injEq, Prod.mk.injEq,
    and_true]
  rw [Nat.div_add_mod' a 256, Nat.div_add_mod' b 256]
  rfl

/-- The IPv6 text of eight 16-bit groups reads back, up to a text that ends them. -/
theorem ipv6_v6Text {gs : List ℕ} (hlen : gs.length = 8) (hgs : ∀ g ∈ gs, g < 65536)
    {rest : List Char} (hend : GroupsEnd rest) :
    ipv6 ((v6Text gs).toList ++ rest) = some (gs, rest) := by
  unfold v6Text
  split_ifs with hmap
  · -- the IPv4-mapped form: five zeros, `ffff`, and two groups written as octets
    match gs, hlen with
    | [g₀, g₁, g₂, g₃, g₄, g₅, g₆, g₇], _ =>
      simp only [List.take, beq_iff_eq, List.cons.injEq, and_true, List.drop, List.head?_cons,
        Option.some.injEq, Bool.and_eq_true] at hmap
      obtain ⟨⟨rfl, rfl, rfl, rfl, rfl⟩, rfl⟩ := hmap
      exact ipv6_mapped (hgs g₆ (by simp)) (hgs g₇ (by simp)) hend
  · -- the longest zero run, written `::` when it has two zeros or more
    obtain ⟨p, q, hsplit, hp⟩ := zeroRun_spec gs
    rcases hz : zeroRun gs with ⟨start, len⟩
    rw [hz] at hsplit hp
    dsimp only at hsplit hp ⊢
    split_ifs with hrun
    · have htake : gs.take start = p := by
        rw [hsplit, List.append_assoc, List.take_left' hp]
      have hdrop : gs.drop (start + len) = q := by
        rw [hsplit, List.drop_left' (by simp [hp])]
      have hlen' : p.length + len + q.length = 8 := by
        rw [← hlen, hsplit]
        simp only [List.length_append, List.length_replicate]
      have hmem : ∀ g, g ∈ p ∨ g ∈ q → g ∈ gs := fun g hg => by
        rw [hsplit]
        rcases hg with hg | hg <;> simp [hg]
      rw [htake, hdrop, ipv6_compressed hlen' hrun (fun g hg => hgs g (hmem g (.inl hg)))
        (fun g hg => hgs g (hmem g (.inr hg))) hend, ← hsplit]
    · exact ipv6_plain hlen hgs hend

/-! ## §6. Addresses -/

/-- A port after a colon reads back. -/
theorem portAfter_toDigits {port : ℕ} (h : port < 65536) :
    portAfter (':' :: Nat.toDigits 10 port) = some port := by
  have hnum := @number_toDigits 10 65536 port none true [] (by norm_num) (by norm_num) h
    (by simp) (by simp)
  rw [List.append_nil] at hnum
  simp [portAfter, hnum]

/-- Every address whose numbers fit their fields reads back from its text, without its flow
label. -/
theorem parse?_render (a : SocketAddr) (h : a.Fits) : parse? a.render = some a.withoutFlowinfo := by
  obtain ⟨host, port⟩ := a
  obtain ⟨hhost, hport⟩ := h
  dsimp only at hhost hport
  cases hhost with
  | @v4 os hlen hos =>
    -- the octets, then the port after a colon
    have htext : (render ⟨.v4 os, port⟩).toList =
        (dotted os).toList ++ ':' :: Nat.toDigits 10 port := by
      simp [render]
    unfold parse?
    rw [htext]
    dsimp only
    rw [ipv4_dotted hlen hos _ (by simp [digitIn])]
    simp [portAfter_toDigits hport, withoutFlowinfo]
  | @v6 gs flow scope hlen hgs hscope =>
    -- the groups in brackets, the scope after `%` when it is not zero, then the port
    set after : List Char := (if scope = 0 then [] else '%' :: Nat.toDigits 10 scope) ++
      ']' :: ':' :: Nat.toDigits 10 port
    have htext : (render ⟨.v6 gs flow scope, port⟩).toList = '[' :: ((v6Text gs).toList ++ after) := by
      simp only [render, after]
      split_ifs <;> simp
    have hend : GroupsEnd after := by
      refine GroupsEnd.of_bracket ?_ ?_
      · simp only [after]
        split_ifs <;> simp [dot_not_mem_toDigits]
      · simp only [after]
        split_ifs <;> simp
    unfold parse?
    rw [htext]
    dsimp only
    rw [ipv4_of_head (by simp [digitIn])]
    simp only [ipv6_v6Text hlen hgs hend, after]
    split_ifs with h0
    · subst h0
      simp [portAfter_toDigits hport, withoutFlowinfo]
    · have hnum := @number_toDigits 10 (2 ^ 32) scope none true (']' :: ':' :: Nat.toDigits 10 port)
        (by norm_num) (by norm_num) hscope (by simp) (by simp [digitIn])
      simp only [Nat.reducePow] at hnum
      simp [hnum, portAfter_toDigits hport, withoutFlowinfo]

end SocketAddr

end ControlLoop

import ControlLoop.Proofs.AddressText
import ControlLoop.Proofs.CsvRoundTrip
import ControlLoop.Proofs.FloatText
import ControlLoop.Config.Plant
import ControlLoop.Config.Service

/-! # Configurations read back from their saved text

A configuration saved as a CSV table of column names and values loads back, for plants and
for controller services, as long as its numbers fit the widths their fields are read with
and its addresses fit theirs (`config_load_save`). Three things do not come back as they
went: a NaN duration is written `NaN` whatever its sign and payload, and reads back as the
quiet NaN; an IPv6 address is written without its flow label, and reads back with none; and
an output directory that is the empty text is written as an empty field, which reads as no
directory (`load_save_lossy_fields`). A configuration loads back as itself exactly when it
holds none of these.

## Layers

  * fields: each field's reader gives back what its writer wrote (`Field.unsigned_toString`,
    `Field.optional_showOptional`);
  * columns: a table of one header and one row reads back column by column
    (`Column.load_save`), from the table round trip of `Csv.records_lines`;
  * the two configurations, their columns read one after another from the defaults.
-/

namespace ControlLoop

namespace Field

/-! ## §1. Fields -/

/-- A decimal digit's value. -/
theorem digitValue_of_isDigit {c : Char} (hc : c.isDigit = true) :
    digitsIn.digitValue c = some (c.toNat - '0'.toNat) := by
  simp [digitsIn.digitValue, hc]

/-- A decimal digit is worth below ten. -/
theorem digit_lt_ten {c : Char} (hc : c.isDigit = true) : c.toNat - '0'.toNat < 10 := by
  simp only [Char.isDigit, Bool.and_eq_true, decide_eq_true_eq,
    UInt32.le_iff_toNat_le] at hc
  have h0 : ('0' : Char).val.toNat = 48 := rfl
  have h9 : ('9' : Char).val.toNat = 57 := rfl
  simp only [Char.toNat]
  omega

/-- Reading decimal digits one after another gives the number they spell. -/
theorem foldlM_decimal (cs : List Char) (h : ∀ c ∈ cs, c.isDigit = true) (init : ℕ) :
    cs.foldlM (fun n c => (digitsIn.digitValue c).bind fun d =>
        if d < 10 then some (10 * n + d) else none) init =
      some (Nat.ofDigitChars 10 cs init) := by
  induction cs generalizing init with
  | nil => rfl
  | cons c cs ih =>
    have hc := h c List.mem_cons_self
    simp only [List.foldlM_cons, digitValue_of_isDigit hc, Option.bind_some,
      if_pos (digit_lt_ten hc), Option.bind_eq_bind]
    rw [ih (fun c' hc' => h c' (List.mem_cons_of_mem c hc'))]
    rfl

/-- Decimal digits, at least one, read as the number they spell. -/
theorem digitsIn_decimal {cs : List Char} (hne : cs ≠ []) (h : ∀ c ∈ cs, c.isDigit = true) :
    digitsIn 10 cs = some (Nat.ofDigitChars 10 cs 0) := by
  obtain ⟨c, cs', rfl⟩ := List.exists_cons_of_ne_nil hne
  unfold digitsIn
  dsimp only
  split
  · -- a plus sign is not a digit
    rename_i r heq
    obtain ⟨rfl, -⟩ := List.cons.inj heq
    simp at h
  · simp only [List.isEmpty_cons, Bool.false_eq_true, if_false]
    exact foldlM_decimal _ h 0

/-- The decimal text of a number of the width reads back as it. -/
theorem unsigned_toString {bits n : ℕ} (h : n < 2 ^ bits) : unsigned bits (toString n) = some n := by
  have hdig : ∀ c ∈ Nat.toDigits 10 n, c.isDigit = true := Decimal.isDigit_of_mem_toDigits
  unfold unsigned
  rw [SocketAddr.toList_toString]
  split
  · -- a hexadecimal prefix would put an `x` among the digits
    rename_i r heq
    have hx := hdig 'x' (by rw [heq]; simp)
    exact absurd hx (by decide)
  · rw [digitsIn_decimal Nat.toDigits_ne_nil hdig, Nat.ofDigitChars_ten_toDigits,
      Option.bind_some, if_pos h]

/-- A truth reads back from its text. -/
theorem truth_toString (b : Bool) : truth (toString b) = some b := by
  cases b <;> rfl

/-- An optional value reads back from its text as `g` of it when every present value's text
reads back as `g` of it and the empty text does not read. -/
theorem optional_showOptional {α β : Type} {read : String → Option β} {text : α → String}
    {g : α → β} (o : Option α) (hread : ∀ a ∈ o, read (text a) = some (g a))
    (hempty : read "" = none) :
    optional read (showOptional text o) = some (o.map g) := by
  cases o with
  | none => rfl
  | some a =>
    have ha := hread a rfl
    -- the text is not empty, since the empty text does not read
    have hne : (text a).isEmpty = false := by
      rw [Bool.eq_false_iff, ne_eq, String.isEmpty_iff]
      intro h0
      rw [h0, hempty] at ha
      exact absurd ha (by simp)
    simp [optional, showOptional, hne, ha]

/-- A text kept as it is reads back, except the empty text, which reads as absent. -/
theorem optional_showOptional_id (o : Option String) :
    optional some (showOptional id o) = some (o.filter fun s => !s.isEmpty) := by
  cases o with
  | none => rfl
  | some s =>
    -- the empty text reads as absent and is the one text the filter drops
    cases hs : s.isEmpty <;> simp [optional, showOptional, hs, Option.filter]

end Field

namespace Column

/-! ## §2. Columns -/

variable {κ : Type}

/-- With no two columns of one name, each column is the one found by its name. -/
theorem find?_name {cols : List (Column κ)} (hnd : (cols.map (·.name)).Nodup) {col : Column κ}
    (hcol : col ∈ cols) : cols.find? (·.name == col.name) = some col := by
  induction cols with
  | nil => exact absurd hcol List.not_mem_nil
  | cons a rest ih =>
    rw [List.map_cons, List.nodup_cons] at hnd
    rcases List.mem_cons.1 hcol with rfl | hrest
    · exact List.find?_cons_of_pos (by simp)
    · -- the first column has another name
      have hname : a.name ≠ col.name := fun h => hnd.1 (h ▸ List.mem_map_of_mem hrest)
      rw [List.find?_cons_of_neg (by simpa using hname), ih hnd.2 hrest]

/-- A field of a column found by its name and not read before is read into the
configuration by that column. -/
theorem readField_found {cols : List (Column κ)} {col : Column κ} {name : String}
    (hfind : cols.find? (·.name == name) = some col) {seen : List String} (hseen : name ∉ seen)
    (d : κ) (v : String) :
    readField cols (d, seen) (name, v) = (col.read d v).elim (.error .csv) fun d' => .ok (d', name :: seen) := by
  unfold readField
  dsimp only
  rw [hfind]
  have hcontains : seen.contains name = false := by simpa using hseen
  simp only [hcontains, Bool.false_eq_true, if_false]
  cases col.read d v <;> rfl

/-- The fields of a run of columns, each found by its name and none read before, are read
column after column; the first that does not read stops the load. -/
theorem foldlM_readField (cols : List (Column κ)) (c : κ) :
    ∀ (suf : List (Column κ)), (∀ col ∈ suf, cols.find? (·.name == col.name) = some col) →
      (suf.map (·.name)).Nodup → ∀ (d : κ) (seen : List String), (∀ col ∈ suf, col.name ∉ seen) →
      ((suf.map fun col => (col.name, col.write c)).foldlM (readField cols) (d, seen)).map (·.1) =
        (suf.foldlM (fun (d : κ) (col : Column κ) => col.read d (col.write c)) d).elim
          (.error .csv) .ok := by
  intro suf
  induction suf with
  | nil => intro _ _ d seen _; rfl
  | cons col suf ih =>
    intro hfind hnd d seen hseen
    rw [List.map_cons, List.nodup_cons] at hnd
    rw [List.map_cons, List.foldlM_cons, List.foldlM_cons,
      readField_found (hfind col List.mem_cons_self) (hseen col List.mem_cons_self)]
    cases hread : col.read d (col.write c) with
    | none => rfl
    | some d' =>
      -- the rest of the columns, with this one's name now read
      have hseen' : ∀ col' ∈ suf, col'.name ∉ col.name :: seen := by
        intro col' hcol' hmem
        rcases List.mem_cons.1 hmem with h | h
        · exact hnd.1 (h ▸ List.mem_map_of_mem hcol')
        · exact hseen col' (List.mem_cons_of_mem col hcol') h
      exact ih (fun col' hcol' => hfind col' (List.mem_cons_of_mem col hcol')) hnd.2 d'
        (col.name :: seen) hseen'

/-- A saved configuration loads as its columns read, one after another from the defaults,
their own written fields: the first column that does not read fails the load. The names
of the columns are distinct and the header does not begin with a byte order mark. -/
theorem load_save (cols : List (Column κ)) (hne : cols ≠ []) (hnd : (cols.map (·.name)).Nodup)
    (hbom : (Csv.line (cols.map (·.name))).toList.head? ≠ some '\uFEFF') (defaults c : κ) :
    load cols defaults (save cols c) =
      (cols.foldlM (fun (d : κ) (col : Column κ) => col.read d (col.write c)) defaults).elim
        (.error .csv) .ok := by
  have hrows : ∀ row ∈ [cols.map (·.name), cols.map fun col => col.write c], row ≠ [] := by
    simp [hne]
  have hbom' : (Csv.lines [cols.map (·.name), cols.map fun col => col.write c]).toList.head? ≠
      some '\uFEFF' := by
    rwa [Csv.head?_lines_cons]
  unfold load save
  rw [Csv.records_lines _ hrows hbom']
  dsimp only
  rw [if_neg (by simp), List.zip_map']
  exact foldlM_readField cols c cols (fun _ hcol => find?_name hnd hcol) hnd defaults []
    (fun _ _ => List.not_mem_nil)

/-- A saved configuration whose columns read, from the defaults, as `c'` loads as `c'`. -/
theorem load_save_of_foldlM {cols : List (Column κ)} (hne : cols ≠ [])
    (hnd : (cols.map (·.name)).Nodup)
    (hbom : (Csv.line (cols.map (·.name))).toList.head? ≠ some '\uFEFF') {defaults c c' : κ}
    (h : cols.foldlM (fun (d : κ) (col : Column κ) => col.read d (col.write c)) defaults = some c') :
    load cols defaults (save cols c) = .ok c' := by
  rw [load_save cols hne hnd hbom, h]
  rfl

end Column


/-- The empty text is not a number. -/
theorem Decimal.readDouble?_empty : Decimal.readDouble? "" = none := rfl

/-- The empty text is not an address. -/
theorem SocketAddr.parse?_empty : SocketAddr.parse? "" = none := rfl

namespace Field

/-- The empty text is not an unsigned integer. -/
theorem unsigned_empty (bits : ℕ) : unsigned bits "" = none := rfl

/-- An optional double reads back from its text in the data format, a NaN as the quiet
NaN. -/
theorem optional_render (o : Option Double) :
    optional Decimal.readDouble? (showOptional (FloatFormat.data.render ·.toFloat) o) =
      some (o.map Double.quieted) :=
  optional_showOptional o (fun a _ => by
      rw [Decimal.readDouble?_render _ rfl rfl, Double.ofFloat_toFloat])
    Decimal.readDouble?_empty

/-- An optional address reads back from its text when it fits, without its flow label. -/
theorem optional_parse?_render (o : Option SocketAddr) (h : ∀ a ∈ o, a.Fits) :
    optional SocketAddr.parse? (showOptional SocketAddr.render o) =
      some (o.map SocketAddr.withoutFlowinfo) :=
  optional_showOptional o (fun a ha => SocketAddr.parse?_render a (h a ha))
    SocketAddr.parse?_empty

/-- Dropping an empty text keeps an optional text exactly when it is not the empty text. -/
theorem filter_not_isEmpty (o : Option String) :
    o.filter (fun s => !s.isEmpty) = o ↔ o ≠ some "" := by
  cases o with
  | none => simp
  | some s =>
    by_cases hs : s.isEmpty
    · have h0 : s = "" := String.isEmpty_iff.1 hs
      simp [Option.filter, h0]
    · have h0 : s ≠ "" := fun h0 => hs (String.isEmpty_iff.2 h0)
      simp [Option.filter, hs, h0]

/-- An optional value is kept by a map exactly when the map keeps its value. -/
theorem map_eq_self {α : Type} {g : α → α} (o : Option α) : o.map g = o ↔ ∀ a ∈ o, g a = a := by
  cases o <;> simp

end Field

/-! ## §3. The two configurations -/

namespace PlantConfig

/-- A plant configuration that its saved form can hold: the tick rate fits 32 bits, the
thread count 64, and the addresses are well formed. -/
structure Fits (c : PlantConfig) : Prop where
  tickRate : c.tickRate < 2 ^ 32
  blockingThreads : c.blockingThreads < 2 ^ 64
  bindAddr : c.bindAddr.Fits
  controllerAddr : ∀ a ∈ c.controllerAddr, a.Fits

/-- What a plant configuration reads back as from its saved form: a NaN duration as the
quiet NaN, the addresses without their flow labels, and an empty output directory as
none. -/
def reread (c : PlantConfig) : PlantConfig :=
  { c with
    duration := c.duration.map Double.quieted
    bindAddr := c.bindAddr.withoutFlowinfo
    controllerAddr := c.controllerAddr.map SocketAddr.withoutFlowinfo
    outputDir := c.outputDir.filter fun s => !s.isEmpty }

/-- A plant configuration reads back as itself exactly when its duration is no NaN but the
quiet one, its addresses have no flow label, and its output directory is not the empty
text. -/
theorem reread_eq_self (c : PlantConfig) :
    c.reread = c ↔ (∀ d ∈ c.duration, d.isNaN → d = Double.quietNaN) ∧ c.bindAddr.flowinfo = 0 ∧
      (∀ a ∈ c.controllerAddr, a.flowinfo = 0) ∧ c.outputDir ≠ some "" := by
  obtain ⟨rate, duration, bind, controller, dir, threads⟩ := c
  simp only [reread, mk.injEq, true_and, and_true, Field.map_eq_self, Double.quieted_eq_self,
    SocketAddr.withoutFlowinfo_eq_self, Field.filter_not_isEmpty]

/-- The header of the saved form does not begin with a byte order mark. -/
theorem header_head? :
    (Csv.line (columns.map (·.name))).toList.head? ≠ some '\uFEFF' := by
  rw [show columns.map (·.name) = "tick_rate" :: (columns.map (·.name)).tail from rfl,
    Csv.head?_line_cons (by decide +kernel) (by decide +kernel)]
  decide +kernel

/-- A plant configuration that fits loads back from its saved form as `reread` gives it. -/
theorem load_save (c : PlantConfig) (h : c.Fits) : load (save c) = .ok c.reread := by
  have hfold : columns.foldlM (fun (d : PlantConfig) (col : Column PlantConfig) =>
      col.read d (col.write c)) {} = some c.reread := by
    simp only [columns, List.foldlM_cons, List.foldlM_nil, Field.unsigned_toString h.tickRate,
      Field.unsigned_toString h.blockingThreads, Field.optional_render,
      SocketAddr.parse?_render _ h.bindAddr, Field.optional_parse?_render _ h.controllerAddr,
      Field.optional_showOptional_id, Option.map_some, Option.bind_eq_bind, Option.bind_some]
    rfl
  exact Column.load_save_of_foldlM (by simp [columns]) (by decide +kernel) header_head? hfold

end PlantConfig

namespace ServiceConfig

/-- A service configuration that its saved form can hold: the delay, the poll timeout and
the core fit 64 bits, and the address is well formed. -/
structure Fits (c : ServiceConfig) : Prop where
  bindAddr : c.bindAddr.Fits
  replyDelayMs : c.replyDelayMs < 2 ^ 64
  pollTimeoutMs : c.pollTimeoutMs < 2 ^ 64
  pinCore : ∀ n ∈ c.pinCore, n < 2 ^ 64

/-- What a service configuration reads back as from its saved form: the address without its
flow label, and an empty output directory as none. -/
def reread (c : ServiceConfig) : ServiceConfig :=
  { c with
    bindAddr := c.bindAddr.withoutFlowinfo
    outputDir := c.outputDir.filter fun s => !s.isEmpty }

/-- A service configuration reads back as itself exactly when its address has no flow label
and its output directory is not the empty text. -/
theorem reread_eq_self (c : ServiceConfig) :
    c.reread = c ↔ c.bindAddr.flowinfo = 0 ∧ c.outputDir ≠ some "" := by
  obtain ⟨bind, delay, timeout, dir, priority, core⟩ := c
  simp only [reread, mk.injEq, true_and, and_true, SocketAddr.withoutFlowinfo_eq_self,
    Field.filter_not_isEmpty]

/-- The header of the saved form does not begin with a byte order mark. -/
theorem header_head? :
    (Csv.line (columns.map (·.name))).toList.head? ≠ some '\uFEFF' := by
  rw [show columns.map (·.name) = "bind_addr" :: (columns.map (·.name)).tail from rfl,
    Csv.head?_line_cons (by decide +kernel) (by decide +kernel)]
  decide +kernel

/-- A service configuration that fits loads back from its saved form as `reread` gives it. -/
theorem load_save (c : ServiceConfig) (h : c.Fits) : load (save c) = .ok c.reread := by
  have hcore : Field.optional (Field.unsigned 64) (Field.showOptional toString c.pinCore) =
      some c.pinCore := by
    have h := Field.optional_showOptional (g := id) c.pinCore
      (fun n hn => Field.unsigned_toString (h.pinCore n hn)) (Field.unsigned_empty 64)
    rwa [Option.map_id, id] at h
  have hfold : columns.foldlM (fun (d : ServiceConfig) (col : Column ServiceConfig) =>
      col.read d (col.write c)) {} = some c.reread := by
    simp only [columns, List.foldlM_cons, List.foldlM_nil, SocketAddr.parse?_render _ h.bindAddr,
      Field.unsigned_toString h.replyDelayMs, Field.unsigned_toString h.pollTimeoutMs,
      Field.optional_showOptional_id, Field.truth_toString, hcore, Option.map_some,
      Option.bind_eq_bind, Option.bind_some]
    rfl
  exact Column.load_save_of_foldlM (by simp [columns]) (by decide +kernel) header_head? hfold

end ServiceConfig

/-- A saved configuration that fits its saved form loads back, for plants and for services,
with a NaN duration made the quiet NaN, the flow labels of its addresses cleared and an
empty output directory dropped; so it loads back as itself exactly when it holds none of
these. -/
theorem config_load_save :
    (∀ c : PlantConfig, c.Fits → PlantConfig.load c.save = .ok c.reread ∧
      (PlantConfig.load c.save = .ok c ↔
        (∀ d ∈ c.duration, d.isNaN → d = Double.quietNaN) ∧ c.bindAddr.flowinfo = 0 ∧
          (∀ a ∈ c.controllerAddr, a.flowinfo = 0) ∧ c.outputDir ≠ some "")) ∧
    (∀ c : ServiceConfig, c.Fits → ServiceConfig.load c.save = .ok c.reread ∧
      (ServiceConfig.load c.save = .ok c ↔ c.bindAddr.flowinfo = 0 ∧ c.outputDir ≠ some "")) := by
  constructor
  · intro c h
    have hload := PlantConfig.load_save c h
    refine ⟨hload, ?_⟩
    rw [hload, Except.ok.injEq, PlantConfig.reread_eq_self]
  · intro c h
    have hload := ServiceConfig.load_save c h
    refine ⟨hload, ?_⟩
    rw [hload, Except.ok.injEq, ServiceConfig.reread_eq_self]

/-- A plant with a duration and an IPv6 controller, and a service pinned to a core at raised
priority, load back as themselves. -/
theorem config_load_save_ipv6_controller :
    let plant : PlantConfig :=
      { duration := some (.ofFloat 0.5),
        controllerAddr := some ⟨.v6 [0, 0, 0, 0, 0, 0, 0, 1] 0 0, 9000⟩, outputDir := some "runs" }
    let service : ServiceConfig := { realtimePriority := true, pinCore := some 3 }
    PlantConfig.load plant.save = .ok plant ∧ ServiceConfig.load service.save = .ok service := by
  intro plant service
  have hplant : plant.Fits := by
    refine ⟨by decide, by decide, ⟨.v4 rfl (by decide), by decide⟩, ?_⟩
    rintro a ⟨⟩
    exact ⟨.v6 rfl (by decide) (by decide), by decide⟩
  have hservice : service.Fits :=
    ⟨⟨.v4 rfl (by decide), by decide⟩, by decide, by decide, by rintro n ⟨⟩; decide⟩
  refine ⟨(config_load_save.1 plant hplant).2.2 ⟨?_, rfl, ?_, by decide⟩,
    (config_load_save.2 service hservice).2.2 ⟨rfl, by decide⟩⟩
  · rintro d ⟨⟩ hnan
    exact absurd hnan (by decide +kernel)
  · rintro a ⟨⟩
    rfl

/-- A plant whose output directory is the empty text loads back with no output directory; a
plant whose duration is the negated NaN loads back with the quiet NaN; and a service bound to
an IPv6 address with a flow label loads back bound to the address without it. -/
theorem load_save_lossy_fields :
    PlantConfig.load (PlantConfig.save { outputDir := some "" }) = .ok {} ∧
    PlantConfig.load (PlantConfig.save { duration := some Double.quietNaN.neg }) =
      .ok { duration := some Double.quietNaN } ∧
    ServiceConfig.load (ServiceConfig.save { bindAddr := ⟨.v6 [0, 0, 0, 0, 0, 0, 0, 1] 5 0, 9000⟩ }) =
      .ok { bindAddr := ⟨.v6 [0, 0, 0, 0, 0, 0, 0, 1] 0 0, 9000⟩ } := by
  have hbind : (SocketAddr.anyV4 0).Fits := ⟨.v4 rfl (by decide), by decide⟩
  refine ⟨?_, ?_, ?_⟩
  · rw [PlantConfig.load_save _ ⟨by decide, by decide, hbind, by simp⟩]
    rfl
  · -- the text `NaN` carries no sign
    have hquiet : Double.quietNaN.neg.quieted = Double.quietNaN := by decide +kernel
    rw [PlantConfig.load_save _ ⟨by decide, by decide, hbind, by simp⟩]
    simp only [PlantConfig.reread, Option.map_some, hquiet]
    rfl
  · rw [ServiceConfig.load_save _ ⟨⟨.v6 rfl (by decide) (by decide), by decide⟩, by decide, by decide,
      by simp⟩]
    rfl

end ControlLoop

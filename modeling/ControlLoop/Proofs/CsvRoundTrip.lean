import Mathlib.Data.List.Basic
import ControlLoop.Text.Csv
import ControlLoop.Text.CsvRead

/-! # CSV text read back

The reader gives back every table the writer writes (`Csv.records_lines`), as long as no
row is empty and the text does not begin with a byte order mark: a field is read back whether
it was written plain or in quotes, and a line of one empty field, written as two quotes,
still reads as that one field.

## Layers

  * characters: a plain character extends the field, a written quoted character (a quote
    doubled) extends a quoted field (`Reader.foldl_plain`, `Reader.foldl_escaped`);
  * fields: the text of a field and the separator after it end the field
    (`Reader.read_field_comma`, `Reader.read_field_newline`);
  * lines and tables, by induction on the fields of a row and on the rows.
-/

namespace ControlLoop

namespace Csv

/-- Plain text: the field as it is. -/
theorem field_of_not_needsQuotes {s : String} (h : needsQuotes s = false) : field s = s := by
  rw [field, if_neg (by simp [h])]

/-- A field written empty is the empty field. -/
theorem field_eq_empty_iff (s : String) : field s = "" ↔ s = "" := by
  unfold field
  split_ifs
  · constructor
    · intro h
      have := congrArg String.toList h
      simp at this
    · rintro rfl
      simp_all [needsQuotes]
  · exact Iff.rfl

namespace Reader

/-- The reader between two fields of a record: `fields` holds those read, last first, and
`begun` tells whether the record has begun. -/
def between (recs : List (List String)) (fields : List String) (begun : Bool) : Reader :=
  { records := recs, fields := fields, inRecord := begun }

/-- Plain characters extend the field and begin it and its record. -/
theorem foldl_plain (cs : List Char) (h : ∀ c ∈ cs, special c = false)
    (recs : List (List String)) (fs : List String) (fl : List Char) (b i : Bool) :
    cs.foldl step ⟨recs, fs, String.ofList fl, b, i, false, false⟩ =
      ⟨recs, fs, String.ofList (fl ++ cs), b || !cs.isEmpty, i || !cs.isEmpty, false, false⟩ := by
  induction cs generalizing fl b i with
  | nil => simp
  | cons c cs ih =>
    have hc := h c List.mem_cons_self
    simp only [special, Bool.or_eq_false_iff, beq_eq_false_iff_ne] at hc
    -- one character outside quotes, neither a separator nor a quote
    have hstep : step ⟨recs, fs, String.ofList fl, b, i, false, false⟩ c =
        ⟨recs, fs, String.ofList (fl ++ [c]), true, true, false, false⟩ := by
      simp [step, plain, hc.1.1.1, hc.1.1.2, hc.1.2, hc.2]
    rw [List.foldl_cons, hstep, ih (fun c' hc' => h c' (List.mem_cons_of_mem c hc'))]
    simp

/-- Inside quotes, the written form of characters (each quote doubled) extends the field
by those characters. -/
theorem foldl_escaped (cs : List Char) (recs : List (List String)) (fs : List String)
    (fl : List Char) (b i : Bool) :
    (cs.flatMap escape).foldl step ⟨recs, fs, String.ofList fl, b, i, true, false⟩ =
      ⟨recs, fs, String.ofList (fl ++ cs), b, i, true, false⟩ := by
  induction cs generalizing fl with
  | nil => simp
  | cons c cs ih =>
    have hstep : (escape c).foldl step ⟨recs, fs, String.ofList fl, b, i, true, false⟩ =
        ⟨recs, fs, String.ofList (fl ++ [c]), b, i, true, false⟩ := by
      unfold escape
      split_ifs with hq
      · -- a doubled quote: the first is seen, the second stands for one
        simp only [beq_iff_eq] at hq
        subst hq
        simp [step, ← String.toList_inj]
      · simp only [beq_iff_eq] at hq
        simp [step, hq]
    rw [List.flatMap_cons, List.foldl_append, hstep, ih]
    simp

/-- The text of a field and a separator other than a quote: the reader ends up as if it had
read the field's characters plainly and then met the separator. -/
theorem read_field (s : String) {sep : Char} (hsep : sep ≠ '"') (recs : List (List String))
    (fs : List String) (b : Bool) :
    ∃ i, ((Csv.field s).toList ++ [sep]).foldl step (between recs fs b) =
      plain ⟨recs, fs, s, b || !(Csv.field s).toList.isEmpty, i, false, false⟩ sep := by
  unfold Csv.field
  split_ifs with hq
  · -- quoted: the opening quote begins the field, the closing one ends the quotes
    have hopen : step (between recs fs b) '"' = ⟨recs, fs, String.ofList [], true, true, true, false⟩ := by
      simp [between, step, plain]
    have htext : (String.ofList ('"' :: s.toList.flatMap escape ++ ['"'])).toList ++ [sep] =
        '"' :: (s.toList.flatMap escape ++ ['"', sep]) := by
      simp
    refine ⟨true, ?_⟩
    rw [htext, List.foldl_cons, hopen, List.foldl_append, foldl_escaped, List.nil_append,
      String.ofList_toList]
    simp [step, hsep]
  · -- plain: no character of the field is special
    have hplain : ∀ c ∈ s.toList, special c = false := by
      simpa [needsQuotes] using hq
    refine ⟨!s.toList.isEmpty, ?_⟩
    have hstart : between recs fs b = ⟨recs, fs, String.ofList [], b, false, false, false⟩ := rfl
    rw [List.foldl_append, hstart, foldl_plain _ hplain, List.nil_append, String.ofList_toList]
    simp [step]

/-- The text of a field and a comma: the field joins the record, which has begun. -/
theorem read_field_comma (s : String) (recs : List (List String)) (fs : List String) (b : Bool) :
    ((Csv.field s).toList ++ [',']).foldl step (between recs fs b) = between recs (s :: fs) true := by
  obtain ⟨i, h⟩ := read_field s (show ',' ≠ '"' by decide) recs fs b
  rw [h]
  simp [plain, endField, between]

/-- The text of a field and a line feed ends the record, once it has begun or the field is
not empty. -/
theorem read_field_newline (s : String) (recs : List (List String)) (fs : List String) (b : Bool)
    (h : b = true ∨ s ≠ "") :
    ((Csv.field s).toList ++ ['\n']).foldl step (between recs fs b) =
      between ((s :: fs).reverse :: recs) [] false := by
  obtain ⟨i, hread⟩ := read_field s (show '\n' ≠ '"' by decide) recs fs b
  have hbegun : (b || !(Csv.field s).toList.isEmpty) = true := by
    rcases h with hb | hs
    · simp [hb]
    · have hne : (Csv.field s).toList ≠ [] := fun h0 =>
        hs ((field_eq_empty_iff s).1 (String.toList_inj.1 (h0.trans String.toList_empty.symm)))
      simp [hne]
  rw [hread]
  simp [plain, endRecord, endField, between, hbegun]

/-- The written fields of a row, then a line feed: the record ends with those fields after
the ones read before. -/
theorem read_fields (row : List String) (hrow : row ≠ []) (recs : List (List String)) :
    ∀ (fs : List String) (b : Bool), (b = true ∨ row ≠ [""]) →
      ((",".intercalate (row.map Csv.field)).toList ++ ['\n']).foldl step (between recs fs b) =
        between ((fs.reverse ++ row) :: recs) [] false := by
  induction row with
  | nil => exact absurd rfl hrow
  | cons s t ih =>
    intro fs b h
    cases t with
    | nil =>
      -- the last field: the line feed ends the record
      rw [List.map_singleton, String.intercalate_singleton,
        read_field_newline s recs fs b (h.imp_right fun h' hs => h' (by rw [hs])),
        List.reverse_cons]
    | cons s' t' =>
      -- a field, its comma, and the rest of the row in a begun record
      have htext : (",".intercalate ((s :: s' :: t').map Csv.field)).toList ++ ['\n'] =
          ((Csv.field s).toList ++ [',']) ++
            ((",".intercalate ((s' :: t').map Csv.field)).toList ++ ['\n']) := by
        rw [List.map_cons, String.intercalate_cons_of_ne_nil (by simp)]
        simp
      rw [htext, List.foldl_append, read_field_comma, ih (by simp) (s :: fs) true (.inl rfl)]
      simp

/-- A line reads back as its row, from the start of a record. -/
theorem read_line (row : List String) (hrow : row ≠ []) (recs : List (List String)) :
    (line row).toList.foldl step (between recs [] false) = between (row :: recs) [] false := by
  unfold line
  dsimp only
  split_ifs with hbody
  · -- only a row of one empty field has an empty body: it is written as two quotes
    have hrow' : row = [""] := by
      match row, hrow with
      | [s], _ =>
        rw [List.map_singleton, String.intercalate_singleton, String.isEmpty_iff,
          field_eq_empty_iff] at hbody
        rw [hbody]
      | s :: s' :: t, _ =>
        rw [List.map_cons, String.intercalate_cons_of_ne_nil (by simp), String.isEmpty_iff,
          ← String.toList_inj] at hbody
        simp at hbody
    subst hrow'
    simp [between, step, plain, endRecord, endField]
  · have hne : row ≠ [""] := by
      rintro rfl
      simp [field_of_not_needsQuotes (show needsQuotes "" = false from rfl)] at hbody
    rw [String.toList_append]
    simpa using read_fields row hrow recs [] false (.inr hne)

/-- Lines read back as their rows, from the start of a record. -/
theorem read_lines (rows : List (List String)) (h : ∀ row ∈ rows, row ≠ [])
    (recs : List (List String)) :
    (lines rows).toList.foldl step (between recs [] false) =
      between (rows.reverse ++ recs) [] false := by
  induction rows generalizing recs with
  | nil => simp [lines]
  | cons row rows ih =>
    rw [lines, List.map_cons, String.join_cons, String.toList_append, List.foldl_append,
      read_line row (h row List.mem_cons_self), ← lines,
      ih (fun r hr => h r (List.mem_cons_of_mem row hr))]
    simp

end Reader

/-- A line whose first field is plain and not empty begins as that field does. -/
theorem head?_line_cons {s : String} (hq : needsQuotes s = false) (hs : s ≠ "")
    (rest : List String) : (line (s :: rest)).toList.head? = s.toList.head? := by
  have hne : s.toList ≠ [] := by simpa using hs
  -- the body of the line is the field, then the rest after a comma if there is any
  have hbody : ∃ t, (",".intercalate ((s :: rest).map field)).toList = s.toList ++ t := by
    cases rest with
    | nil => exact ⟨[], by simp [field_of_not_needsQuotes hq]⟩
    | cons s' rest =>
      refine ⟨(",".intercalate ((s' :: rest).map field)).toList.cons ',', ?_⟩
      rw [List.map_cons, String.intercalate_cons_of_ne_nil (by simp), field_of_not_needsQuotes hq]
      simp
  obtain ⟨t, ht⟩ := hbody
  have hnonempty : (",".intercalate ((s :: rest).map field)).isEmpty = false := by
    rw [Bool.eq_false_iff, ne_eq, String.isEmpty_iff, ← String.toList_inj, ht]
    simp [hne]
  unfold line
  dsimp only
  rw [hnonempty, if_neg Bool.false_ne_true, String.toList_append, ht, List.append_assoc,
    List.head?_append_of_ne_nil _ hne]

/-- Lines begin as their first line does. -/
theorem head?_lines_cons (row : List String) (rows : List (List String)) :
    (lines (row :: rows)).toList.head? = (line row).toList.head? := by
  have hne : (line row).toList ≠ [] := by simp [line]
  rw [lines, List.map_cons, String.join_cons, String.toList_append, List.head?_append_of_ne_nil _ hne]

/-- The reader gives back the rows the writer wrote, when none is empty and the text does not
begin with a byte order mark. -/
theorem records_lines (rows : List (List String)) (h : ∀ row ∈ rows, row ≠ [])
    (hbom : (lines rows).toList.head? ≠ some '\uFEFF') : records (lines rows) = rows := by
  unfold records
  have hread := Reader.read_lines rows h []
  split
  · rename_i r hr
    rw [hr] at hbom
    exact absurd rfl hbom
  · dsimp only
    rw [show ({} : Reader) = Reader.between [] [] false from rfl, hread]
    simp [Reader.between, Reader.endRecord]

end Csv

end ControlLoop

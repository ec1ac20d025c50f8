namespace ControlLoop

/-! # Maps keyed by name

A `NameMap` holds one entry per name, in increasing order of the names. Strings compare by
code point, which is the order of their UTF-8 bytes, so walking a map visits names in byte
order. Inserting a name that is present replaces its value in place. The order is part of
the map: every operation keeps it, so no map can hold a name twice.
-/

/-- Entries whose names strictly increase. -/
def Ordered {α : Type} (entries : List (String × α)) : Prop :=
  entries.Pairwise fun a b => a.1 < b.1

/-- Entries in increasing order of their names, one per name. -/
structure NameMap (α : Type) where
  entries : List (String × α)
  ordered : Ordered entries

namespace NameMap

variable {α β : Type}

/-- Puts `(k, v)` into an ordered list: before the first larger name, or in place of an
equal one. -/
def insertEntry (k : String) (v : α) : List (String × α) → List (String × α)
  | [] => [(k, v)]
  | (k', v') :: rest =>
    if k < k' then (k, v) :: (k', v') :: rest
    else if k = k' then (k, v) :: rest
    else (k', v') :: insertEntry k v rest

/-- Every entry after an insertion is the new one or an old one. -/
theorem mem_insertEntry {k : String} {v : α} {e : String × α} :
    ∀ {l : List (String × α)}, e ∈ insertEntry k v l → e = (k, v) ∨ e ∈ l
  | [] => by simp [insertEntry]
  | (k', v') :: rest => by
    unfold insertEntry
    split
    · simp only [List.mem_cons]
      exact id
    · split
      · simp only [List.mem_cons]
        rintro (h | h)
        · exact .inl h
        · exact .inr (.inr h)
      · intro h
        rcases List.mem_cons.1 h with h | h
        · exact .inr (h ▸ List.mem_cons_self)
        · rcases mem_insertEntry h with h | h
          · exact .inl h
          · exact .inr (List.mem_cons_of_mem _ h)

/-- Inserting keeps the names in increasing order. -/
theorem insertEntry_ordered (k : String) (v : α) :
    ∀ {l : List (String × α)}, Ordered l → Ordered (insertEntry k v l)
  | [], _ => List.pairwise_singleton _ _
  | (k', v') :: rest, h => by
    unfold Ordered at h ⊢
    rw [List.pairwise_cons] at h
    unfold insertEntry
    split
    · rename_i hlt
      refine List.pairwise_cons.2 ⟨fun e he => ?_, List.pairwise_cons.2 h⟩
      rcases List.mem_cons.1 he with rfl | he
      · exact hlt
      · exact String.lt_trans hlt (h.1 e he)
    · split
      · rename_i _ heq
        subst heq
        exact List.pairwise_cons.2 ⟨h.1, h.2⟩
      · rename_i hnlt hne
        have hgt : k' < k :=
          String.not_le.1 fun hle => hne (String.le_antisymm hle (String.not_lt.1 hnlt))
        refine List.pairwise_cons.2 ⟨fun e he => ?_, insertEntry_ordered k v h.2⟩
        rcases mem_insertEntry he with rfl | he
        · exact hgt
        · exact h.1 e he

/-- The map without entries. -/
def empty : NameMap α := ⟨[], List.Pairwise.nil⟩

instance : EmptyCollection (NameMap α) := ⟨empty⟩

instance : Inhabited (NameMap α) := ⟨empty⟩

/-- Two maps are equal when their entries are. -/
instance [BEq α] : BEq (NameMap α) := ⟨fun a b => a.entries == b.entries⟩

instance [Repr α] : Repr (NameMap α) := ⟨fun m n => reprPrec m.entries n⟩

/-- Maps with the same entries are the same map. -/
@[ext] theorem ext {a b : NameMap α} (h : a.entries = b.entries) : a = b := by
  cases a
  cases b
  cases h
  rfl

/-- The map with `k` bound to `v`. -/
def insert (m : NameMap α) (k : String) (v : α) : NameMap α :=
  ⟨insertEntry k v m.entries, insertEntry_ordered k v m.ordered⟩

/-- The value bound to `k`. -/
def get? (m : NameMap α) (k : String) : Option α := m.entries.lookup k

/-- Whether `k` is bound. -/
def contains (m : NameMap α) (k : String) : Bool := (m.get? k).isSome

/-- The map without `k`. -/
def erase (m : NameMap α) (k : String) : NameMap α :=
  ⟨m.entries.filter (·.1 != k), m.ordered.filter _⟩

/-- The names, in increasing order. -/
def keys (m : NameMap α) : List String := m.entries.map (·.1)

/-- The values, in the order of their names. -/
def values (m : NameMap α) : List α := m.entries.map (·.2)

/-- The number of entries. -/
def size (m : NameMap α) : Nat := m.entries.length

/-- Whether the map has no entries. -/
def isEmpty (m : NameMap α) : Bool := m.entries.isEmpty

/-- The map of a list of pairs; of two pairs with one name the later wins. -/
def ofList (l : List (String × α)) : NameMap α := l.foldl (fun m p => m.insert p.1 p.2) empty

/-- A name above every name of an ordered list goes at its end. -/
theorem insertEntry_of_lt {k : String} {v : α} :
    ∀ {l : List (String × α)}, (∀ e ∈ l, e.1 < k) → insertEntry k v l = l ++ [(k, v)]
  | [], _ => rfl
  | (k', v') :: rest, h => by
    have hk' : k' < k := h (k', v') List.mem_cons_self
    have hne : k ≠ k' := fun heq => String.lt_irrefl k (heq ▸ hk')
    simp only [insertEntry, if_neg (String.lt_asymm hk'), if_neg hne, List.cons_append]
    rw [insertEntry_of_lt fun e he => h e (List.mem_cons_of_mem _ he)]

/-- Inserting the entries of an ordered list one by one into a map whose names are all
below them appends them. -/
theorem entries_foldl_insert :
    ∀ (post pre : List (String × α)) (m : NameMap α), m.entries = pre →
      Ordered (pre ++ post) → (post.foldl (fun m p => m.insert p.1 p.2) m).entries = pre ++ post
  | [], pre, m, hm, _ => by simp [hm]
  | (k, v) :: post, pre, m, hm, h => by
    -- every name already in the map is below `k`, so `k` goes at the end
    have hlt : ∀ e ∈ pre, e.1 < k := fun e he =>
      (List.pairwise_append.1 h).2.2 e he (k, v) List.mem_cons_self
    have hins : (m.insert k v).entries = pre ++ [(k, v)] := by
      simp only [insert, hm]
      exact insertEntry_of_lt hlt
    rw [List.foldl_cons, entries_foldl_insert post _ _ hins (by simpa using h)]
    simp

/-- Rebuilding a map from its entries gives the map back. -/
@[simp] theorem ofList_entries (m : NameMap α) : ofList m.entries = m :=
  ext (entries_foldl_insert m.entries [] empty rfl m.ordered)

/-- Looking a name up in a list that starts with an entry. -/
theorem lookup_cons_eq (a k : String) (b : α) (l : List (String × α)) :
    ((k, b) :: l).lookup a = if a = k then some b else l.lookup a := by
  simp only [List.lookup_cons]
  split <;> simp_all

/-- After an insertion a name finds the new value if it is the name inserted, else what it
found before. -/
theorem lookup_insertEntry (k k' : String) (v : α) :
    ∀ l : List (String × α), (insertEntry k v l).lookup k' = if k' = k then some v else l.lookup k'
  | [] => by simp [insertEntry, lookup_cons_eq]
  | (k₁, v₁) :: rest => by
    unfold insertEntry
    split
    · simp [lookup_cons_eq]
    · split
      · rename_i heq
        subst heq
        by_cases h : k' = k <;> simp [lookup_cons_eq, h]
      · rename_i hnlt hne
        have ih := lookup_insertEntry k k' v rest
        by_cases h : k' = k₁
        · subst h
          simp [Ne.symm hne]
        · simp [lookup_cons_eq, h, ih]

/-- The value bound to a name after an insertion. -/
theorem get?_insert (m : NameMap α) (k k' : String) (v : α) :
    (m.insert k v).get? k' = if k' = k then some v else m.get? k' :=
  lookup_insertEntry k k' v m.entries

/-- In an ordered list a name finds exactly the value it is listed with. -/
theorem lookup_eq_some_iff_mem {k : String} {v : α} :
    ∀ {l : List (String × α)}, Ordered l → (l.lookup k = some v ↔ (k, v) ∈ l)
  | [], _ => by simp
  | (k₁, v₁) :: rest, h => by
    unfold Ordered at h
    rw [List.pairwise_cons] at h
    by_cases hk : k = k₁
    · subst hk
      -- the first entry holds `k`, and no later one does
      have hnot : (k, v) ∉ rest := fun hm => String.lt_irrefl k (h.1 (k, v) hm)
      simp [hnot, eq_comm]
    · simp [lookup_cons_eq, hk, lookup_eq_some_iff_mem h.2]

/-- A name is bound to a value exactly when the map lists the pair. -/
theorem get?_eq_some_iff (m : NameMap α) {k : String} {v : α} :
    m.get? k = some v ↔ (k, v) ∈ m.entries :=
  lookup_eq_some_iff_mem m.ordered

/-- A name is a key exactly when it has a value. -/
theorem mem_keys (m : NameMap α) {k : String} : k ∈ m.keys ↔ ∃ v, m.get? k = some v := by
  simp [keys, get?_eq_some_iff]

/-- The names of a map strictly increase. -/
theorem keys_sorted (m : NameMap α) : m.keys.Pairwise (· < ·) :=
  List.pairwise_map.2 m.ordered

/-- The empty map has no entries. -/
@[simp] theorem entries_emptyCollection : (∅ : NameMap α).entries = [] := rfl

@[simp] theorem get?_emptyCollection (k : String) : (∅ : NameMap α).get? k = none := rfl

/-- The value of `k`, changed by `f`, or `f none` when absent. -/
def alter (m : NameMap α) (k : String) (f : Option α → α) : NameMap α := m.insert k (f (m.get? k))

/-- Applies `f` to every value. -/
def map (f : α → β) (m : NameMap α) : NameMap β :=
  ⟨m.entries.map fun p => (p.1, f p.2), List.pairwise_map.2 (m.ordered.imp id)⟩

/-- Keeps the entries whose name and value pass `p`. -/
def filter (p : String → α → Bool) (m : NameMap α) : NameMap α :=
  ⟨m.entries.filter fun e => p e.1 e.2, m.ordered.filter _⟩

/-- Keeps the values that `f` maps to `some`, changed. -/
def filterMap (f : String → α → Option β) (m : NameMap α) : NameMap β :=
  ⟨m.entries.filterMap fun e => (f e.1 e.2).map fun b => (e.1, b),
   m.ordered.filterMap _ fun a b hab a' ha' b' hb' => by
     simp only [Option.map_eq_some_iff] at ha' hb'
     obtain ⟨_, _, rfl⟩ := ha'
     obtain ⟨_, _, rfl⟩ := hb'
     exact hab⟩

end NameMap

end ControlLoop

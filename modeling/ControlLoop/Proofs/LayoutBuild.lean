import ControlLoop.Proofs.StepContract

/-! # Building a layout decides exactly

A layout is built from declarations in three passes over them (`Layout.build_eq`): the roles
(`Layout.rolesPass`), then the checks, then the unrecorded marks, the last two each a filing
pass (`Layout.filePass`) that stops at the first name without a role. The outcome is the first
of four that applies (`Layout.Verdict`):

  * some declaration gives a name another role than the declarations before it, which agree
    among themselves: that name conflicts;
  * otherwise, the first checked name, in check order, that no declaration gives a role to is
    unknown;
  * otherwise, the first unrecorded name that no declaration gives a role to is unknown;
  * otherwise the layout gives each declared name its role, lists the names of each role in
    byte order (together, each declared name once), records the declared names that are not
    parameters and not marked unrecorded, and keeps for each checked name the check given last
    (`Layout.Shows`).

`Layout.build_decides` proves that `build` gives this verdict for every list of declarations.
-/

namespace ControlLoop

namespace Decl

/-- The role a declaration gives `n`, if it declares `n`. -/
def roleOf (n : String) : Decl → Option Role
  | .role m r => if m = n then some r else none
  | _ => none

/-- The entry a check files: its name and the check. -/
def checkEntry : Decl → Option (String × Check)
  | .checked n c => some (n, c)
  | _ => none

/-- The entry an unrecorded mark files: its name. -/
def unrecordedEntry : Decl → Option (String × Unit)
  | .unrecorded n => some (n, ())
  | _ => none

theorem roleOf_eq_some {n : String} {d : Decl} {r : Role} : d.roleOf n = some r ↔ d = .role n r := by
  cases d with
  | role m r' =>
    by_cases h : m = n
    · subst h
      simp [roleOf]
    · simp [roleOf, h]
  | checked m c => simp [roleOf]
  | unrecorded m => simp [roleOf]

end Decl

namespace Layout

/-! ## §1. The declarations read declaratively -/

/-- The role of the first declaration of `n`. -/
def firstRole (n : String) (ds : List Decl) : Option Role := ds.findSome? (Decl.roleOf n)

/-- Some declaration gives `n` a role. -/
def Declared (ds : List Decl) (n : String) : Prop := ∃ r, Decl.role n r ∈ ds

/-- The declarations of each name give it one role. -/
def RolesAgree (ds : List Decl) : Prop :=
  ∀ n r r', Decl.role n r ∈ ds → Decl.role n r' ∈ ds → r = r'

/-- The checked names, in check order. -/
def checkedNames (ds : List Decl) : List String := (ds.filterMap Decl.checkEntry).map (·.1)

/-- The names marked unrecorded, in order. -/
def unrecordedNames (ds : List Decl) : List String := (ds.filterMap Decl.unrecordedEntry).map (·.1)

theorem mem_of_firstRole {n : String} {ds : List Decl} {r : Role} (h : firstRole n ds = some r) :
    Decl.role n r ∈ ds := by
  obtain ⟨d, hd, hr⟩ := List.exists_of_findSome?_eq_some h
  rwa [Decl.roleOf_eq_some.1 hr] at hd

/-- When the declarations agree, the first role of a name is the role of each of its
declarations. -/
theorem firstRole_eq_some_iff {ds : List Decl} (h : RolesAgree ds) {n : String} {r : Role} :
    firstRole n ds = some r ↔ Decl.role n r ∈ ds := by
  refine ⟨mem_of_firstRole, fun hmem => ?_⟩
  cases hf : firstRole n ds with
  | none =>
    rw [firstRole, List.findSome?_eq_none_iff] at hf
    simpa [Decl.roleOf] using hf _ hmem
  | some r' => rw [h n r' r (mem_of_firstRole hf) hmem]

theorem firstRole_isSome_iff {ds : List Decl} {n : String} :
    (firstRole n ds).isSome ↔ Declared ds n := by
  constructor
  · intro h
    obtain ⟨r, hr⟩ := Option.isSome_iff_exists.1 h
    exact ⟨r, mem_of_firstRole hr⟩
  · rintro ⟨r, hr⟩
    rw [firstRole, List.findSome?_isSome_iff]
    exact ⟨_, hr, by simp [Decl.roleOf]⟩

instance (ds : List Decl) : DecidablePred (Declared ds) :=
  fun _ => decidable_of_iff _ firstRole_isSome_iff

theorem RolesAgree.of_append_left {ds ds' : List Decl} (h : RolesAgree (ds ++ ds')) :
    RolesAgree ds :=
  fun n r r' hr hr' => h n r r' (List.mem_append_left _ hr) (List.mem_append_left _ hr')

/-- Declarations either agree, or some declaration is the first to give a name another role than
the declarations before it, which agree among themselves. -/
theorem agree_or_first_conflict (ds : List Decl) :
    RolesAgree ds ∨ ∃ pre post n r r', ds = pre ++ .role n r :: post ∧ RolesAgree pre ∧
      Decl.role n r' ∈ pre ∧ r' ≠ r := by
  induction ds using List.reverseRecOn with
  | nil => exact .inl fun _ _ _ h => by cases h
  | append_singleton ds d ih =>
    rcases ih with hagree | ⟨pre, post, n, r, r', rfl, hpre, hmem, hne⟩
    · by_cases hall : RolesAgree (ds ++ [d])
      · exact .inl hall
      · -- the new declaration is the one that disagrees with an earlier one
        right
        simp only [RolesAgree, not_forall] at hall
        obtain ⟨n, r, r', hr, hr', hne⟩ := hall
        simp only [List.mem_append, List.mem_singleton] at hr hr'
        rcases hr with hr | rfl <;> rcases hr' with hr' | hr'
        · exact absurd (hagree n r r' hr hr') hne
        · exact ⟨ds, [], n, r', r, by rw [hr'], hagree, hr, hne⟩
        · exact ⟨ds, [], n, r, r', rfl, hagree, hr', Ne.symm hne⟩
        · cases hr'
          exact absurd rfl hne
    · exact .inr ⟨pre, post ++ [d], n, r, r', by simp, hpre, hmem, hne⟩

/-- Either every name of a list passes a test, or one is the first that fails it. -/
theorem all_or_first_not (P : String → Prop) [DecidablePred P] :
    ∀ L : List String, (∀ m ∈ L, P m) ∨
      ∃ pre n post, L = pre ++ n :: post ∧ (∀ m ∈ pre, P m) ∧ ¬P n
  | [] => .inl fun _ h => nomatch h
  | a :: L =>
    if h : P a then
      (all_or_first_not P L).imp (fun hall m hm => (List.mem_cons.1 hm).elim (· ▸ h) (hall m))
        fun ⟨pre, n, post, hL, hpre, hn⟩ =>
          ⟨a :: pre, n, post, by rw [hL, List.cons_append],
            fun m hm => (List.mem_cons.1 hm).elim (· ▸ h) (hpre m), hn⟩
    else .inr ⟨[], a, L, rfl, fun _ hm => (nomatch hm), h⟩

/-! ## §2. The three passes -/

/-- The first pass of `build`: gives each declared name its first role. -/
def rolesPass (ds : List Decl) : Except Fault (NameMap Role) :=
  ds.foldlM (fun roles d =>
    match d with
    | .role name r => declare roles name r
    | _ => pure roles) {}

/-- Files the entry a declaration selects, when its name has a role. -/
def fileStep {α : Type} (roles : NameMap Role) (sel : Decl → Option (String × α))
    (acc : NameMap α) (d : Decl) : Except Fault (NameMap α) :=
  match sel d with
  | none => pure acc
  | some (n, x) => if roles.contains n then pure (acc.insert n x) else throw (.unknownProperty n)

/-- A later pass of `build`: files the selected entries, each of whose names must have a role. -/
def filePass {α : Type} (roles : NameMap Role) (sel : Decl → Option (String × α))
    (ds : List Decl) : Except Fault (NameMap α) :=
  ds.foldlM (fileStep roles sel) {}

/-- `build` is its three passes one after another. -/
theorem build_eq (ds : List Decl) : build ds = (do
    let roles ← rolesPass ds
    let checks ← filePass roles Decl.checkEntry ds
    let unrecorded ← filePass roles Decl.unrecordedEntry ds
    pure { roles, checks, unrecorded }) := by
  unfold build filePass rolesPass
  congr 1
  funext roles
  -- each later pass is a filing step: a check or an unrecorded mark files its name when declared
  dsimp only
  congr 2
  · funext acc d
    cases d with
    | checked n c =>
      simp only [fileStep, Decl.checkEntry]
      split <;> rfl
    | _ => rfl
  · funext checks
    congr 2
    funext acc d
    cases d with
    | unrecorded n =>
      simp only [fileStep, Decl.unrecordedEntry]
      split <;> rfl
    | _ => rfl

/-- One step of the roles pass, over declarations that agree, keeps the map holding the first
role of each name. -/
theorem declareStep_agree {pre : List Decl} {d : Decl} (hagree : RolesAgree (pre ++ [d]))
    {roles : NameMap Role} (hroles : ∀ n, roles.get? n = firstRole n pre) :
    ∃ roles', (match d with
        | .role name r => declare roles name r
        | _ => pure roles : Except Fault (NameMap Role)) = .ok roles' ∧
      ∀ n, roles'.get? n = firstRole n (pre ++ [d]) := by
  have happend : ∀ n, firstRole n (pre ++ [d]) = (firstRole n pre).or (d.roleOf n) := fun n => by
    simp [firstRole, List.findSome?_append]
  cases d with
  | role m r =>
    cases hm : roles.get? m with
    | none =>
      -- a first declaration files its role
      refine ⟨roles.insert m r, by simp [declare, hm], fun n => ?_⟩
      rw [NameMap.get?_insert, happend, ← hroles]
      by_cases hn : n = m
      · subst hn
        simp [hm, Decl.roleOf]
      · simp [hn, Decl.roleOf, Ne.symm hn]
    | some r' =>
      -- a later declaration repeats the role of the first
      have hr' : r' = r := hagree m r' r
        (List.mem_append_left _ (mem_of_firstRole ((hroles m).symm.trans hm)))
        (List.mem_append_right _ (List.mem_singleton_self _))
      refine ⟨roles, by simp [declare, hm, hr'], fun n => ?_⟩
      rw [happend, ← hroles]
      by_cases hn : n = m
      · subst hn
        simp [hm]
      · simp [Decl.roleOf, Ne.symm hn]
  | checked m c => exact ⟨roles, rfl, fun n => by simp [happend, hroles, Decl.roleOf]⟩
  | unrecorded m => exact ⟨roles, rfl, fun n => by simp [happend, hroles, Decl.roleOf]⟩

/-- Over declarations that agree, the roles pass succeeds with the first role of each name. -/
theorem rolesPass_of_agree {ds : List Decl} (h : RolesAgree ds) :
    ∃ roles, rolesPass ds = .ok roles ∧ ∀ n, roles.get? n = firstRole n ds := by
  -- the fold carries the map of the declarations already read
  suffices hfold : ∀ (post pre : List Decl) (roles : NameMap Role), RolesAgree (pre ++ post) →
      (∀ n, roles.get? n = firstRole n pre) →
      ∃ roles', post.foldlM (fun roles d =>
          match d with
          | .role name r => declare roles name r
          | _ => pure roles) roles = .ok roles' ∧ ∀ n, roles'.get? n = firstRole n (pre ++ post) from
    hfold ds [] {} h fun _ => rfl
  intro post
  induction post with
  | nil => exact fun pre roles _ hroles => ⟨roles, rfl, by simpa using hroles⟩
  | cons d post ih =>
    intro pre roles hagree hroles
    have hwhole : RolesAgree ((pre ++ [d]) ++ post) := by simpa using hagree
    have hstep : RolesAgree (pre ++ [d]) := RolesAgree.of_append_left hwhole
    obtain ⟨roles₁, h₁, hget⟩ := declareStep_agree hstep hroles
    obtain ⟨roles', h', hget'⟩ := ih (pre ++ [d]) roles₁ (by simpa using hagree) hget
    exact ⟨roles', by rw [List.foldlM_cons, h₁]; exact h', by simpa using hget'⟩

/-- The roles pass stops at the first declaration that gives a name another role than the
declarations before it. -/
theorem rolesPass_of_conflict {ds pre post : List Decl} {n : String} {r r' : Role}
    (hds : ds = pre ++ .role n r :: post) (hpre : RolesAgree pre) (hmem : Decl.role n r' ∈ pre)
    (hne : r' ≠ r) : rolesPass ds = .error (.conflictingRole n) := by
  obtain ⟨roles, hroles, hget⟩ := rolesPass_of_agree hpre
  have hn : roles.get? n = some r' := (hget n).trans ((firstRole_eq_some_iff hpre).2 hmem)
  unfold rolesPass at hroles
  simp only [rolesPass, hds, List.foldlM_append, hroles, List.foldlM_cons]
  simp [bind, Except.bind, declare, hn, hne]

section Filing

variable {α : Type} {roles : NameMap Role} {sel : Decl → Option (String × α)}

/-- A declaration the selector skips leaves the filing walk as it was. -/
theorem foldlM_fileStep_skip {d : Decl} (hd : sel d = none) (ds : List Decl) (acc : NameMap α) :
    (d :: ds).foldlM (fileStep roles sel) acc = ds.foldlM (fileStep roles sel) acc := by
  simp only [List.foldlM_cons, fileStep, hd, pure, Except.pure, bind, Except.bind]

/-- A selected name that has a role is filed, and the walk goes on. -/
theorem foldlM_fileStep_file {d : Decl} {k : String} {x : α} (hd : sel d = some (k, x))
    (hk : roles.contains k = true) (ds : List Decl) (acc : NameMap α) :
    (d :: ds).foldlM (fileStep roles sel) acc = ds.foldlM (fileStep roles sel) (acc.insert k x) := by
  simp only [List.foldlM_cons, fileStep, hd, hk, if_true, pure, Except.pure, bind, Except.bind]

end Filing

/-- A filing pass whose names all have roles succeeds, with exactly the selected names filed. -/
theorem filePass_ok {α : Type} {roles : NameMap Role} {sel : Decl → Option (String × α)}
    {ds : List Decl} (h : ∀ n ∈ (ds.filterMap sel).map (·.1), roles.contains n = true) :
    ∃ m, filePass roles sel ds = .ok m ∧
      ∀ n, (m.get? n).isSome ↔ n ∈ (ds.filterMap sel).map (·.1) := by
  suffices hfold : ∀ acc : NameMap α, ∃ m, ds.foldlM (fileStep roles sel) acc = .ok m ∧
      ∀ n, (m.get? n).isSome ↔ (acc.get? n).isSome ∨ n ∈ (ds.filterMap sel).map (·.1) by
    obtain ⟨m, hm, hget⟩ := hfold {}
    exact ⟨m, hm, fun n => by simpa using hget n⟩
  induction ds with
  | nil => exact fun acc => ⟨acc, rfl, by simp⟩
  | cons d ds ih =>
    intro acc
    cases hd : sel d with
    | none =>
      have h' : ∀ n ∈ (ds.filterMap sel).map (·.1), roles.contains n = true := by
        simpa [hd] using h
      obtain ⟨m, hm, hget⟩ := ih h' acc
      exact ⟨m, by rw [foldlM_fileStep_skip hd]; exact hm, by simpa [hd] using hget⟩
    | some e =>
      -- the selected name has a role, so its entry is filed and the walk goes on
      obtain ⟨k, x⟩ := e
      have hk : roles.contains k = true := h k (by simp [hd])
      have h' : ∀ n ∈ (ds.filterMap sel).map (·.1), roles.contains n = true := fun n hn =>
        h n (by simp only [List.filterMap_cons, hd, List.map_cons]; exact List.mem_cons_of_mem _ hn)
      obtain ⟨m, hm, hget⟩ := ih h' (acc.insert k x)
      refine ⟨m, by rw [foldlM_fileStep_file hd hk]; exact hm, fun n => ?_⟩
      rw [hget n, NameMap.get?_insert]
      by_cases hn : n = k <;> simp [hd, hn]

/-- A filing pass stops at the first selected name without a role. -/
theorem filePass_error {α : Type} {roles : NameMap Role} {sel : Decl → Option (String × α)}
    {pre post : List String} {n : String} (hpre : ∀ m ∈ pre, roles.contains m = true)
    (hn : roles.contains n = false) :
    ∀ {ds : List Decl}, (ds.filterMap sel).map (·.1) = pre ++ n :: post →
      ∀ acc, ds.foldlM (fileStep roles sel) acc = .error (.unknownProperty n) := by
  induction pre with
  | nil =>
    intro ds
    induction ds with
    | nil => intro h; cases h
    | cons d ds ih =>
      intro hnames acc
      cases hd : sel d with
      | none =>
        rw [foldlM_fileStep_skip hd]
        exact ih (by simpa [List.filterMap_cons, hd] using hnames) acc
      | some e =>
        -- the first selected name is the one without a role
        simp only [List.filterMap_cons, hd, List.map_cons, List.nil_append, List.cons.injEq]
          at hnames
        obtain ⟨rfl, -⟩ := hnames
        simp [List.foldlM_cons, fileStep, hd, hn, throw, throwThe, MonadExceptOf.throw, bind,
          Except.bind]
  | cons a pre ih =>
    intro ds
    induction ds with
    | nil => intro h; cases h
    | cons d ds ihd =>
      intro hnames acc
      cases hd : sel d with
      | none =>
        rw [foldlM_fileStep_skip hd]
        exact ihd (by simpa [List.filterMap_cons, hd] using hnames) acc
      | some e =>
        -- an earlier selected name has a role: it is filed and the walk goes on
        obtain ⟨k, x⟩ := e
        simp only [List.filterMap_cons, hd, List.map_cons, List.cons_append, List.cons.injEq]
          at hnames
        obtain ⟨rfl, hrest⟩ := hnames
        have hk : roles.contains k = true := hpre k List.mem_cons_self
        rw [foldlM_fileStep_file hd hk]
        exact ih (fun m hm => hpre m (List.mem_cons_of_mem _ hm)) hrest _

/-! ## §3. The verdict -/

/-- What a layout shows of the declarations it is built from. -/
structure Shows (ds : List Decl) (l : Layout) : Prop where
  /-- a name has the role of its declarations, and no role when undeclared -/
  role : ∀ n r, l.roles.get? n = some r ↔ Decl.role n r ∈ ds
  /-- the names of each role come in byte order -/
  sorted : ∀ r, (l.withRole r).Pairwise (· < ·)
  /-- and are the names declared with it -/
  withRole : ∀ r n, n ∈ l.withRole r ↔ Decl.role n r ∈ ds
  /-- the sensed, actuated and parameter names hold each declared name once, and no other -/
  partition : ∀ n, (l.sensed ++ l.actuated ++ l.params).count n = if Declared ds n then 1 else 0
  /-- the recorded names come in byte order -/
  recordedSorted : l.recorded.Pairwise (· < ·)
  /-- and are the declared names that are not parameters and not marked unrecorded -/
  recorded : ∀ n, n ∈ l.recorded ↔
    (∃ r, Decl.role n r ∈ ds ∧ r ≠ .param) ∧ n ∉ unrecordedNames ds
  /-- each checked name keeps the check given last -/
  checks : ∀ n, l.checks.get? n = lastCheck n ds

/-- The outcome of building from `ds`: the first of four that applies. -/
inductive Verdict (ds : List Decl) : Except Fault Layout → Prop
  /-- a declaration gives a name another role than the declarations before it, which agree -/
  | conflict {pre post : List Decl} {n : String} {r r' : Role} :
      ds = pre ++ .role n r :: post → RolesAgree pre → Decl.role n r' ∈ pre → r' ≠ r →
      Verdict ds (.error (.conflictingRole n))
  /-- the declarations agree, and a checked name is the first without a role -/
  | uncheckedUnknown {pre post : List String} {n : String} :
      RolesAgree ds → checkedNames ds = pre ++ n :: post → (∀ m ∈ pre, Declared ds m) →
      ¬Declared ds n → Verdict ds (.error (.unknownProperty n))
  /-- every checked name has a role too, and an unrecorded name is the first without one -/
  | unrecordedUnknown {pre post : List String} {n : String} :
      RolesAgree ds → (∀ m ∈ checkedNames ds, Declared ds m) →
      unrecordedNames ds = pre ++ n :: post → (∀ m ∈ pre, Declared ds m) → ¬Declared ds n →
      Verdict ds (.error (.unknownProperty n))
  /-- every name checked or marked has a role, and the layout shows the declarations -/
  | built {l : Layout} :
      RolesAgree ds → (∀ m ∈ checkedNames ds, Declared ds m) →
      (∀ m ∈ unrecordedNames ds, Declared ds m) → Shows ds l → Verdict ds (.ok l)

/-- A name is among the names of a role exactly when the map gives it that role. -/
theorem mem_withRole (l : Layout) (r : Role) (n : String) :
    n ∈ l.withRole r ↔ l.roles.get? n = some r := by
  simp only [withRole, List.mem_map, List.mem_filter, decide_eq_true_eq,
    NameMap.get?_eq_some_iff]
  constructor
  · rintro ⟨e, ⟨he, rfl⟩, rfl⟩
    exact he
  · intro h
    exact ⟨(n, r), ⟨h, rfl⟩, rfl⟩

theorem withRole_sorted (l : Layout) (r : Role) : (l.withRole r).Pairwise (· < ·) :=
  List.pairwise_map.2 (l.roles.ordered.filter _)

/-- A name occurs once among the names of its role, and not among the others. -/
theorem count_withRole (l : Layout) (r : Role) (n : String) :
    (l.withRole r).count n = if l.roles.get? n = some r then 1 else 0 := by
  rw [(withRole_sorted l r).nodup.count]
  simp only [mem_withRole]

/-- A layout built from declarations that agree, and whose checked and unrecorded names all have
roles, shows them. -/
theorem shows_of_passes {ds : List Decl} {roles : NameMap Role} {checks : NameMap Check}
    {unrecorded : NameMap Unit} (hagree : RolesAgree ds) (hroles : ∀ n, roles.get? n = firstRole n ds)
    (hunrec : ∀ n, (unrecorded.get? n).isSome ↔ n ∈ unrecordedNames ds)
    (hbuild : build ds = .ok { roles, checks, unrecorded }) :
    Shows ds { roles, checks, unrecorded } := by
  have hrole : ∀ n r, roles.get? n = some r ↔ Decl.role n r ∈ ds := fun n r => by
    rw [hroles, firstRole_eq_some_iff hagree]
  refine ⟨hrole, withRole_sorted _, fun r n => ?_, fun n => ?_, recorded_sorted _, fun n => ?_,
    build_checks hbuild⟩
  · exact (mem_withRole _ r n).trans (hrole n r)
  · -- a name has one role or none, and is counted under it
    simp only [sensed, actuated, params, List.count_append, count_withRole]
    have hdecl : Declared ds n ↔ (roles.get? n).isSome := by
      rw [hroles, firstRole_isSome_iff]
    cases h : roles.get? n with
    | none => simp [hdecl, h]
    | some r => cases r <;> simp [hdecl, h]
  · rw [mem_recorded]
    simp only [← hrole, ← hunrec]
    constructor
    · rintro ⟨r, h, hne, hu⟩
      exact ⟨⟨r, h, hne⟩, Option.not_isSome_iff_eq_none.2 hu⟩
    · rintro ⟨⟨r, h, hne⟩, hu⟩
      exact ⟨r, h, hne, Option.not_isSome_iff_eq_none.1 hu⟩

/-- Building a layout decides exactly: for every list of declarations, `build` returns the first
outcome of `Verdict` that applies. A conflicting role comes first, at the first declaration that
disagrees with those before it; then the first checked name without a role; then the first
unrecorded name without one; and otherwise the layout that shows the declarations. -/
theorem build_decides (ds : List Decl) : Verdict ds (build ds) := by
  rcases agree_or_first_conflict ds with hagree | ⟨pre, post, n, r, r', hds, hpre, hmem, hne⟩
  case inr =>
    rw [build_eq, rolesPass_of_conflict hds hpre hmem hne]
    exact .conflict hds hpre hmem hne
  obtain ⟨roles, hroles, hget⟩ := rolesPass_of_agree hagree
  have hknown : ∀ n, roles.contains n = true ↔ Declared ds n := fun n => by
    rw [NameMap.contains, hget, firstRole_isSome_iff]
  have hunknown : ∀ {n}, ¬Declared ds n → roles.contains n = false := fun hn =>
    Bool.eq_false_iff.2 fun h => hn ((hknown _).1 h)
  rcases all_or_first_not (Declared ds) (checkedNames ds) with hchecked | ⟨pre, n, post, hL, hpre, hn⟩
  case inr =>
    -- a checked name without a role stops the second pass
    rw [build_eq, hroles]
    simp only [bind, Except.bind, filePass]
    rw [filePass_error (fun m hm => (hknown m).2 (hpre m hm)) (hunknown hn) hL]
    exact .uncheckedUnknown hagree hL hpre hn
  obtain ⟨checks, hchecks, -⟩ := @filePass_ok _ roles Decl.checkEntry ds
    fun n hn => (hknown n).2 (hchecked n hn)
  rcases all_or_first_not (Declared ds) (unrecordedNames ds) with hmarked | ⟨pre, n, post, hL, hpre, hn⟩
  case inr =>
    -- an unrecorded name without a role stops the third pass
    rw [build_eq, hroles]
    simp only [bind, Except.bind, hchecks]
    rw [filePass, filePass_error (fun m hm => (hknown m).2 (hpre m hm)) (hunknown hn) hL]
    exact .unrecordedUnknown hagree hchecked hL hpre hn
  obtain ⟨unrecorded, hunrec, hmem⟩ := @filePass_ok _ roles Decl.unrecordedEntry ds
    fun n hn => (hknown n).2 (hmarked n hn)
  have hbuild : build ds = .ok { roles, checks, unrecorded } := by
    rw [build_eq, hroles]
    simp only [bind, Except.bind, hchecks, hunrec]
    rfl
  rw [hbuild]
  exact .built hagree hchecked hmarked (shows_of_passes hagree hget hmem hbuild)

end Layout

end ControlLoop

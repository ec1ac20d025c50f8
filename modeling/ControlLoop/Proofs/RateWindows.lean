import ControlLoop.Plant.RateMonitor

/-! # The windows of the tick-rate monitor

A monitor sorts the ticks it is shown into consecutive windows. A window opens where the
monitor starts, or at the tick that closed the window before it, and it is closed by the first
tick at least `reportWindowNanos` (five seconds) after it opened; that tick is the window's
last. Only a closing tick can report. It reports the window's ticks over the window's length
in seconds, unless the monitor has made fewer ticks in all than its target rate; a window that
closes during that warm-up is dropped all the same, and the next window counts from zero. Both
counts are 64-bit counters: what the monitor compares and divides is each count modulo
`2 ^ 64`, the count itself below that.

`RateMonitor.Windows` states this partition of a list of instants, with the report each tick
gets, without reference to `onTick`. A tick is one of two steps (`onTick_of_lt`,
`onTick_of_le`), ticks that stay inside the open window report nothing
(`reports_append_of_lt`), and the partition gives exactly the reports of a run
(`reports_eq_iff_windows`). Instants need not increase: a tick before the window opened is
inside it, since the window's age is measured with a saturating subtraction.
-/

namespace ControlLoop

namespace RateMonitor

/-- The answers of a monitor to ticks at the given instants, one per tick, in order. -/
def reports (m : RateMonitor) : List Nat → List (Option Float)
  | [] => []
  | t :: ts => (m.onTick t).1 :: (m.onTick t).2.reports ts

@[simp] theorem reports_nil (m : RateMonitor) : m.reports [] = [] := rfl

theorem reports_cons (m : RateMonitor) (t : Nat) (ts : List Nat) :
    m.reports (t :: ts) = (m.onTick t).1 :: (m.onTick t).2.reports ts := rfl

/-- What the `total`-th tick reports when it closes a window of `ticks` ticks lasting `span`
nanoseconds, both counted by 64-bit counters: nothing while `total` is below the target rate,
else ticks per second. -/
def closingReport (targetHz total ticks span : Nat) : Option Float :=
  if total % UInt64.size < targetHz then none
  else some (Binary64.ofInt (ticks % UInt64.size : Nat) / secondsOfNanos span)

/-! ## One tick -/

section Step

variable {targetHz n s k t : Nat}

theorem reportWindowNanos_pos : 0 < reportWindowNanos := by decide

/-- A 64-bit counter of `n` counts `n + 1` once one is added. -/
theorem ofNat_add_one (n : Nat) : UInt64.ofNat n + 1 = UInt64.ofNat (n + 1) := by
  rw [UInt64.ofNat_add]
  rfl

/-- A tick inside the open window counts itself and reports nothing. -/
theorem onTick_of_lt (h : t < s + reportWindowNanos) :
    (⟨targetHz, UInt64.ofNat n, s, UInt64.ofNat k⟩ : RateMonitor).onTick t =
      (none, ⟨targetHz, UInt64.ofNat (n + 1), s, UInt64.ofNat (k + 1)⟩) := by
  -- a tick before the window opened is of age zero, inside the window too
  have hage : t - s < reportWindowNanos := by
    have := reportWindowNanos_pos
    omega
  simp only [onTick, if_pos hage, ofNat_add_one]

/-- A tick at least a window's length after the window opened closes it, with the window's
report, and opens an empty window at itself. -/
theorem onTick_of_le (h : s + reportWindowNanos ≤ t) :
    (⟨targetHz, UInt64.ofNat n, s, UInt64.ofNat k⟩ : RateMonitor).onTick t =
      (closingReport targetHz (n + 1) (k + 1) (t - s),
        ⟨targetHz, UInt64.ofNat (n + 1), t, UInt64.ofNat 0⟩) := by
  have hage : ¬t - s < reportWindowNanos := by omega
  -- the counters read back as the counts modulo `2 ^ 64`
  have hread (a : Nat) : (UInt64.ofNat a).toNat = a % UInt64.size := UInt64.toNat_ofNat'
  simp only [onTick, if_neg hage, closingReport, ofNat_add_one, hread]
  split <;> rfl

end Step

/-- Ticks that all stay inside the open window report nothing, and are counted both in all
and in the window. -/
theorem reports_append_of_lt {targetHz n s k : Nat} {w : List Nat}
    (hw : ∀ t ∈ w, t < s + reportWindowNanos) (ts : List Nat) :
    (⟨targetHz, UInt64.ofNat n, s, UInt64.ofNat k⟩ : RateMonitor).reports (w ++ ts) =
      List.replicate w.length none ++
        (⟨targetHz, UInt64.ofNat (n + w.length), s, UInt64.ofNat (k + w.length)⟩ :
          RateMonitor).reports ts := by
  induction w generalizing n k with
  | nil => rfl
  | cons t w ih =>
    have ht := hw t List.mem_cons_self
    have hrest := ih (fun t' h' => hw t' (List.mem_cons_of_mem t h')) (n := n + 1) (k := k + 1)
    have hcount (a : Nat) : a + 1 + w.length = a + (w.length + 1) := by omega
    rw [List.cons_append, reports_cons, onTick_of_lt ht, hrest, List.length_cons,
      List.replicate_succ, List.cons_append, hcount n, hcount k]

/-! ## The partition into windows -/

/-- `Windows targetHz n s k ts rs`: a monitor aiming at `targetHz` ticks a second, which has
made `n` ticks and whose open window opened at `s` holding `k` of them, gives the reports `rs`
to ticks at the instants `ts`. The instants fall into windows, each closed by its first tick at
least `reportWindowNanos` after it opened; that tick is the window's last and opens the next
window, which holds no tick yet. Only closing ticks report. -/
inductive Windows (targetHz : Nat) :
    Nat → Nat → Nat → List Nat → List (Option Float) → Prop
  /-- No tick closes the open window. -/
  | pending {n s k : Nat} {ts : List Nat} :
      (∀ t ∈ ts, t < s + reportWindowNanos) →
      Windows targetHz n s k ts (List.replicate ts.length none)
  /-- The ticks `w` stay inside the open window and `c` closes it. -/
  | closed {n s k c : Nat} {w ts : List Nat} {rs : List (Option Float)} :
      (∀ t ∈ w, t < s + reportWindowNanos) → s + reportWindowNanos ≤ c →
      Windows targetHz (n + w.length + 1) c 0 ts rs →
      Windows targetHz n s k (w ++ c :: ts)
        (List.replicate w.length none ++
          closingReport targetHz (n + w.length + 1) (k + w.length + 1) (c - s) :: rs)

/-- The partition determines the reports: they are the run's. -/
theorem Windows.reports_eq {targetHz n s k : Nat} {ts : List Nat} {rs : List (Option Float)}
    (h : Windows targetHz n s k ts rs) :
    (⟨targetHz, UInt64.ofNat n, s, UInt64.ofNat k⟩ : RateMonitor).reports ts = rs := by
  induction h with
  | pending hts =>
    simpa using reports_append_of_lt hts []
  | @closed n s k c w ts rs hw hc _ ih =>
    rw [reports_append_of_lt hw, reports_cons, onTick_of_le (by omega), ih]

/-- A tick inside the open window joins the window that the later ticks continue. -/
theorem Windows.cons_of_lt {targetHz n s k t : Nat} {ts : List Nat} {rs : List (Option Float)}
    (ht : t < s + reportWindowNanos) (h : Windows targetHz (n + 1) s (k + 1) ts rs) :
    Windows targetHz n s k (t :: ts) (none :: rs) := by
  cases h with
  | pending hts =>
    have hall : ∀ t' ∈ t :: ts, t' < s + reportWindowNanos := by
      simpa [ht] using hts
    have hwin : Windows targetHz n s k (t :: ts) (List.replicate (t :: ts).length none) :=
      .pending hall
    rwa [List.length_cons, List.replicate_succ] at hwin
  | @closed _ _ _ c w ts rs hw hc hrest =>
    have hall : ∀ t' ∈ t :: w, t' < s + reportWindowNanos := by
      simpa [ht] using hw
    have hlen (a : Nat) : a + 1 + w.length + 1 = a + (t :: w).length + 1 := by
      simp only [List.length_cons]
      omega
    rw [hlen n] at hrest
    have hclose := Windows.closed hall hc hrest (k := k)
    rwa [← hlen n, ← hlen k, List.length_cons, List.replicate_succ, List.cons_append,
      List.cons_append] at hclose

/-- Every run of ticks is partitioned into windows with the reports the run gives. -/
theorem windows_reports (targetHz : Nat) (ts : List Nat) :
    ∀ n s k, Windows targetHz n s k ts
      ((⟨targetHz, UInt64.ofNat n, s, UInt64.ofNat k⟩ : RateMonitor).reports ts) := by
  induction ts with
  | nil =>
    intro n s k
    exact Windows.pending (by simp)
  | cons t ts ih =>
    intro n s k
    by_cases ht : t < s + reportWindowNanos
    · -- the tick stays in the open window
      rw [reports_cons, onTick_of_lt ht]
      exact (ih (n + 1) s (k + 1)).cons_of_lt ht
    · -- the tick closes the window and opens the next one at itself
      rw [reports_cons, onTick_of_le (by omega)]
      exact Windows.closed (w := []) (by simp) (by omega) (ih (n + 1) t 0)

/-- The reports of a monitor to any ticks are exactly the ones the partition of their
instants into windows gives, from the counts its counters hold. -/
theorem reports_eq_iff_windows (m : RateMonitor) (ts : List Nat) (rs : List (Option Float)) :
    m.reports ts = rs ↔
      Windows m.targetHz m.totalTicks.toNat m.windowStart m.windowTicks.toNat ts rs := by
  -- a counter is the image of the count it reads back as
  obtain ⟨targetHz, total, start, ticks⟩ := m
  have hrun := windows_reports targetHz ts total.toNat start ticks.toNat
  simp only [UInt64.ofNat_toNat] at hrun
  constructor
  · rintro rfl
    exact hrun
  · intro h
    simpa only [UInt64.ofNat_toNat] using h.reports_eq

/-- The windows of a monitor started at `t₀`, for any target rate and any ticks. The ticks
fall into consecutive windows: the first opens at `t₀`, each closes at its first tick at least
five seconds after it opened, and that tick opens the next. A closing tick that is the `i`-th
tick in all reports `some r` when `i` is at least the target rate, `r` being the window's
ticks (the closing one included, none of an earlier window) over the seconds between its
opening and the closing tick; every other tick, and every closing tick during warm-up,
reports `none`. Both counts are taken modulo `2 ^ 64`, as the monitor's counters hold them,
which leaves every count of a run of fewer than `2 ^ 64` ticks as it is. -/
theorem startingAt_reports_iff (targetHz t₀ : Nat) (ts : List Nat) (rs : List (Option Float)) :
    (startingAt targetHz t₀).reports ts = rs ↔ Windows targetHz 0 t₀ 0 ts rs :=
  reports_eq_iff_windows (startingAt targetHz t₀) ts rs

example : ((startingAt 2 0).reports
    [0, 0, 4999999999, 5000000000, 5000000000, 10000000001]).map Option.isSome =
    [false, false, false, true, false, true] := by decide

end RateMonitor

end ControlLoop

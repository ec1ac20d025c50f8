import ControlLoop.NameMap
import ControlLoop.Text.Csv

namespace ControlLoop

/-! # Diagnostic counters

Ten 64-bit counters of things that went wrong without stopping the loop, counted modulo
`2^64`, and a count per property of commands that no actuator took. The summary table lists
the ten counters in a fixed order, then one row per property in byte order.
-/

/-- Something that went wrong without stopping the loop. -/
inductive Event where
  | malformed
  | unpromptedReply
  | ignoredKind
  | unregisteredCommand
  | droppedSend
  | overwrittenSample
  | controllerFailure
  | tickOverrun
  | missingProperty
  | unanswered
  deriving DecidableEq, Repr, Inhabited

/-- The counters, one per event. -/
structure Counts where
  malformed : UInt64 := 0
  unpromptedReplies : UInt64 := 0
  ignoredKinds : UInt64 := 0
  unregisteredCommands : UInt64 := 0
  droppedSends : UInt64 := 0
  overwrittenSamples : UInt64 := 0
  controllerFailures : UInt64 := 0
  tickOverruns : UInt64 := 0
  missingProperties : UInt64 := 0
  unanswered : UInt64 := 0
  deriving DecidableEq, Repr, Inhabited

namespace Counts

/-- The counter of an event. -/
def get (c : Counts) : Event → UInt64
  | .malformed => c.malformed
  | .unpromptedReply => c.unpromptedReplies
  | .ignoredKind => c.ignoredKinds
  | .unregisteredCommand => c.unregisteredCommands
  | .droppedSend => c.droppedSends
  | .overwrittenSample => c.overwrittenSamples
  | .controllerFailure => c.controllerFailures
  | .tickOverrun => c.tickOverruns
  | .missingProperty => c.missingProperties
  | .unanswered => c.unanswered

/-- Adds `n` to the counter of an event, modulo `2^64`. -/
def add (c : Counts) (e : Event) (n : UInt64) : Counts :=
  match e with
  | .malformed => { c with malformed := c.malformed + n }
  | .unpromptedReply => { c with unpromptedReplies := c.unpromptedReplies + n }
  | .ignoredKind => { c with ignoredKinds := c.ignoredKinds + n }
  | .unregisteredCommand => { c with unregisteredCommands := c.unregisteredCommands + n }
  | .droppedSend => { c with droppedSends := c.droppedSends + n }
  | .overwrittenSample => { c with overwrittenSamples := c.overwrittenSamples + n }
  | .controllerFailure => { c with controllerFailures := c.controllerFailures + n }
  | .tickOverrun => { c with tickOverruns := c.tickOverruns + n }
  | .missingProperty => { c with missingProperties := c.missingProperties + n }
  | .unanswered => { c with unanswered := c.unanswered + n }

/-- Adding to the counter of an event adds to that counter only. -/
theorem get_add (c : Counts) (e e' : Event) (n : UInt64) :
    (c.add e n).get e' = c.get e' + if e' = e then n else 0 := by
  cases e <;> cases e' <;> simp [add, get]

/-- The counters by their names, in the order of the summary table. -/
def rows (c : Counts) : List (String × UInt64) :=
  [("malformed", c.malformed), ("unprompted_replies", c.unpromptedReplies),
   ("ignored_kinds", c.ignoredKinds), ("unregistered_commands", c.unregisteredCommands),
   ("dropped_sends", c.droppedSends), ("overwritten_samples", c.overwrittenSamples),
   ("controller_failures", c.controllerFailures), ("tick_overruns", c.tickOverruns),
   ("missing_properties", c.missingProperties), ("unanswered", c.unanswered)]

end Counts

/-- The counters and the unregistered commands per property. -/
structure Diagnostics where
  counts : Counts := {}
  byProp : NameMap UInt64 := {}
  deriving Inhabited

namespace Diagnostics

/-- Counts `n` events of one kind. -/
def add (d : Diagnostics) (e : Event) (n : UInt64) : Diagnostics :=
  { d with counts := d.counts.add e n }

/-- Counts one event. -/
def record (d : Diagnostics) (e : Event) : Diagnostics := d.add e 1

@[simp] theorem counts_get_add (d : Diagnostics) (e e' : Event) (n : UInt64) :
    (d.add e n).counts.get e' = d.counts.get e' + if e' = e then n else 0 :=
  Counts.get_add d.counts e e' n

@[simp] theorem counts_get_record (d : Diagnostics) (e e' : Event) :
    (d.record e).counts.get e' = d.counts.get e' + if e' = e then 1 else 0 :=
  counts_get_add d e e' 1

/-- Counts a command for a property that no actuator took. -/
def recordUnregistered (d : Diagnostics) (prop : String) : Diagnostics :=
  { counts := d.counts.add .unregisteredCommand 1
    byProp := d.byProp.alter prop fun n => n.getD 0 + 1 }

/-! Counting a command for a property is three atomic steps, which other threads' steps can
come between: the total is counted first, then the property's count is looked up under the
map's read lock and, when there is one, counted there; only when there is none is the
property's entry taken under the write lock, made with a count of zero if it is still missing,
and counted. -/

/-- The lookup step: counts one more for `prop` when it has a count; `none` when it has none. -/
def bumpExisting (d : Diagnostics) (prop : String) : Option Diagnostics :=
  (d.byProp.get? prop).map fun n => { d with byProp := d.byProp.insert prop (n + 1) }

/-- The entry step: gives `prop` a count of zero if it has none, then counts one more. -/
def bumpEntry (d : Diagnostics) (prop : String) : Diagnostics :=
  { d with byProp := d.byProp.alter prop fun n => n.getD 0 + 1 }

/-- The commands for a property that no actuator took. -/
def unregisteredFor (d : Diagnostics) (prop : String) : UInt64 := (d.byProp.get? prop).getD 0

/-- The summary table: a header, the ten counters, then `unregistered:<prop>` rows. -/
def summaryCsv (d : Diagnostics) : String :=
  let rows := d.counts.rows ++ d.byProp.entries.map fun e => ("unregistered:" ++ e.1, e.2)
  Csv.lines (["metric", "value"] :: rows.map fun r => [r.1, toString r.2.toNat])

end Diagnostics

end ControlLoop

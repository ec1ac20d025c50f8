import ControlLoop.Value
import ControlLoop.Text.Quoted

namespace ControlLoop

/-! # Faults

The failures that travel out of the library, each a cause with the data that explains it,
and `Fault.message`, the one place where they are worded; and the panics that stop the program
outright, worded by `Panic.message`.
-/

/-- Why an operation failed. -/
inductive Fault where
  /-- A sensor's rate does not divide the plant's tick rate. -/
  | incompatibleFrequency (prop : String) (sensorFreq plantFreq : Nat)
  /-- A sensor found no value for its property. -/
  | missingProperty (prop : String)
  /-- Sanity checks failed; the failing properties with their values. -/
  | unrecoverableState (failed : PropMap)
  /-- A property was declared with two roles. -/
  | conflictingRole (prop : String)
  /-- A property was used without being declared. -/
  | unknownProperty (prop : String)
  /-- The controller channel was used before it was bound. -/
  | notReady
  /-- A controller could not process its samples. -/
  | controller (detail : String)
  /-- No controller class has this name. -/
  | unknownController (cls : String)
  /-- A configuration is invalid. -/
  | config (detail : String)
  /-- The controller worker failed. -/
  | worker (detail : String)
  /-- Reading or writing a file failed. -/
  | io
  /-- A message could not be written. -/
  | encode
  /-- A CSV text could not be read. -/
  | csv
  deriving Inhabited

namespace Fault

/-- The text of a property map inside a message: `{"x": Float(1.2), "b": Bool(true)}`. -/
def mapText (m : PropMap) : String :=
  "\x7b" ++ ", ".intercalate (m.entries.map fun e => Quoted.quote e.1 ++ ": " ++ e.2.tagged) ++
    "\x7d"

/-- The wording of each fault. -/
def message : Fault → String
  | incompatibleFrequency p f pf =>
    s!"sensor on `{p}` samples at {f} Hz, which does not divide the plant tick rate of {pf} Hz"
  | missingProperty p => s!"missing expected update for property `{p}`"
  | unrecoverableState m =>
    "simulation reached an unrecoverable state, failed sanity checks: " ++ mapText m
  | conflictingRole p => s!"property `{p}` declared with more than one role"
  | unknownProperty p => s!"property `{p}` was never declared"
  | notReady => "controller interface used before its transport was bound"
  | controller d => s!"controller failed to process samples: {d}"
  | unknownController c => s!"no controller registered under class `{c}`"
  | config d => s!"invalid configuration: {d}"
  | worker d => s!"worker failure: {d}"
  | io => "I/O error"
  | encode => "failed to encode message"
  | csv => "CSV error"

/-- The name of the kind of fault. -/
def kind : Fault → String
  | incompatibleFrequency .. => "IncompatibleFrequency"
  | missingProperty .. => "MissingProperty"
  | unrecoverableState .. => "UnrecoverableState"
  | conflictingRole .. => "ConflictingRole"
  | unknownProperty .. => "UnknownProperty"
  | notReady => "NotReady"
  | controller .. => "Controller"
  | unknownController .. => "UnknownController"
  | config .. => "Config"
  | worker .. => "Worker"
  | io => "Io"
  | encode => "Encode"
  | csv => "Csv"

end Fault

/-- Why the program stops outright, with no failure to report. -/
inductive Panic where
  /-- A draw from a range that holds no number. -/
  | emptyRange
  /-- A draw from a range whose width is infinite or NaN. -/
  | nonFinite
  /-- A timer asked to tick with no time between ticks. -/
  | zeroPeriod
  deriving DecidableEq, Repr

/-- The text the program stops with. -/
def Panic.message : Panic → String
  | .emptyRange => "cannot sample empty range"
  | .nonFinite => "called `Result::unwrap()` on an `Err` value: NonFinite"
  | .zeroPeriod => "`period` must be non-zero."

end ControlLoop

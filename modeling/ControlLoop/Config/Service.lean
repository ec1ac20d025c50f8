import ControlLoop.Config.Table
import ControlLoop.Config.Fields
import ControlLoop.Duration

namespace ControlLoop

/-! # The controller service configuration

The service binds to an address, may delay every reply by some milliseconds, checks its stop
flag every poll timeout, may write to a directory, and may ask for a raised priority and a
core. It is valid when the poll timeout is positive and at most a minute.
-/

/-- The longest poll timeout, in milliseconds. -/
def maxPollTimeoutMs : Nat := 60000

/-- How a controller service runs. -/
structure ServiceConfig where
  bindAddr : SocketAddr := SocketAddr.loopbackV4 0
  replyDelayMs : Nat := 0
  pollTimeoutMs : Nat := 10
  outputDir : Option String := none
  realtimePriority : Bool := false
  pinCore : Option Nat := none
  deriving DecidableEq, Inhabited

namespace ServiceConfig

/-- Checks the configuration. -/
def validate (c : ServiceConfig) : Except Fault Unit := do
  if c.pollTimeoutMs = 0 then throw (.config "poll_timeout_ms must be positive")
  if c.pollTimeoutMs > maxPollTimeoutMs then
    throw (.config s!"poll_timeout_ms must be at most {maxPollTimeoutMs}, got {c.pollTimeoutMs}")

/-- The delay of every reply, if any. -/
def replyDelay (c : ServiceConfig) : Option Duration :=
  if c.replyDelayMs > 0 then some (Duration.ofMillis c.replyDelayMs) else none

/-- The span between checks of the stop flag. -/
def pollTimeout (c : ServiceConfig) : Duration := Duration.ofMillis c.pollTimeoutMs

/-- The columns of the saved form. -/
def columns : List (Column ServiceConfig) :=
  [⟨"bind_addr", fun c => c.bindAddr.render,
     fun c s => (SocketAddr.parse? s).map fun v => { c with bindAddr := v }⟩,
   ⟨"reply_delay_ms", fun c => toString c.replyDelayMs,
     fun c s => (Field.unsigned 64 s).map fun v => { c with replyDelayMs := v }⟩,
   ⟨"poll_timeout_ms", fun c => toString c.pollTimeoutMs,
     fun c s => (Field.unsigned 64 s).map fun v => { c with pollTimeoutMs := v }⟩,
   ⟨"output_dir", fun c => Field.showOptional id c.outputDir,
     fun c s => (Field.optional some s).map fun v => { c with outputDir := v }⟩,
   ⟨"realtime_priority", fun c => toString c.realtimePriority,
     fun c s => (Field.truth s).map fun v => { c with realtimePriority := v }⟩,
   ⟨"pin_core", fun c => Field.showOptional toString c.pinCore,
     fun c s => (Field.optional (Field.unsigned 64) s).map fun v => { c with pinCore := v }⟩]

/-- The saved text. -/
def save (c : ServiceConfig) : String := Column.save columns c

/-- Loads a configuration from saved text. -/
def load (text : String) : Except Fault ServiceConfig := Column.load columns {} text

end ServiceConfig

end ControlLoop

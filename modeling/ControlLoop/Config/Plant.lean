import ControlLoop.Config.Table
import ControlLoop.Config.Fields
import ControlLoop.Duration

namespace ControlLoop

/-! # The plant configuration

The plant runs at a tick rate, for an optional duration, bound to an address, talking to an
optional controller address, writing to an optional directory, with a number of blocking
threads. It is valid when the rate is positive, the duration (if any) is a positive finite
number of seconds, and there is at least one thread.

The duration is held as a double by its bits, so a NaN keeps its sign; its text is `NaN`
whatever the sign, and the text `-NaN` reads back as the negated NaN.
-/

/-- How a plant runs. -/
structure PlantConfig where
  tickRate : Nat := 100
  duration : Option Double := none
  bindAddr : SocketAddr := SocketAddr.anyV4 0
  controllerAddr : Option SocketAddr := none
  outputDir : Option String := none
  blockingThreads : Nat := 2
  deriving Inhabited

namespace PlantConfig

/-- Checks the configuration. -/
def validate (c : PlantConfig) : Except Fault Unit := do
  if c.tickRate = 0 then throw (.config "tick_rate must be positive")
  if let some d := c.duration then
    if !(d.toFloat.isFinite && d.toFloat > 0.0) then
      throw (.config ("duration must be a positive number of seconds, got " ++ FloatFormat.plain.render d.toFloat))
  if c.blockingThreads = 0 then throw (.config "blocking_threads must be at least 1")

/-- The span of the run, if limited. -/
def runTime (c : PlantConfig) : Option (Except DurationError Duration) :=
  c.duration.map fun d => Duration.ofSeconds? d.toFloat

/-- The span between ticks. -/
def tickPeriod (c : PlantConfig) : Duration := Duration.period c.tickRate

/-- The columns of the saved form. -/
def columns : List (Column PlantConfig) :=
  [⟨"tick_rate", fun c => toString c.tickRate,
     fun c s => (Field.unsigned 32 s).map fun v => { c with tickRate := v }⟩,
   ⟨"duration_s", fun c => Field.showOptional (FloatFormat.data.render ·.toFloat) c.duration,
     fun c s => (Field.optional Decimal.readDouble? s).map fun v => { c with duration := v }⟩,
   ⟨"bind_addr", fun c => c.bindAddr.render,
     fun c s => (SocketAddr.parse? s).map fun v => { c with bindAddr := v }⟩,
   ⟨"controller_addr", fun c => Field.showOptional SocketAddr.render c.controllerAddr,
     fun c s => (Field.optional SocketAddr.parse? s).map fun v => { c with controllerAddr := v }⟩,
   ⟨"output_dir", fun c => Field.showOptional id c.outputDir,
     fun c s => (Field.optional some s).map fun v => { c with outputDir := v }⟩,
   ⟨"blocking_threads", fun c => toString c.blockingThreads,
     fun c s => (Field.unsigned 64 s).map fun v => { c with blockingThreads := v }⟩]

/-- The saved text. -/
def save (c : PlantConfig) : String := Column.save columns c

/-- Loads a configuration from saved text. -/
def load (text : String) : Except Fault PlantConfig := Column.load columns {} text

/-- Whether two configurations are equal, durations compared as numbers. -/
def same (a b : PlantConfig) : Bool :=
  a.tickRate == b.tickRate && a.duration.map Double.toFloat == b.duration.map Double.toFloat &&
  a.bindAddr == b.bindAddr &&
  a.controllerAddr == b.controllerAddr && a.outputDir == b.outputDir &&
  a.blockingThreads == b.blockingThreads

end PlantConfig

end ControlLoop

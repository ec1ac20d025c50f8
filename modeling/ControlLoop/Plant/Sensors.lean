import ControlLoop.Fault
import ControlLoop.Record
import ControlLoop.Random

namespace ControlLoop

/-! # Sensors

A sensor reads one property at a rate that divides the plant's tick rate, so it fires on
the cycles `0, s, 2s, …` below the tick rate, where `s` is the tick rate over its rate. What
a sensor does with a value is its own: `SensorImpl` asks for its property, its rate and a way
to process a value, which may draw from the plant's noise source, change the sensor, or stop
the program. The library's own sensors report the value as read, or add even noise of their
spread to numbers, drawing for every value they process.

The bank keeps a trigger table with one slot per cycle, listing the properties sampled on
that cycle; every registration rebuilds it from scratch, so sampling is one lookup.
A sample walks the sensors scheduled on the tick's cycle in byte order and stops at the first
property without a value; a record of the raw and processed numbers of every sensor is made
either way.
-/

/-- What a plant needs of a sensor: the property it reads, its rate, and how it processes a
value it reads, with the noise source, giving the processed value, the sensor after, and the
source after; a draw the source cannot make stops the program. -/
class SensorImpl (ς : Type) where
  prop : ς → String
  freq : ς → Nat
  process : ς → Random → Value → Except Panic (Value × ς × Random)

/-- How one of the library's sensors processes a value. -/
inductive SensorKind where
  /-- The value as it is. -/
  | exact
  /-- The value moved by noise drawn evenly from `[-spread, spread)`; no noise when the
  spread is zero. -/
  | noisy (spread : Float)
  deriving Inhabited

/-- One of the library's sensors, on one property. -/
structure Sensor where
  prop : String
  freq : Nat
  kind : SensorKind
  deriving Inhabited

/-- A noisy sensor keeps the magnitude of the noise it is given. -/
def Sensor.noisy (prop : String) (freq : Nat) (noise : Float) : Sensor := ⟨prop, freq, .noisy noise.abs⟩

/-- Processes one value; the library's sensors keep no state of their own. -/
def Sensor.process (s : Sensor) (rng : Random) (v : Value) : Except Panic (Value × Random) :=
  match s.kind with
  | .exact => .ok (v, rng)
  | .noisy spread =>
    if spread == 0.0 then .ok (v, rng)
    else (rng.uniform (-spread) spread).map fun (n, rng) => (v.offset n, rng)

instance : SensorImpl Sensor where
  prop s := s.prop
  freq s := s.freq
  process s rng v := (s.process rng v).map fun (x, rng) => (x, s, rng)

/-- Sensors by property, for a plant ticking at `plantFreq`, with the trigger table: one
slot per cycle below the tick rate, each listing the properties sampled on that cycle. -/
structure SensorBank (ς : Type) where
  plantFreq : Nat
  sensors : NameMap ς := {}
  triggers : Array (List String) := Array.replicate plantFreq []
  rng : Random := {}
  deriving Inhabited

namespace SensorBank

variable {ς : Type} [SensorImpl ς]

/-- The cycles a sensor fires on: from 0 in steps of the tick rate over its rate, below the
tick rate. A rate that does not divide the tick rate is never registered, so the step is
positive. -/
def cyclesOf (b : SensorBank ς) (s : ς) : List Nat :=
  let spacing := b.plantFreq / SensorImpl.freq s
  List.range' 0 ((b.plantFreq + spacing - 1) / spacing) spacing

/-- Rebuilds the trigger table: every slot is cleared, then each sensor, in byte order of its
property, is added at the end of the slot of each of its cycles. -/
def rebuild (b : SensorBank ς) : SensorBank ς :=
  let cleared := b.triggers.map fun _ => []
  { b with triggers := b.sensors.entries.foldl (fun t e =>
      (b.cyclesOf e.2).foldl (fun t c => t.modify c (· ++ [e.1])) t) cleared }

/-- Adds a sensor, replacing one on the same property, and rebuilds the trigger table; its
rate must be positive, at most the plant's, and divide it. -/
def register (b : SensorBank ς) (s : ς) : Except Fault (SensorBank ς) :=
  let f := SensorImpl.freq s
  if f = 0 ∨ f > b.plantFreq ∨ b.plantFreq % f ≠ 0 then
    .error (.incompatibleFrequency (SensorImpl.prop s) f b.plantFreq)
  else .ok { b with sensors := b.sensors.insert (SensorImpl.prop s) s }.rebuild

/-- The properties sampled on a cycle, as the trigger table lists them; none past the table. -/
def scheduled (b : SensorBank ς) (cycle : Nat) : List String := b.triggers[cycle]?.getD []

/-- Each property's sampling rate. -/
def rates (b : SensorBank ς) : NameMap Nat := b.sensors.map SensorImpl.freq

/-- Whether no sensor is registered. -/
def isEmpty (b : SensorBank ς) : Bool := b.sensors.isEmpty

/-- The cycle of a tick. -/
def cycleOf (b : SensorBank ς) (tick : Nat) : Nat := if b.plantFreq = 0 then 0 else tick % b.plantFreq

/-- Processes the scheduled properties in order, stopping at the first without a value; each
sensor that processes a value is kept as processing left it, and so is the noise source. -/
def collect (raw : PropMap) :
    List String → PropMap → SensorBank ς → Except Panic (Except String PropMap × PropMap × SensorBank ς)
  | [], acc, b => .ok (.ok acc, acc, b)
  | p :: rest, acc, b =>
    match raw.get? p, b.sensors.get? p with
    | some v, some s => do
      let (x, s, rng) ← SensorImpl.process s b.rng v
      collect raw rest (acc.insert p x) { b with sensors := b.sensors.insert p s, rng }
    | _, _ => .ok (.error p, acc, b)

/-- The record of a sample: the tick, then per sensor its raw and processed numbers. -/
def record (b : SensorBank ς) (tick : Nat) (raw samples : PropMap) : Record :=
  let num (m : PropMap) (p : String) := ((m.get? p).map Value.toFloat).getD Binary64.nan
  ⟨("plant_seq", Binary64.ofInt tick) :: (b.sensors.keys.map fun p =>
    [(p ++ "_value", num raw p), (p ++ "_sample", num samples p)]).flatten⟩

/-- Samples the raw values at a tick: the samples (none when no sensor is due), or the first
missing property; the record is made in both cases. A failed noise draw stops the sample. -/
def sample (b : SensorBank ς) (tick : Nat) (raw : PropMap) :
    Except Panic (Except Fault (Option PropMap) × SensorBank ς × Record) := do
  let due := b.scheduled (b.cycleOf tick)
  let (outcome, samples, b') ← collect raw due {} b
  let row := b.record tick raw samples
  match outcome with
  | .error p => pure (.error (.missingProperty p), b', row)
  | .ok s => pure (.ok (if due.isEmpty then none else some s), b', row)

end SensorBank

end ControlLoop

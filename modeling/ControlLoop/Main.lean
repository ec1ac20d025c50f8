import ControlLoop.Bench

namespace ControlLoop

/-! # The bench's command line

Options are read into bench settings: `--name value`, `--name=value`, or a one-letter form
`-x value` for the common ones; `-v` may be repeated. The session then runs; its files go to
the output directory, and its report is printed as one line of counts. A failed session
prints its reason and exits with status 1; bad options exit with status 2.
-/

namespace Cli

/-- What the command line asks for. -/
inductive Request where
  | run (s : Settings)
  | help

/-- The long name of a one-letter option. -/
def longName : String → Option String
  | "r" => some "tick-rate"
  | "s" => some "sensor-rate"
  | "t" => some "duration"
  | "c" => some "controller"
  | "o" => some "output-dir"
  | "v" => some "verbose"
  | "h" => some "help"
  | _ => none

/-- Options that stand alone, without a value. -/
def isSwitch (name : String) : Bool := name == "realtime" || name == "verbose" || name == "help"

/-- A whole number below a bound. -/
def unsigned (bits : Nat) (text : String) : Option Nat :=
  match text.toNat? with
  | some n => if n < 2 ^ bits then some n else none
  | none => none

/-- Sets one option that takes a value. -/
def assign (s : Settings) (name value : String) : Option Settings :=
  match name with
  | "tick-rate" => (unsigned 32 value).map fun v => { s with tickRate := v }
  | "sensor-rate" => (unsigned 32 value).map fun v => { s with sensorRate := v }
  | "noise" => (Decimal.readFloat? value).map fun v => { s with noise := v }
  | "duration" => (Decimal.readDouble? value).map fun v => { s with duration := some v }
  | "controller" => (SocketAddr.parse? value).map fun v => { s with controller := some v }
  | "class" => some { s with cls := value }
  | "bind" => (SocketAddr.parse? value).map fun v => { s with bind := v }
  | "output-dir" => some { s with outputDir := some value }
  | "blocking-threads" => (unsigned 64 value).map fun v => { s with blockingThreads := v }
  | "reply-delay-ms" => (unsigned 64 value).map fun v => { s with replyDelayMs := v }
  | "pin-core" => (unsigned 64 value).map fun v => { s with pinCore := some v }
  | _ => none

/-- The long names of the options. -/
def known (name : String) : Bool :=
  isSwitch name || ["tick-rate", "sensor-rate", "noise", "duration", "controller", "class", "bind",
    "output-dir", "blocking-threads", "reply-delay-ms", "pin-core"].contains name

/-- Splits an argument into an option name and the value written with it, if any. -/
def optionOf (arg : String) : Option (String × Option String) :=
  if arg.startsWith "--" then
    match (arg.drop 2).toString.splitOn "=" with
    | [name] => some (name, none)
    | name :: rest => some (name, some ("=".intercalate rest))
    | [] => none
  else if arg.startsWith "-" && arg.length == 2 then
    (longName (arg.drop 1).toString).map (·, none)
  else none

/-- Reads the arguments into a request. -/
def parse : List String → Settings → Except String Request
  | [], s => .ok (.run s)
  | arg :: rest, s =>
    match optionOf arg with
    | none => .error ("error: unexpected argument '" ++ arg ++ "' found")
    | some (name, inline) =>
      if !known name then .error ("error: unexpected argument '" ++ arg ++ "' found")
      else if name == "help" then .ok .help
      else if name == "verbose" || name == "realtime" then
        parse rest (if name == "realtime" then { s with realtime := true } else s)
      else
        let bad (v : String) : Except String Request :=
          .error ("error: invalid value '" ++ v ++ "' for '--" ++ name ++ "'")
        match inline, rest with
        | some v, more =>
          match assign s name v with
          | some s => parse more s
          | none => bad v
        | none, v :: more =>
          match assign s name v with
          | some s => parse more s
          | none => bad v
        | none, [] => .error ("error: a value is required for '--" ++ name ++ "' but none was supplied")

/-- The help text. -/
def usage : String :=
  "Tick a simulated plant and close the loop through a UDP controller\n\n" ++
  "Usage: bench [OPTIONS]\n\nOptions:\n" ++
  "  -r, --tick-rate <TICK_RATE>        [default: 100]\n" ++
  "  -s, --sensor-rate <SENSOR_RATE>    [default: 50]\n" ++
  "      --noise <NOISE>                [default: 0]\n" ++
  "  -t, --duration <DURATION>\n" ++
  "  -c, --controller <ADDR>\n" ++
  "      --class <CLASS>                [default: pid]\n" ++
  "      --bind <BIND>                  [default: 0.0.0.0:0]\n" ++
  "  -o, --output-dir <DIR>\n" ++
  "      --blocking-threads <N>         [default: 2]\n" ++
  "      --reply-delay-ms <MS>          [default: 0]\n" ++
  "      --realtime\n" ++
  "      --pin-core <PIN_CORE>\n" ++
  "  -v, --verbose...\n" ++
  "  -h, --help\n"

/-- The line of counts that ends a good session. -/
def reportLine (r : LoopReport) : String :=
  "ticks=" ++ toString r.ticks ++ " samples=" ++ toString r.samplesSent ++ " replies=" ++
    toString r.replies ++ " unanswered=" ++ toString r.unanswered

end Cli

end ControlLoop

/-- Runs the bench from the command line. -/
def main (args : List String) : IO UInt32 := do
  match ControlLoop.Cli.parse args {} with
  | .error msg =>
    IO.eprintln msg
    pure 2
  | .ok .help =>
    IO.println ControlLoop.Cli.usage
    pure 0
  | .ok (.run s) =>
    -- ticks are taken to last no time: the schedule is the ideal one
    match ControlLoop.Bench.session s (fun _ => 0) with
    | .error why =>
      IO.eprintln ("panicked: " ++ why)
      pure 101
    | .ok ses =>
      if let some dir := s.outputDir then
        IO.FS.createDirAll dir
        for (name, text) in ses.files do
          IO.FS.writeFile (dir ++ "/" ++ name) text
      match ses.outcome with
      | .ok r =>
        IO.println (ControlLoop.Cli.reportLine r)
        pure 0
      | .error e =>
        IO.eprintln ("Emulation failed: " ++ e.message)
        pure 1

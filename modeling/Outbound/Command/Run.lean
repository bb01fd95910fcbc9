import Outbound.Command.Help
import Outbound.Log.Directive
import Outbound.Settings.File
import Outbound.Stream.Run

namespace Outbound

/-- What a run of the program leaves behind. -/
structure Outcome where
  exitCode : Nat
  output : String
  /-- why the command failed -/
  error : Option String
  log : List LogRecord

namespace Outcome

def success (output : String) : Outcome := ⟨0, output, none, []⟩

def failure (error : String) : Outcome := ⟨1, "", some error, []⟩

/-- The program breaks off before it does anything. -/
def aborted : Outcome := ⟨101, "", none, []⟩

end Outcome

namespace Mark

def record? : Mark → Option LogRecord
  | logged r => some r
  | _ => none

end Mark

namespace Command

/-- The record that sums up a stream. -/
def summaryRecord (t : Tally) : LogRecord :=
  ⟨.info, "externalize::commands::route", "Routing complete",
    [("events", Nat.repr t.events), ("externalized", Nat.repr t.delivered)]⟩

def runRoute (settings : Settings) (log : LogFilter) (input : List UInt8) : Outcome :=
  let run := Stream.run settings log Writer.memory "" input
  let records := run.marks.filterMap Mark.record?
  match run.value with
  | (output, .error e) => ⟨1, output, some e.message, records⟩
  | (output, .ok tally) =>
    ⟨0, output, none,
      records ++ if log.keeps (summaryRecord tally) then [summaryRecord tally] else []⟩

/-- Runs a command over the files that it can read. -/
def run (files : String → FileContents) (standardInput : ByteArray) (log : LogFilter) :
    Command → Outcome
  | version =>
    .success (versionLine ++ "Event selection, mapping and routing for externalization\n")
  | check path =>
    match Settings.load path (files path) with
    | .error e => .failure e.message
    | .ok settings =>
      match settings.check with
      | .error e => .failure e.message
      | .ok text => .success text
  | route path input =>
    match Settings.load path (files path) with
    | .error e => .failure e.message
    | .ok settings =>
      match input with
      | none => runRoute settings log standardInput.toList
      | some inputPath =>
        match files inputPath with
        | .ok bytes => runRoute settings log bytes.toList
        | .error .isDirectory =>
          match settings.policy with
          | .error e => .failure e.message
          | .ok _ => .failure FileError.isDirectory.message
        | .error _ => .failure ("failed to open " ++ inputPath)

/-- The outcome of running the program with the given arguments. The wishes of the reader of the
log come first: unless a filter can be made of them, nothing else is looked at. -/
def outcome (files : String → FileContents) (standardInput : ByteArray) (wishes : String)
    (args : List String) : Outcome :=
  match LogFilter.ofText? wishes with
  | none => .aborted
  | some log =>
    match parse args with
    | .ok command => command.run files standardInput log
    | .error e => ⟨e.exitCode, e.output, none, []⟩

/-- The files that a command reads. -/
def paths : Command → List String
  | route settings input => settings :: input.toList
  | check settings => [settings]
  | version => []

/-- Whether a command reads events from standard input. -/
def readsStandardInput : Command → Bool
  | route _ none => true
  | _ => false

end Command

end Outbound

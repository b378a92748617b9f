import Runbook.Cli.Args
import Runbook.Config.Load
import Runbook.Run.Executor
import Runbook.Workflow.Load
import Runbook.Network
import Runbook.Capture.Listener
/-!
# Running the command line

A command first reads its arguments: a refusal exits with code 2, help and version print
and exit with 0. Then it loads the configuration and the workflow, in that order. A dry
run reports the workflow's shape and warns when it nests deeper than the configured
limit. Otherwise the workflow runs on the providers this build has: files, and mail that
cannot reach its server; pointer, keyboard, screen, spreadsheets and element lookup are
absent. When asked to capture, the command binds the element capture listener before the
run and stops it after, whatever the run's outcome. A run that succeeds prints a summary
and, when asked, writes a report of the run as JSON; both count the elements captured.
Any failure prints the error and its causes and exits with 1.

The report holds the run's identifier and times, which come from a `RunStamp`: they are
the only parts of the command's effect that the inputs do not decide.
-/

namespace Runbook.Cli

open Json

/-- What a command leaves: exit code, standard output and error, and the files. -/
structure Finish where
  code : Nat
  stdout : String
  stderr : String
  files : FileStore

/-- Indents the lines of a cause: the first after its prefix, later ones to line up. -/
def indentCause (numbered : Option Nat) (text : String) : String :=
  let first := match numbered with
    | some n => String.ofList (List.replicate (5 - (toString n).length) ' ') ++ toString n ++ ": "
    | none => "    "
  let later := if numbered.isSome then "       " else "    "
  first ++ "\n".intercalate ((text.splitOn "\n").zipIdx.map fun (line, i) =>
    if i = 0 then line else later ++ line)

/-- An error and its causes as standard error shows them: one cause indented, several
numbered from 0. -/
def errorText : List String → String
  | [] => "Error: \n"
  | [top] => "Error: " ++ top ++ "\n"
  | [top, cause] => "Error: " ++ top ++ "\n\nCaused by:\n" ++ indentCause none cause ++ "\n"
  | top :: causes =>
    "Error: " ++ top ++ "\n\nCaused by:" ++
      String.join (causes.zipIdx.map fun (c, i) => "\n" ++ indentCause (some i) c) ++ "\n"

/-- The providers of this build on a host's network: mail fails when it cannot connect
to its server. -/
def nativeBench (net : Network) : Bench :=
  { absent := fun
      | .desktop | .screen =>
        some "built without the `desktop` feature; rebuild with --features desktop"
      | .spreadsheets => some "built without the `excel` feature; rebuild with --features excel"
      | .elements => some "native UI element lookup is not supported on this platform"
      | .mail => none
    refusal := fun e _ => match e with
      | .mail _ => net.connectError?.map ("Connection error: " ++ ·)
      | _ => none }

/-- The identifier and time of a run. -/
structure RunStamp where
  runId : String := "00000000-0000-0000-0000-000000000000"
  time : String := "1970-01-01T00:00:00Z"

/-- What a host does for the element capture listener. -/
structure CaptureHost where
  /-- Why binding the listener's host and port fails, in the system's words; `none` when
  it binds. -/
  bindError? : Option String := none
  /-- The port the system assigns when the listener asks for port 0. -/
  assigned : Nat := 0
  /-- The connections browser pages open, and the frames they send, while the run goes on. -/
  events : List Capture.Event := []

/-- The host a command runs on: its clock and identifiers, its network, the user's
account, and what reaches the element capture listener. -/
structure Host where
  stamp : RunStamp := {}
  network : Network := .isolated
  /-- The home directory the account database gives the user. -/
  account : Option String := none
  capture : CaptureHost := {}

/-- Starts the element capture listener at the configured host and port, or gives the
error chain of a bind that fails. -/
def startCapture (host : CaptureHost) (config : CaptureConfig) :
    Except (List String) Capture.Listener :=
  match host.bindError? with
  | some e => .error ["Failed to start element capture listener", "IO error: " ++ e, e]
  | none => .ok (Capture.Listener.create config.host config.port host.assigned).start

/-- The elements a started listener holds once the pages' events have reached it and it
has stopped. -/
def captured (host : CaptureHost) (listener : Capture.Listener) : List Value :=
  ((listener.run host.events).stop).snapshot

/-- A span of time of zero length, as the report writes one. -/
def zeroDuration : Value := .object [("nanos", nat 0), ("secs", nat 0)]

/-- The report of a run that succeeded, with the elements captured beside it when there
are any. -/
def report (stamp : RunStamp) (w : Workflow) (records : List StepRecord)
    (trace : List TraceEntry) (elements : List Value) : Value :=
  let timed (v : Value) (more : List (String × Value)) : Value :=
    match v with
    | .object fs => Value.ofFields (fs ++ more)
    | other => other
  Value.ofFields ([
    ("workflow_name", str w.displayName),
    ("run_id", str stamp.runId),
    ("start_time", str stamp.time),
    ("end_time", str stamp.time),
    ("duration", zeroDuration),
    ("steps", .array (records.map fun r => timed (r.toValue "Success")
      [("start_time", str stamp.time), ("end_time", str stamp.time), ("duration", zeroDuration)])),
    ("trace", .array (trace.map fun e => timed e.toValue [("entered_at", str stamp.time)]))] ++
    if elements.isEmpty then [] else [("captured_elements", .array elements)])

/-- The summary of a run that succeeded, counting the elements captured when there are
any. -/
def summary (w : Workflow) (records : List StepRecord) (captured : Nat) : String :=
  "Workflow '" ++ w.displayName ++ "' completed: " ++ toString records.length ++
    " root steps succeeded\n" ++
    String.join (records.map fun r =>
      "  [" ++ toString r.index ++ "] " ++ r.kind.tag ++ ": " ++ r.outcome.render ++ "\n") ++
    if captured > 0 then "  Captured elements: " ++ toString captured ++ "\n" else ""

/-- The report of a dry run: the workflow's shape, and a warning when it nests deeper
than the limit. -/
def validation (w : Workflow) (limit : Nat) : String :=
  "✓ Workflow '" ++ w.displayName ++ "' is valid\n" ++
    "  Root steps: " ++ toString w.length ++ "\n" ++
    "  Total steps: " ++ toString w.totalSteps ++ "\n" ++
    "  Nesting depth: " ++ toString w.maxDepth ++ "\n" ++
    (if w.maxDepth > limit then
      "  Warning: nesting exceeds the configured limit of " ++ toString limit ++ "\n"
    else "")

/-- A failure: the error report on standard error, exit code 1. -/
def failure (files : FileStore) (chain : List String) : Finish := ⟨1, "", errorText chain, files⟩

/-- Runs a workflow as the invocation asks. -/
def execute (host : Host) (inv : Invocation) (config : Config) (w : Workflow)
    (files : FileStore) : Finish :=
  if inv.dryRun then ⟨0, validation w config.engine.maxDepth, "", files⟩
  else
    let listener : Except (List String) (Option Capture.Listener) :=
      if inv.capture then (startCapture host.capture config.capture).map some else .ok none
    match listener with
    | .error chain => failure files chain
    | .ok listener =>
      let runner : Runner := { bench := nativeBench host.network, settings := config.settings }
      let (result, trail) := runner.run w { files := files }
      let files := trail.desk.files
      let elements := (listener.map (captured host.capture)).getD []
      match result with
      | .error e =>
        failure files (("Workflow '" ++ w.displayName ++ "' failed after entering " ++
          toString trail.trace.size ++ " steps") :: e.message :: e.causes)
      | .ok records =>
        let text := (report host.stamp w records trail.trace.toList elements).pretty
        match inv.output with
        | none => ⟨0, summary w records elements.length, "", files⟩
        | some out =>
          match files.write out (Content.ofText text) with
          | .ok files => ⟨0, summary w records elements.length, "", files⟩
          | .error e => failure files ["Failed to write output file '" ++ out ++ "'", e.message]

/-- Runs a command line on files and an environment. -/
def runCommand (host : Host) (env : Environment) (files : FileStore) (args : List String) :
    Finish :=
  match parseArgs args with
  | .error e => ⟨2, "", e.render, files⟩
  | .ok .help => ⟨0, helpText, "", files⟩
  | .ok .version => ⟨0, versionText, "", files⟩
  | .ok (.run inv) =>
    match Config.load files env host.account inv.config with
    | .error e => failure files e.chain
    | .ok config =>
      match Workflow.ofFile files inv.workflow with
      | .error e =>
        failure files (("Failed to load workflow " ++ inv.workflow) :: e.message :: e.cause?.toList)
      | .ok w => execute host inv config w files

end Runbook.Cli

import Runbook.Text.Blank
/-!
# The command line

The program takes one optional workflow path (`workflow.json` when left out) and the
options `-v` or `--verbose`, `-c` or `--config <CONFIG>`, `--no-color`, `--dry-run`,
`-o` or `--output <OUTPUT>`, `--capture`, `-h` or `--help`, and `-V` or `--version`.

Arguments are read left to right. Short flags may be grouped (`-vo out`) and a short
option may carry its value (`-oout`, `-o=out`); a long option takes its value after `=`
or as the next argument. After `--` every argument is a value. A value is taken by the
option waiting for one, else by the workflow slot. An option's value is checked only when
the next option starts, at `--`, or when the arguments end, so a missing or empty value,
or a repeated option, is reported then; an unknown argument is reported at once. Help and
version answer at once, unless an earlier option still lacks its value.

An unknown long option is matched against the known ones by Jaro similarity: above 0.7
the most similar is suggested, a later one winning a tie. The usage line of the refusal
then shows the arguments taken so far and the suggested one. A value given to a flag
shows that flag alone, unless an argument was taken before, when it shows the group of
all the arguments a run takes.
-/

namespace Runbook.Cli

/-- The arguments the command line knows, in the order the help lists them. -/
inductive ArgName where
  | workflow
  | verbose
  | config
  | noColor
  | dryRun
  | output
  | capture
  | help
  | version
  deriving Repr, DecidableEq

namespace ArgName

/-- The long name of an option. -/
def long? : ArgName → Option String
  | .workflow => none
  | .verbose => some "verbose"
  | .config => some "config"
  | .noColor => some "no-color"
  | .dryRun => some "dry-run"
  | .output => some "output"
  | .capture => some "capture"
  | .help => some "help"
  | .version => some "version"

/-- The short name of an option. -/
def short? : ArgName → Option Char
  | .verbose => some 'v'
  | .config => some 'c'
  | .output => some 'o'
  | .help => some 'h'
  | .version => some 'V'
  | _ => none

/-- Whether an option takes a value. -/
def takesValue : ArgName → Bool
  | .config | .output => true
  | _ => false

/-- The placeholder of an option's value. -/
def placeholder : ArgName → String
  | .config => "CONFIG"
  | .output => "OUTPUT"
  | _ => "WORKFLOW"

/-- An argument as messages name it: `--output <OUTPUT>`, `--verbose`, `[WORKFLOW]`. -/
def display (a : ArgName) : String :=
  match a.long? with
  | none => "[" ++ a.placeholder ++ "]"
  | some l => "--" ++ l ++ (if a.takesValue then " <" ++ a.placeholder ++ ">" else "")

/-- An argument as a usage line lists one that was given: the workflow in angle brackets. -/
def usageForm (a : ArgName) : String :=
  match a.long? with
  | none => "<" ++ a.placeholder ++ ">"
  | some _ => a.display

end ArgName

/-- The options, in the order they are declared. -/
def optionNames : List ArgName :=
  [.verbose, .config, .noColor, .dryRun, .output, .capture, .help, .version]

/-- The option with a long name. -/
def ofLong? (name : String) : Option ArgName := optionNames.find? (·.long? == some name)

/-- The option with a short name. -/
def ofShort? (c : Char) : Option ArgName := optionNames.find? (·.short? == some c)

/-- What an invocation asks for. -/
structure Invocation where
  workflow : String := "workflow.json"
  verbose : Bool := false
  config : Option String := none
  noColor : Bool := false
  dryRun : Bool := false
  output : Option String := none
  capture : Bool := false
  deriving Repr, DecidableEq

/-- What the command line asks for: a run, the help text or the version. -/
inductive Request where
  | run (i : Invocation)
  | help
  | version
  deriving Repr, DecidableEq

/-- What the usage line of a refusal shows. -/
inductive Usage where
  /-- The general usage, as the help gives it. -/
  | general
  /-- The arguments given, options first, then the workflow slot. -/
  | given (used : List ArgName)
  /-- The group of all the arguments a run takes, one of which must be given. -/
  | group
  deriving Repr, DecidableEq

/-- The usage line that shows the arguments given, or the general one when there are
none. -/
def Usage.ofGiven (used : List ArgName) : Usage := if used.isEmpty then .general else .given used

/-- Why the command line was refused. -/
inductive ArgError where
  /-- An argument that is not known, with a suggested option, whether to hint at `--`,
  and the usage line to show. -/
  | unknown (arg : String) (suggestion : Option String) (hint : Bool) (usage : Usage)
  | missingValue (a : ArgName)
  | repeated (a : ArgName)
  /-- A value given to a flag. -/
  | unwantedValue (value : String) (a : ArgName) (usage : Usage)
  deriving Repr, DecidableEq

/-- The arguments of a run, in the order they are declared: the workflow, then the
options other than help and version. -/
def runArgs : List ArgName := [.workflow, .verbose, .config, .noColor, .dryRun, .output, .capture]

/-- The usage line. Given arguments show options first, each once, then the workflow slot,
in angle brackets when it was given and in square brackets when not. The group lists its
members between angle brackets, the workflow by its bare placeholder. -/
def Usage.line : Usage → String
  | .general => "Usage: stepflow [OPTIONS] [WORKFLOW]"
  | .given used =>
    let opts := (used.filter (· != .workflow)).eraseDups
    let slot := if used.contains .workflow then ArgName.workflow.usageForm else ArgName.workflow.display
    "Usage: stepflow" ++ String.join (opts.map fun a => " " ++ a.usageForm) ++ " " ++ slot
  | .group =>
    let names := runArgs.map fun a => if a == .workflow then a.placeholder else a.display
    "Usage: stepflow <" ++ "|".intercalate names ++ ">"

/-- The closing line of every refusal. -/
def helpHint : String := "For more information, try '--help'.\n"

/-- The text of a refusal. -/
def ArgError.render : ArgError → String
  | .unknown arg suggestion hint usage =>
    let tip := match suggestion with
      | some s => "  tip: a similar argument exists: '" ++ s ++ "'\n\n"
      | none => if hint then "  tip: to pass '" ++ arg ++ "' as a value, use '-- " ++ arg ++ "'\n\n" else ""
    "error: unexpected argument '" ++ arg ++ "' found\n\n" ++ tip ++ usage.line ++ "\n\n" ++ helpHint
  | .missingValue a =>
    "error: a value is required for '" ++ a.display ++ "' but none was supplied\n\n" ++ helpHint
  | .repeated a =>
    "error: the argument '" ++ a.display ++ "' cannot be used multiple times\n\n" ++
      Usage.general.line ++ "\n\n" ++ helpHint
  | .unwantedValue v a usage =>
    "error: unexpected value '" ++ v ++ "' for '" ++ a.display ++ "' found; no more were expected\n\n" ++
      usage.line ++ "\n\n" ++ helpHint

/-- The help text. -/
def helpText : String :=
  "Run JSON-described desktop automation workflows\n\n" ++
  "Usage: stepflow [OPTIONS] [WORKFLOW]\n\n" ++
  "Arguments:\n" ++
  "  [WORKFLOW]  Path to workflow JSON file [default: workflow.json]\n\n" ++
  "Options:\n" ++
  "  -v, --verbose          Enable verbose output\n" ++
  "  -c, --config <CONFIG>  Path to configuration file\n" ++
  "      --no-color         Disable colored output\n" ++
  "      --dry-run          Dry run - load and check the workflow without executing\n" ++
  "  -o, --output <OUTPUT>  Write the run result as JSON to this file\n" ++
  "      --capture          Collect browser element captures while the workflow runs\n" ++
  "  -h, --help             Print help\n" ++
  "  -V, --version          Print version\n"

/-- The version text. -/
def versionText : String := "stepflow 0.1.0\n"

/-! ## Similarity of option names -/

/-- The characters of `a` that match in `b` within the Jaro window, in order of `a`, and
which characters of `b` they matched. -/
def jaroMatches (a b : List Char) : List Char × List Bool :=
  let window := max a.length b.length / 2 - 1
  let bs := b.toArray
  let step (acc : List Char × Array Bool) (p : Char × Nat) : List Char × Array Bool :=
    let (matched, flags) := acc
    let (c, i) := p
    let lo := i - window
    let hi := min b.length (i + window + 1)
    match (List.range' lo (hi - lo)).find? (fun j => bs[j]? == some c && flags[j]? == some false) with
    | some j => (c :: matched, flags.setIfInBounds j true)
    | none => (matched, flags)
  let (matched, flags) := a.zipIdx.foldl step ([], Array.replicate b.length false)
  (matched.reverse, flags.toList)

/-- The Jaro similarity of two names, computed in floating point. -/
def jaro (a b : List Char) : Float :=
  if a.isEmpty && b.isEmpty then 1.0
  else if a.isEmpty || b.isEmpty then 0.0
  else
    let (fromA, flags) := jaroMatches a b
    let fromB := (b.zip flags).filterMap fun (c, f) => if f then some c else none
    let m := fromA.length
    if m == 0 then 0.0
    else
      let t := ((fromA.zip fromB).filter fun (x, y) => x != y).length / 2
      let mf := Float.ofNat m
      (mf / Float.ofNat a.length + mf / Float.ofNat b.length + Float.ofNat (m - t) / mf) / 3.0

/-- The known long option most similar to a name, above 0.7; a later one wins a tie. -/
def suggestion? (name : String) : Option ArgName :=
  let scored := optionNames.filterMap fun a =>
    a.long?.bind fun l =>
      let s := jaro name.toList l.toList
      if s > 0.7 then some (a, s) else none
  let best := scored.foldl (fun acc p => match acc with
    | some q => if p.2 ≥ q.2 then some p else some q
    | none => some p) none
  best.map Prod.fst

/-! ## Reading the arguments -/

/-- The state of reading: what was given so far, the arguments given in order, an
argument waiting with its values, whether the workflow slot is taken, and whether `--`
was seen. -/
structure Reading where
  invocation : Invocation := {}
  given : List ArgName := []
  pending : Option (ArgName × List String) := none
  positional : Bool := false
  trailing : Bool := false

/-- Records a flag. -/
def Invocation.setFlag (i : Invocation) : ArgName → Invocation
  | .verbose => { i with verbose := true }
  | .noColor => { i with noColor := true }
  | .dryRun => { i with dryRun := true }
  | .capture => { i with capture := true }
  | _ => i

/-- Records a value. -/
def Invocation.setValue (i : Invocation) (v : String) : ArgName → Invocation
  | .config => { i with config := some v }
  | .output => { i with output := some v }
  | .workflow => { i with workflow := v }
  | _ => i

/-- Takes a value for an argument: it must be new and not empty. -/
def Reading.store (r : Reading) (a : ArgName) (v : String) : Except ArgError Reading :=
  if r.given.contains a then .error (.repeated a)
  else if v.isEmpty then .error (.missingValue a)
  else .ok { r with invocation := r.invocation.setValue v a, given := r.given ++ [a] }

/-- Settles the argument that waits: it needs its value. -/
def Reading.settle (r : Reading) : Except ArgError Reading :=
  match r.pending with
  | none => .ok r
  | some (a, []) => .error (.missingValue a)
  | some (a, v :: _) => { r with pending := none }.store a v

/-- Settles what waits before an unknown argument is reported, where a failure is not
reported: an argument still lacking its value is dropped, one given twice is forgotten
altogether, and one with an empty value counts as given. -/
def Reading.settleQuietly (r : Reading) : Reading :=
  match r.pending with
  | none => r
  | some (_, []) => { r with pending := none }
  | some (a, v :: _) =>
    if r.given.contains a then { r with pending := none, given := r.given.erase a }
    else { r with pending := none, invocation := r.invocation.setValue v a, given := r.given ++ [a] }

/-- What reading one argument leads to: go on, or stop with an answer. -/
inductive Step where
  | next (r : Reading)
  | done (q : Request)
  | refuse (e : ArgError)

/-- Acts on an option, after settling what waits; `value` is a value given with it. -/
def Reading.act (r : Reading) (a : ArgName) (value : Option String) : Step :=
  match r.settle with
  | .error e => .refuse e
  | .ok r =>
    match a with
    | .help => .done .help
    | .version => .done .version
    | _ =>
      if a.takesValue then
        match value with
        | some v => match r.store a v with
          | .ok r => .next r
          | .error e => .refuse e
        | none => .next { r with pending := some (a, []) }
      else if r.given.contains a then .refuse (.repeated a)
      else .next { r with invocation := r.invocation.setFlag a, given := r.given ++ [a] }

/-- Reads a group of short flags after `-`. -/
def Reading.shortFlags (r : Reading) : List Char → Step
  | [] => .next r
  | c :: rest =>
    match ofShort? c with
    | none => .refuse (.unknown ("-" ++ String.singleton c) none true .general)
    | some a =>
      if a.takesValue then
        let value := match rest with
          | [] => none
          | '=' :: v => some (String.ofList v)
          | v => some (String.ofList v)
        r.act a value
      else
        match r.act a none with
        | .next r => r.shortFlags rest
        | other => other

/-- Reads a long option after `--`, with a value after `=` if any. -/
def Reading.longOption (r : Reading) (body : String) : Step :=
  let (name, value) := match body.toList.span (· != '=') with
    | (n, []) => (String.ofList n, none)
    | (n, _ :: v) => (String.ofList n, some (String.ofList v))
  match ofLong? name with
  | some a =>
    if a.takesValue then r.act a value
    else match value with
      | some v =>
        .refuse (.unwantedValue v a (if r.given.isEmpty then .given [a] else .group))
      | none => r.act a none
  | none =>
    let r := r.settleQuietly
    match suggestion? name with
    | some s =>
      let used := if r.given.contains s then r.given else r.given ++ [s]
      .refuse (.unknown ("--" ++ name) (some ("--" ++ ((s.long?).getD ""))) false (.given used))
    | none => .refuse (.unknown ("--" ++ name) none true (Usage.ofGiven r.given))

/-- Reads a value: for the option that waits for one, else for the workflow slot. -/
def Reading.value (r : Reading) (v : String) : Step :=
  match r.pending with
  | some (a, []) => .next { r with pending := some (a, [v]) }
  | _ =>
    if r.positional then .refuse (.unknown v none false .general)
    else
      match r.settle with
      | .ok r => .next { r with pending := some (.workflow, [v]), positional := true }
      | .error e => .refuse e

/-- Reads one argument. -/
def Reading.read (r : Reading) (arg : String) : Step :=
  if r.trailing then r.value arg
  else
    match arg.toList with
    | ['-', '-'] =>
      match r.settle with
      | .ok r => .next { r with trailing := true }
      | .error e => .refuse e
    | '-' :: '-' :: body => r.longOption (String.ofList body)
    | '-' :: c :: rest => r.shortFlags (c :: rest)
    | _ => r.value arg

/-- Reads all arguments. -/
def Reading.readAll (r : Reading) : List String → Except ArgError Request
  | [] =>
    match r.settle with
    | .ok r => .ok (.run r.invocation)
    | .error e => .error e
  | a :: rest =>
    match r.read a with
    | .next r => r.readAll rest
    | .done q => .ok q
    | .refuse e => .error e

/-- Reads a command line, the program's name left out. -/
def parseArgs (args : List String) : Except ArgError Request := Reading.readAll {} args

end Runbook.Cli

import Runbook.Config.Decode
/-!
# Finding and loading the configuration

The configuration is read from the path given, or else from the first of
`stepflow.yaml`, `stepflow.yml`, `.stepflow.yaml`, `.stepflow.yml` in the working
directory, or else from `.stepflow/config.yaml` in the home directory: `HOME` when it is
set and not empty, or else the user's entry in the account database. When there is no such
file, the defaults hold. Environment variables then override single fields, in a
fixed order, the first bad number stopping the load.
-/

namespace Runbook

open Yaml

/-- Environment variables by name. -/
abbrev Environment := List (String × String)

/-- Why the configuration could not be loaded. -/
inductive ConfigError where
  | unreadable (path : String) (e : FileError)
  | invalid (path : String) (e : DecodeError)
  | badVariable (name value : String) (e : Numeral.IntError)
  deriving Repr

/-- The error and its causes, outermost first. -/
def ConfigError.chain : ConfigError → List String
  | .unreadable p e => ["Failed to read config file " ++ p, e.message]
  | .invalid p e => ["Invalid config file " ++ p, e.message]
  | .badVariable n v e => ["Invalid " ++ n ++ " '" ++ v ++ "'", e.message]

/-- The error with its causes, joined by colons. -/
def ConfigError.message (e : ConfigError) : String := ": ".intercalate e.chain

/-- The configuration file in the home directory. -/
def homeConfigPath (home : String) : String :=
  (if home.endsWith "/" then home else home ++ "/") ++ ".stepflow/config.yaml"

/-- The home directory: `HOME` when it is set and not empty, or else the directory the
account database gives the user, when that is not empty. -/
def homeDir (env : Environment) (account : Option String) : Option String :=
  ((env.lookup "HOME").filter (!·.isEmpty)).or (account.filter (!·.isEmpty))

/-- Where the configuration is looked for when no path is given, in order, for the home
directory found. -/
def configCandidates (home : Option String) : List String :=
  ["stepflow.yaml", "stepflow.yml", ".stepflow.yaml", ".stepflow.yml"] ++
    home.toList.map homeConfigPath

/-- The configuration file to read: the path given, or the first candidate present. -/
def configPath (fs : FileStore) (home : Option String) : Option String → Option String
  | some p => some p
  | none => (configCandidates home).find? fs.present

/-- Reads the configuration file at a path; a path with nothing there gives the
defaults. -/
def Config.ofFile (fs : FileStore) (path : String) : Except ConfigError Config :=
  if !fs.present path then .ok {}
  else match fs.read path with
    | .error e => .error (.unreadable path e)
    | .ok content =>
      match content.text? with
      | none => .error (.unreadable path .notUtf8)
      | some text =>
        match Config.ofYaml text with
        | .ok c => .ok c
        | .error e => .error (.invalid path e)

/-- Reads a number from a variable, within `[0, hi]`. -/
def readVariable (name value : String) (hi : Nat) : Except ConfigError Nat :=
  match Numeral.readInteger 0 hi value with
  | .ok n => .ok n.toNat
  | .error e => .error (.badVariable name value e)

/-- Applies the environment's overrides in order: log level and format, depth, mail
server, port and sender, capture host and port. -/
def Config.withEnvironment (c : Config) (env : Environment) : Except ConfigError Config := do
  let var (name : String) := env.lookup name
  let c := match var "STEPFLOW_LOG_LEVEL" with
    | some v => { c with logging := { c.logging with level := v } }
    | none => c
  let c := match var "STEPFLOW_LOG_FORMAT" with
    | some v => { c with logging := { c.logging with format := v } }
    | none => c
  let c ← match var "STEPFLOW_MAX_DEPTH" with
    | some v => do
      let d ← readVariable "STEPFLOW_MAX_DEPTH" v (Nat.pow 2 64 - 1)
      pure { c with engine := { maxDepth := d } }
    | none => pure c
  let c := match var "SMTP_SERVER" with
    | some v => { c with smtp := { c.smtp with server := some v } }
    | none => c
  let c ← match var "SMTP_PORT" with
    | some v => do
      let p ← readVariable "SMTP_PORT" v 65535
      pure { c with smtp := { c.smtp with port := p } }
    | none => pure c
  let c := match var "SMTP_FROM" with
    | some v => { c with smtp := { c.smtp with fromAddr := some v } }
    | none => c
  let c := match var "STEPFLOW_CAPTURE_HOST" with
    | some v => { c with capture := { c.capture with host := v } }
    | none => c
  match var "STEPFLOW_CAPTURE_PORT" with
  | some v => do
    let p ← readVariable "STEPFLOW_CAPTURE_PORT" v 65535
    pure { c with capture := { c.capture with port := p } }
  | none => pure c

/-- Loads the configuration: from the file found, then with the environment's
overrides. `account` is the home directory the account database gives the user. -/
def Config.load (fs : FileStore) (env : Environment) (account : Option String)
    (path : Option String) : Except ConfigError Config := do
  let c ← match configPath fs (homeDir env account) path with
    | some p => Config.ofFile fs p
    | none => pure {}
  c.withEnvironment env

end Runbook

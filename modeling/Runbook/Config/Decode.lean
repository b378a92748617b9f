import Runbook.Config.Basic
import Runbook.Yaml.Document
/-!
# Reading a configuration from a YAML document

A section is a mapping. Its entries are taken in document order: an entry whose key
names a field sets that field, a key named twice is an error, and other entries are
skipped whatever they hold. A section given as an empty plain scalar (`engine:` with no
value) keeps its defaults, and a text with no document gives the default configuration.
An alias is read as the node its anchor names.

Texts take any scalar as written. Optional texts are absent for an empty plain scalar and
the null words; a plain scalar tagged `!!null` must be a null word. Ports and the depth
take a plain scalar, whatever its tag, or a literal block scalar tagged `!!int`, that reads
as a non-negative integer within range: a larger one is an invalid value, anything else an
invalid type.

An error names the keys leading to the value, what was wrong with it, and where it
begins; an error that belongs to a mapping rather than one of its values (a key named
twice) is placed at the mapping. Decoding comes first: a document read only in part is
an error once the decoding is done with it, and so is a second document.

Each decoder reads the node at a position among the document's events and gives the value
with the position after the node.
-/

namespace Runbook.Yaml

/-- Why a text does not describe a configuration. -/
inductive DecodeError where
  /-- The text could not be read as far as the decoding needed. -/
  | unreadable (e : ReadError)
  /-- A value does not fit: the keys leading to it, what is wrong, and where it begins. -/
  | mismatch (path : List String) (message : String) (mark : Mark)
  /-- A problem of a mapping's entries, not yet placed at the mapping. -/
  | unplaced (message : String)
  /-- The text holds more than one document. -/
  | severalDocuments
  deriving Repr

/-- The wording of a decoding error: the key path unless at the root, the message, and the
place unless at the very start. -/
def DecodeError.message : DecodeError → String
  | .unreadable e => e.message
  | .mismatch path message mark =>
    (if path.isEmpty then "" else ".".intercalate path ++ ": ") ++ message ++
      (if mark.isStart then "" else " at " ++ mark.render)
  | .unplaced message => message
  | .severalDocuments =>
    "deserializing from YAML containing more than one document is not supported"

/-- Places a problem of a mapping's entries at the mapping. -/
def DecodeError.place (path : List String) (mark : Mark) : DecodeError → DecodeError
  | .unplaced message => .mismatch path message mark
  | e => e

/-- The event at a position; past the events read, the error that stopped the reading. -/
def Document.pieceAt (d : Document) (pos : Nat) : Except DecodeError (Piece × Mark) :=
  match d.pieces[pos]? with
  | some pm => .ok pm
  | none => .error (.unreadable (d.failure.getD .endOfStream))

/-- Where the node at a position is read: at the event its alias names, if it is an
alias. -/
def Document.resolve (d : Document) (pos : Nat) : Nat :=
  match d.pieces[pos]? with
  | some (.alias id, _) => (d.anchored.lookup id).getD pos
  | _ => pos

/-- The position after the node at `pos`, which is skipped whatever it holds; `depth`
counts the collections open. -/
def Document.skipFrom (d : Document) (pos depth : Nat) : Nat → Except DecodeError Nat
  | 0 => .error (.unreadable .endOfStream)
  | n + 1 => do
    let (p, _) ← d.pieceAt pos
    match p with
    | .sequenceStart | .mappingStart => d.skipFrom (pos + 1) (depth + 1) n
    | .sequenceEnd | .mappingEnd =>
      if depth ≤ 1 then pure (pos + 1) else d.skipFrom (pos + 1) (depth - 1) n
    | _ => if depth == 0 then pure (pos + 1) else d.skipFrom (pos + 1) depth n

/-- The position after the node at `pos`. -/
def Document.skipNode (d : Document) (pos : Nat) : Except DecodeError Nat :=
  d.skipFrom pos 0 (d.pieces.size + 1)

/-- The error of a node of the wrong kind where `expected` was expected. -/
def Piece.mismatch (p : Piece) (path : List String) (mark : Mark) (expected : String) :
    DecodeError :=
  match p with
  | .scalar tag text style => .mismatch path (scalarMismatch tag text style expected) mark
  | .sequenceStart => .mismatch path ("invalid type: sequence, expected " ++ expected) mark
  | .mappingStart => .mismatch path ("invalid type: map, expected " ++ expected) mark
  | _ => .unreadable .endOfStream

/-- A text: any scalar, as written. -/
def decodeText (d : Document) (path : List String) (expected : String) (pos : Nat) :
    Except DecodeError (String × Nat) := do
  let (p, mark) ← d.pieceAt (d.resolve pos)
  match p with
  | .scalar _ text _ => pure (text, pos + 1)
  | _ => throw (p.mismatch path mark expected)

/-- Whether an optional value is there: a collection or a scalar that is not written
plain is; a plain scalar is not when it is empty or a null word, and when tagged `!!null`
it must be a null word. -/
def optionPresent : Piece → Except DecodeError Bool
  | .scalar tag text style =>
    if style != .plain then .ok true
    else match tag with
      | some t =>
        if t == nullTag then
          if isNullWord text then .ok false
          else .error (.unplaced ("invalid value: string " ++ Text.debugQuote text ++ ", expected null"))
        else .ok true
      | none => .ok (!text.isEmpty && !isNullWord text)
  | .void => .ok false
  | _ => .ok true

/-- An optional text. -/
def decodeOptionalText (d : Document) (path : List String) (pos : Nat) :
    Except DecodeError (Option String × Nat) := do
  let (p, _) ← d.pieceAt (d.resolve pos)
  if ← optionPresent p then
    let (t, after) ← decodeText d path "a string" pos
    pure (some t, after)
  else pure (none, pos + 1)

/-- A non-negative integer of a named type with largest value `hi`, written as a plain
scalar whatever its tag, or as a literal block scalar tagged `!!int`. -/
def decodeUnsigned (d : Document) (path : List String) (typeName : String) (hi : Nat)
    (pos : Nat) : Except DecodeError (Nat × Nat) := do
  let (p, mark) ← d.pieceAt (d.resolve pos)
  let read : Option Nat := match p with
    | .scalar _ text .plain => readUnsigned? ((Nat.pow 2 64 : Int) - 1) text
    | .scalar (some t) text .literal =>
      if t == intTag then readUnsigned? ((Nat.pow 2 64 : Int) - 1) text else none
    | _ => none
  match read with
  | some n =>
    if n ≤ hi then pure (n, pos + 1)
    else throw (.mismatch path ("invalid value: integer `" ++ toString n ++ "`, expected " ++ typeName) mark)
  | none => throw (p.mismatch path mark typeName)

/-- A port number. -/
def decodePort (d : Document) (path : List String) (pos : Nat) : Except DecodeError (Nat × Nat) :=
  decodeUnsigned d path "u16" 65535 pos

/-- Reads the entries of a mapping from `pos` up to its end, starting from `acc`. A key
in `fields` is handed with its value to `setField`, once at most; other entries are
skipped. The path of a value adds its key, or `?` for a key that is not a scalar. -/
def decodeEntries {α : Type} (d : Document) (path : List String) (fields : List String)
    (setField : String → α → List String → Nat → Except DecodeError (α × Nat)) (acc : α) (seen : List String)
    (pos : Nat) : Nat → Except DecodeError (α × Nat)
  | 0 => throw (.unreadable .endOfStream)
  | n + 1 => do
    let (p, _) ← d.pieceAt pos
    match p with
    | .mappingEnd | .void => pure (acc, pos + 1)
    | _ =>
      let (key, valuePos) ← decodeText d path "field identifier" pos
      let valuePath := path ++ [match p with
        | .scalar _ text _ => text
        | _ => "?"]
      if fields.contains key then
        if seen.contains key then throw (.unplaced ("duplicate field `" ++ key ++ "`"))
        let (acc, after) ← setField key acc valuePath valuePos
        decodeEntries d path fields setField acc (key :: seen) after n
      else
        let after ← d.skipNode valuePos
        decodeEntries d path fields setField acc seen after n

/-- Decodes a section named `name` with fields `fields`, starting from `init`. -/
def decodeSection {α : Type} (d : Document) (path : List String) (name : String)
    (fields : List String) (init : α) (setField : String → α → List String → Nat → Except DecodeError (α × Nat))
    (pos : Nat) : Except DecodeError (α × Nat) := do
  let target := d.resolve pos
  let (p, mark) ← d.pieceAt target
  match p with
  | .mappingStart =>
    match decodeEntries d path fields setField init [] (target + 1) (d.pieces.size + 1) with
    | .ok (a, after) => pure (a, if target == pos then after else pos + 1)
    | .error e => throw (e.place path mark)
  | .void => pure (init, pos + 1)
  | .scalar _ "" .plain => pure (init, pos + 1)
  | _ => throw (p.mismatch path mark ("struct " ++ name))

/-- The logging section. -/
def decodeLogging (d : Document) (path : List String) : Nat → Except DecodeError (LoggingConfig × Nat) :=
  decodeSection d path "LoggingConfig" ["level", "format"] {} fun key c vpath pos =>
    match key with
    | "level" => (decodeText d vpath "a string" pos).map fun (t, n) => ({ c with level := t }, n)
    | _ => (decodeText d vpath "a string" pos).map fun (t, n) => ({ c with format := t }, n)

/-- The mail section. -/
def decodeSmtp (d : Document) (path : List String) : Nat → Except DecodeError (SmtpConfig × Nat) :=
  decodeSection d path "SmtpConfig" ["server", "port", "from_addr"] {} fun key c vpath pos =>
    match key with
    | "server" => (decodeOptionalText d vpath pos).map fun (t, n) => ({ c with server := t }, n)
    | "port" => (decodePort d vpath pos).map fun (p, n) => ({ c with port := p }, n)
    | _ => (decodeOptionalText d vpath pos).map fun (t, n) => ({ c with fromAddr := t }, n)

/-- The engine section. -/
def decodeEngine (d : Document) (path : List String) : Nat → Except DecodeError (EngineConfig × Nat) :=
  decodeSection d path "EngineConfig" ["max_depth"] {} fun _ c vpath pos =>
    (decodeUnsigned d vpath "usize" (Nat.pow 2 64 - 1) pos).map fun (m, n) =>
      ({ c with maxDepth := m }, n)

/-- The element capture section. -/
def decodeCapture (d : Document) (path : List String) : Nat → Except DecodeError (CaptureConfig × Nat) :=
  decodeSection d path "CaptureConfig" ["host", "port"] {} fun key c vpath pos =>
    match key with
    | "host" => (decodeText d vpath "a string" pos).map fun (t, n) => ({ c with host := t }, n)
    | _ => (decodePort d vpath pos).map fun (p, n) => ({ c with port := p }, n)

/-- The whole configuration from a document's first node. -/
def decodeConfig (d : Document) : Except DecodeError (Config × Nat) :=
  decodeSection d [] "Config" ["logging", "smtp", "engine", "capture"] {} (fun key c vpath pos =>
    match key with
    | "logging" => (decodeLogging d vpath pos).map fun (s, n) => ({ c with logging := s }, n)
    | "smtp" => (decodeSmtp d vpath pos).map fun (s, n) => ({ c with smtp := s }, n)
    | "engine" => (decodeEngine d vpath pos).map fun (s, n) => ({ c with engine := s }, n)
    | _ => (decodeCapture d vpath pos).map fun (s, n) => ({ c with capture := s }, n)) 0

end Runbook.Yaml

namespace Runbook

open Yaml

/-- Reads a configuration from YAML text. A decoding error comes first; then an error that
stopped the reading of the document, then a second document. -/
def Config.ofYaml (s : String) : Except DecodeError Config :=
  let loaded := Loaded.ofString s
  match decodeConfig loaded.document with
  | .error e => .error e
  | .ok (c, _) =>
    match loaded.document.failure with
    | some e => .error (.unreadable e)
    | none => if loaded.more then .error .severalDocuments else .ok c

end Runbook

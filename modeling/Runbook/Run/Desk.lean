import Runbook.Run.Fault
import Runbook.Sheet.CellValue
import Runbook.Files.Store
/-!
# The desk a workflow runs against

A run reaches the outside world through six providers: pointer and keyboard control
(`desktop`), screen capture (`screen`), files, spreadsheets, mail and element lookup. A
`Bench` says how each provider answers: absent for a reason (every call fails with
`unavailable` and leaves no trace), or present, in which case every call is written to
the desk's event log first and then either fails with the message the bench gives it or
does its work. What a present provider gives, a failure, the pointer's place, the element
found or the screen's size, may depend on the desk the call is made on. Files are always
present and work on the desk's file store; waiting advances the desk's clock.
-/

namespace Runbook

open Sheet

/-- A rectangle on the screen, as element lookup reports it. -/
structure Bounds where
  left : Int
  top : Int
  right : Int
  bottom : Int
  deriving Repr, DecidableEq

/-- Wraps an integer into the signed 32-bit range, as 32-bit arithmetic does. -/
def wrap32 (n : Int) : Int := (n + (Nat.pow 2 31 : Int)) % (Nat.pow 2 32 : Int) - (Nat.pow 2 31 : Int)

/-- The middle of a rectangle, each coordinate halved toward zero in 32-bit arithmetic. -/
def Bounds.center (b : Bounds) : Int × Int :=
  ((wrap32 (b.left + b.right)).tdiv 2, (wrap32 (b.top + b.bottom)).tdiv 2)

/-- A message to send by mail. -/
structure Mail where
  smtpServer : String
  fromAddr : String
  toAddr : String
  subject : String
  body : String
  deriving Repr, DecidableEq

/-- A call made to a provider, as the event log records it. -/
inductive Event where
  | click (position : Option (Int × Int))
  | type (text : String)
  | cursor
  | capture
  | read (path : String)
  | write (path : String) (size : Nat)
  | openWorkbook (path : String)
  | setCell (sheet : Option String) (cell : String) (value : CellValue)
  | saveWorkbook
  | mail (m : Mail)
  | locate (query : List (String × String))

/-- The name of an event, by which a bench makes it fail. -/
def Event.name : Event → String
  | .click _ => "click"
  | .type _ => "type"
  | .cursor => "cursor"
  | .capture => "capture"
  | .read _ => "read"
  | .write .. => "write"
  | .openWorkbook _ => "open_workbook"
  | .setCell .. => "set_cell"
  | .saveWorkbook => "save_workbook"
  | .mail _ => "mail"
  | .locate _ => "locate"

/-- The capability an event belongs to, as faults name it. -/
def Event.capability : Event → String
  | .click _ => "pointer control"
  | .type _ => "keyboard control"
  | .cursor => "pointer control"
  | .capture => "screen capture"
  | .read _ => "file store"
  | .write .. => "file store"
  | .openWorkbook _ => "spreadsheet store"
  | .setCell .. => "spreadsheet store"
  | .saveWorkbook => "spreadsheet store"
  | .mail _ => "mail transport"
  | .locate _ => "element lookup"

open Json in
/-- An event as an object named by `event`. -/
def Event.toValue (e : Event) : Value :=
  let fields : List (String × Value) := match e with
    | .click p => [("position", opt (fun (x, y) => .array [int x, int y]) p)]
    | .type t => [("text", str t)]
    | .read p => [("path", str p)]
    | .write p n => [("path", str p), ("size", nat n)]
    | .openWorkbook p => [("path", str p)]
    | .setCell s c v => [("sheet", opt str s), ("cell", str c), ("value", v.toValue)]
    | .mail m => [("smtp_server", str m.smtpServer), ("from_addr", str m.fromAddr),
        ("to_addr", str m.toAddr), ("subject", str m.subject), ("body", str m.body)]
    | .locate q => [("query", .object (q.map fun (k, v) => (k, str v)))]
    | _ => []
  Value.ofFields (("event", str e.name) :: fields)

/-- The providers a bench can leave out. -/
inductive Provider where
  | desktop
  | screen
  | spreadsheets
  | mail
  | elements
  deriving Repr, DecidableEq

/-- The provider that answers an event; file events have none, files being always there. -/
def Event.provider? : Event → Option Provider
  | .click _ | .type _ | .cursor => some .desktop
  | .capture => some .screen
  | .read _ | .write .. => none
  | .openWorkbook _ | .setCell .. | .saveWorkbook => some .spreadsheets
  | .mail _ => some .mail
  | .locate _ => some .elements

/-- The state a run changes: the files, the event log and the clock. -/
structure Desk where
  files : FileStore := FileStore.empty
  events : Array Event := #[]
  elapsed : Nat := 0

/-- The desk with a call logged. -/
def Desk.log (desk : Desk) (e : Event) : Desk := { desk with events := desk.events.push e }

/-- How the providers of a run answer. A provider is absent or present for the whole run;
a present one answers each call as it likes, given the desk the call is made on: its
files, its clock and every call logged before. The fields' defaults are a bench where every
provider is present and every call goes through. -/
structure Bench where
  /-- Why a provider is absent, if it is. -/
  absent : Provider → Option String := fun _ => none
  /-- The message a present provider fails a call with, `none` when the call goes through. -/
  refusal : Event → Desk → Option String := fun _ _ => none
  /-- Where the pointer is. -/
  cursor : Desk → Int × Int := fun _ => (0, 0)
  /-- What element lookup finds for a query. -/
  bounds : List (String × String) → Desk → Bounds := fun _ _ => ⟨100, 200, 140, 220⟩
  /-- Width and height of a captured screen. -/
  screen : Desk → Nat × Nat := fun _ => (4, 3)

/-- Makes a call: absent providers refuse it without a trace; present ones log it, then
fail if the bench refuses it on the desk it was made on. -/
def Bench.call (bench : Bench) (e : Event) (desk : Desk) : Except Fault Unit × Desk :=
  match e.provider?.bind bench.absent with
  | some reason => (.error (.unavailable e.capability reason), desk)
  | none =>
    match bench.refusal e desk with
    | some message => (.error (.failed e.capability message), desk.log e)
    | none => (.ok (), desk.log e)

end Runbook

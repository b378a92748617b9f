import Runbook.Run.Desk
import Runbook.Run.Trace
import Runbook.Params.Lenient
import Runbook.Condition
import Runbook.Sheet.CellRef
import Runbook.Files.Image
/-!
# What each kind of step does

The rules for the steps that hold no other steps. Each reads its parameters first, in the
order of their keys (the first bad one is reported as parameter `payload`), checks what
it requires, and only then calls providers, in a fixed order, stopping at the first call
that fails:

* click: locate the element when `element` is given, else ask for the pointer when only
  one of `x`, `y` is given; then click;
* input: type `text`;
* screenshot: capture, then save the picture at `path` (`screenshot.png` when blank);
* file_copy: read `src`, then write `dst`;
* excel_write: open the workbook at `path`, set `cell`, save;
* notify: send mail when `email` is not blank;
* wait: advance the clock by `seconds`;
* condition: evaluate, with no provider.
-/

namespace Runbook

open Json Sheet Params

/-- The work of a step on the desk: a result or a fault, and the desk after it. -/
abbrev Work := ExceptT Fault (StateM Desk)

/-- Settings a run takes from its configuration. -/
structure Settings where
  maxDepth : Nat := 64
  smtpServer : String := "localhost"
  fromAddr : String := "stepflow@localhost"
  deriving Repr

/-- What a step that succeeded produced. -/
inductive Outcome where
  | completed
  | evaluated (b : Bool)
  deriving Repr, DecidableEq

/-- An outcome as an object. -/
def Outcome.toValue : Outcome → Value
  | .completed => .object [("kind", str "completed")]
  | .evaluated b => .object [("kind", str "evaluated"), ("value", .bool b)]

/-- An outcome in words. -/
def Outcome.render : Outcome → String
  | .completed => "completed"
  | .evaluated b => "evaluated " ++ (if b then "true" else "false")

/-- The truth value an outcome carries. -/
def Outcome.asBool? : Outcome → Option Bool
  | .completed => none
  | .evaluated b => some b

/-- Makes a provider call. -/
def Bench.work (bench : Bench) (e : Event) : Work Unit := ExceptT.mk fun desk => bench.call e desk

/-- Makes a provider call that answers with a value: the one the bench gives on the desk the
call is made on. -/
def Bench.ask {α : Type} (bench : Bench) (e : Event) (answer : Desk → α) : Work α := do
  let desk ← get
  bench.work e
  pure (answer desk)

/-- Fails with a fault. -/
def Work.fail {α : Type} (f : Fault) : Work α := throw f

/-- Reads one parameter with a lenient reader; a refusal is a bad `payload`. -/
def readParam {α : Type} (kind : StepKind) (params : Params) (key : String)
    (reader : Value → Except String (Option α)) : Work (Option α) :=
  match reader ((params.lookup key).getD .null) with
  | .ok v => pure v
  | .error m => throw (.invalidParameter kind "payload" m)

/-- A text parameter that must be present and not blank. -/
def required (kind : StepKind) (name : String) : Option String → Work String
  | some s => if Text.isBlankText s then throw (.missingParameter kind name) else pure s
  | none => throw (.missingParameter kind name)

/-- The least and greatest screen coordinates. -/
def coordinateRange : Int × Int := (-(Nat.pow 2 31 : Int), (Nat.pow 2 31 : Int) - 1)

/-- A screen coordinate, which must fit 32 bits. -/
def coordinate (name : String) (v : Int) : Work Int :=
  if coordinateRange.1 ≤ v ∧ v ≤ coordinateRange.2 then pure v
  else throw (.invalidParameter .click name (toString v ++ " is out of range for a screen coordinate"))

/-- Clicks at an element, at given coordinates, or where the pointer is. -/
def clickStep (bench : Bench) (params : Params) : Work Outcome := do
  let element ← readParam .click params "element" textMap
  let x ← readParam .click params "x" lenientInt
  let y ← readParam .click params "y" lenientInt
  let position ← match element, x, y with
    | some query, _, _ => do
      let found ← bench.ask (.locate query) (bench.bounds query)
      pure (some found.center)
    | none, none, none => pure none
    | none, some x, some y => do
      let cx ← coordinate "x" x
      let cy ← coordinate "y" y
      pure (some (cx, cy))
    | none, x, y => do
      let cursor ← bench.ask .cursor bench.cursor
      let cx ← match x with
        | some v => coordinate "x" v
        | none => pure cursor.1
      let cy ← match y with
        | some v => coordinate "y" v
        | none => pure cursor.2
      pure (some (cx, cy))
  bench.work (.click position)
  pure .completed

/-- Types a text. -/
def inputStep (bench : Bench) (params : Params) : Work Outcome := do
  let text ← readParam .input params "text" lenientString
  bench.work (.type (text.getD ""))
  pure .completed

/-- The color of every pixel of the captured screen, as red, green, blue and alpha. -/
def screenColor : List UInt8 := [10, 20, 30, 255]

/-- Captures the screen and saves the picture. -/
def screenshotStep (bench : Bench) (params : Params) : Work Outcome := do
  let path ← readParam .screenshot params "path" lenientString
  let path := (nonBlank path).getD "screenshot.png"
  let (w, h) ← bench.ask .capture bench.screen
  let pic : Raster := ⟨w, h, .rgba, List.replicate h (List.replicate w screenColor).flatten⟩
  let desk ← get
  let (saved, files) := desk.files.savePicture path pic
  set { desk with files := files }
  match saved with
  | .ok _ => pure .completed
  | .error m => throw (.failed "screen capture" ("cannot save " ++ path ++ ": " ++ m))

/-- The size in bytes of a file's content. -/
def Content.size : Content → Nat
  | .bytes data => data.length

/-- Copies a file. -/
def fileCopyStep (bench : Bench) (params : Params) : Work Outcome := do
  let dst ← readParam .fileCopy params "dst" lenientString
  let src ← readParam .fileCopy params "src" lenientString
  let src ← required .fileCopy "src" src
  let dst ← required .fileCopy "dst" dst
  bench.work (.read src)
  let desk ← get
  let content ← match desk.files.read src with
    | .ok c => pure c
    | .error e => throw (.io e)
  bench.work (.write dst content.size)
  let desk ← get
  match desk.files.write dst content with
  | .ok files => set { desk with files := files }
  | .error e => throw (.io e)
  pure .completed

/-- Writes a value into a workbook cell. -/
def excelWriteStep (bench : Bench) (params : Params) : Work Outcome := do
  let cell ← readParam .excelWrite params "cell" lenientString
  let path ← readParam .excelWrite params "path" lenientString
  let sheet ← readParam .excelWrite params "sheet" lenientString
  let value := (params.lookup "value").getD .null
  let path ← required .excelWrite "path" path
  let cell ← required .excelWrite "cell" cell
  if (parseCell cell).isNone then
    throw (.invalidParameter .excelWrite "cell" ("'" ++ cell ++ "' is not an A1 cell reference"))
  bench.work (.openWorkbook path)
  bench.work (.setCell (nonBlank sheet) cell (CellValue.ofValue value))
  bench.work .saveWorkbook
  pure .completed

/-- The mail a notification sends, if it has a recipient. -/
def notifyMail (settings : Settings) (email fromAddr message smtpServer subject : Option String) :
    Option Mail :=
  (nonBlank email).map fun recipient =>
    { smtpServer := (nonBlank smtpServer).getD settings.smtpServer
      fromAddr := (nonBlank fromAddr).getD settings.fromAddr
      toAddr := recipient
      subject := (nonBlank subject).getD "Notification"
      body := message.getD "" }

/-- Sends a notification by mail when it has a recipient. -/
def notifyStep (bench : Bench) (settings : Settings) (params : Params) : Work Outcome := do
  let email ← readParam .notify params "email" lenientString
  let fromAddr ← readParam .notify params "from_addr" lenientString
  let message ← readParam .notify params "message" lenientString
  let smtpServer ← readParam .notify params "smtp_server" lenientString
  let subject ← readParam .notify params "subject" lenientString
  match notifyMail settings email fromAddr message smtpServer subject with
  | some m => bench.work (.mail m)
  | none => pure ()
  pure .completed

/-- The longest one wait advances the clock: thirty years of 365 days, the farthest
deadline the timer sets; a longer wait ends there. -/
def longestWait : Nat := 86400 * 365 * 30

/-- Waits, advancing the clock by the seconds asked for, at most `longestWait`. -/
def waitStep (params : Params) : Work Outcome := do
  let seconds ← readParam .wait params "seconds" lenientInt
  modify fun desk => { desk with elapsed := desk.elapsed + min (nonNegative seconds) longestWait }
  pure .completed

/-- Evaluates a condition. -/
def conditionStep (params : Params) : Work Outcome :=
  match Condition.evaluate params with
  | .ok b => pure (.evaluated b)
  | .error f => throw f

/-- The number of iterations of a loop. -/
def loopCount (params : Params) : Work Nat := do
  let count ← readParam .loop params "count" lenientInt
  pure (nonNegative count)

/-- The work of a step that holds no other steps. -/
def leafStep (bench : Bench) (settings : Settings) : StepKind → Params → Work Outcome
  | .click, p => clickStep bench p
  | .input, p => inputStep bench p
  | .screenshot, p => screenshotStep bench p
  | .fileCopy, p => fileCopyStep bench p
  | .excelWrite, p => excelWriteStep bench p
  | .condition, p => conditionStep p
  | .wait, p => waitStep p
  | .notify, p => notifyStep bench settings p
  | .loop, p => do let _ ← loopCount p; pure .completed

end Runbook

import Runbook.Yaml.Token.Stream
/-!
# YAML events

The tokens of a text are read as a stream of events: a stream holds documents, a document
holds one node, and a node is an alias, a scalar, or a sequence or mapping given by a start
event, its entries, and an end event. Each event carries the place where it begins.

The reader of events is a state machine: its phase says what may come next, and a stack
of phases says where to go on after the node being read. A stack of places keeps where
each open collection began, for the errors about it. Tags are resolved against the
`%TAG` directives of the document and the two default handles `!` and `!!`.
-/

namespace Runbook.Yaml

/-- An event of a YAML stream. -/
inductive Event where
  | streamStart
  | streamEnd
  | documentStart
  | documentEnd
  | alias (name : String)
  | scalar (anchor tag : Option String) (text : String) (style : Style)
  | sequenceStart (anchor tag : Option String)
  | sequenceEnd
  | mappingStart (anchor tag : Option String)
  | mappingEnd
  deriving Repr

/-- The empty plain scalar that stands for a node left out. -/
def Event.empty : Event := .scalar none none "" .plain

/-- What the reader of events expects next. -/
inductive Phase where
  | streamStart
  | implicitDocumentStart
  | documentStart
  | documentContent
  | documentEnd
  | blockNode
  | flowNode
  | blockSequenceFirstEntry
  | blockSequenceEntry
  | indentlessSequenceEntry
  | blockMappingFirstKey
  | blockMappingKey
  | blockMappingValue
  | flowSequenceFirstEntry
  | flowSequenceEntry
  | flowSequenceEntryMappingKey
  | flowSequenceEntryMappingValue
  | flowSequenceEntryMappingEnd
  | flowMappingFirstKey
  | flowMappingKey
  | flowMappingValue
  | flowMappingEmptyValue
  | finished
  deriving Repr, DecidableEq

/-- The state of reading events. -/
structure Parsing where
  scanning : Scanning
  phase : Phase := .streamStart
  /-- Where to go on after the node being read, innermost first. -/
  phases : List Phase := []
  /-- Where each open collection began, innermost first. -/
  marks : List Mark := []
  /-- The tag handles of the document and their prefixes. -/
  handles : List (String × String) := []

/-- The state at the start of a text. -/
def Parsing.ofString (s : String) : Parsing := { scanning := Scanning.ofString s }

/-- A step of reading events. -/
abbrev Parse := StateT Parsing (Except ReadError)

namespace Parse

/-- Runs a step of cutting tokens. -/
def onTokens {α : Type} (m : Scan α) : Parse α := do
  let p ← get
  match m.run p.scanning with
  | .ok (a, s) =>
    set { p with scanning := s }
    pure a
  | .error e => StateT.lift (.error e)

/-- The next token. -/
def peek : Parse Token := onTokens Scan.peekToken

/-- Hands on the next token. -/
def skip : Parse Unit := onTokens Scan.skipToken

/-- The number of characters left, a bound on the tokens still to come. -/
def fuel : Parse Nat := return (← get).scanning.left + 2

/-- Sets what comes next. -/
def setPhase (ph : Phase) : Parse Unit := modify fun p => { p with phase := ph }

/-- Remembers where to go on after the node about to be read. -/
def pushPhase (ph : Phase) : Parse Unit := modify fun p => { p with phases := ph :: p.phases }

/-- Goes on where the enclosing node left off. -/
def popPhase : Parse Unit :=
  modify fun p => { p with phase := p.phases.headD .finished, phases := p.phases.drop 1 }

/-- Remembers where a collection began. -/
def pushMark (m : Mark) : Parse Unit := modify fun p => { p with marks := m :: p.marks }

/-- Forgets where the innermost collection began, and tells it. -/
def popMark : Parse Mark := do
  let p ← get
  set { p with marks := p.marks.drop 1 }
  pure (p.marks.headD Mark.start)

/-- Fails with a problem at a place, found while reading a construct. -/
def failAt {α : Type} (problem : String) (m : Mark) (context : Option (String × Mark)) :
    Parse α :=
  throw (.malformed problem m context)

end Parse

end Runbook.Yaml

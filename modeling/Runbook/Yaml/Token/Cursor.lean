import Runbook.Yaml.Token
/-!
# The state of cutting a text into tokens

Cutting a text into tokens walks it character by character. Besides the place, the state
keeps the tokens cut but not yet handed on, the indentation of each open block
collection, how deep the flow collections nest, and, per flow level, where a key without
`?` may have begun: such a candidate stays open until a `:` shows it is a key, or the
line ends or more than 1024 bytes pass, after which it is none. A candidate at the
indentation of its block mapping must be a key.

Tabs count as blanks inside flow collections, and in block context only where no key may
begin: never as indentation.
-/

namespace Runbook.Yaml

/-- Where a key written without `?` may have begun. -/
structure KeyCandidate where
  possible : Bool
  required : Bool
  /-- The number of the token that would follow the key token. -/
  number : Nat
  mark : Mark
  deriving Repr

/-- The state of cutting a text into tokens. -/
structure Scanning where
  /-- The characters not yet read. -/
  rest : List Char
  /-- How many characters are not yet read; it bounds every loop of the reader. -/
  left : Nat
  mark : Mark
  /-- Tokens cut and not yet handed on, oldest first. -/
  queue : List Token := []
  /-- How many tokens were handed on. -/
  taken : Nat := 0
  /-- Whether the oldest queued token may be handed on as it is. -/
  ready : Bool := false
  started : Bool := false
  /-- The indentation of the innermost block collection, `-1` outside all. -/
  indent : Int := -1
  indents : List Int := []
  /-- Whether a key may begin here. -/
  keyAllowed : Bool := false
  /-- The key candidates, innermost flow level first. -/
  candidates : List KeyCandidate := []
  flowLevel : Nat := 0
  deriving Repr

/-- A step of cutting a text into tokens. -/
abbrev Scan := StateT Scanning (Except ReadError)

/-- Line breaks: carriage return, line feed, next line, line and paragraph separators. -/
def isBreakChar (c : Char) : Bool :=
  c == '\r' || c == '\n' || c.toNat == 0x85 || c.toNat == 0x2028 || c.toNat == 0x2029

/-- Blanks: space and tab. -/
def isBlankChar (c : Char) : Bool := c == ' ' || c == '\t'

/-- The characters of anchor names and tag handles: ASCII letters, digits, `_` and `-`. -/
def isWordChar (c : Char) : Bool := c.isAlphanum || c == '_' || c == '-'

/-- Whether a character looked at is `c`. -/
def isChar (c : Char) : Option Char → Bool
  | some d => d == c
  | none => false

/-- Whether a character looked at is a blank. -/
def blankAt : Option Char → Bool
  | some c => isBlankChar c
  | none => false

/-- Whether a character looked at is a line break. -/
def breakAt : Option Char → Bool
  | some c => isBreakChar c
  | none => false

/-- Whether a character looked at is a blank, a line break, or the end of the text. -/
def blankOrEnd : Option Char → Bool
  | some c => isBlankChar c || isBreakChar c
  | none => true

/-- Whether a character looked at is a line break or the end of the text. -/
def breakOrEnd : Option Char → Bool
  | some c => isBreakChar c
  | none => true

/-- Whether a character looked at is one of `cs`. -/
def oneOf (cs : List Char) : Option Char → Bool
  | some c => cs.contains c
  | none => false

/-- Whether the characters start with a document marker `---` or `...` followed by a
blank, a line break or the end. -/
def markerAhead : List Char → Bool
  | c1 :: c2 :: c3 :: rest =>
    ((c1 == '-' && c2 == '-' && c3 == '-') || (c1 == '.' && c2 == '.' && c3 == '.')) &&
      blankOrEnd rest.head?
  | _ => false

namespace Scan

/-- The character `k` places ahead. -/
def peekAt (k : Nat) : Scan (Option Char) := return (← get).rest[k]?

/-- The current place. -/
def here : Scan Mark := return (← get).mark

/-- A bound on the steps of a loop over the characters left. -/
def fuel : Scan Nat := return (← get).left + 1

/-- Fails with a problem at the current place. -/
def fail {α : Type} (problem : String) (context : Option (String × Mark)) : Scan α := do
  throw (.malformed problem (← here) context)

/-- Moves past one character that is not a line break. The index counts bytes of the
text's UTF-8 encoding, the column characters. -/
def advance : Scan Unit := modify fun s =>
  match s.rest with
  | [] => s
  | c :: r =>
    { s with rest := r, left := s.left - 1,
             mark := { s.mark with index := s.mark.index + c.utf8Size, column := s.mark.column + 1 } }

/-- Moves past `n` characters that are not line breaks. -/
def advanceBy : Nat → Scan Unit
  | 0 => pure ()
  | n + 1 => do advance; advanceBy n

/-- Moves past a line break; a carriage return and line feed pair is one. -/
def advanceBreak : Scan Unit := modify fun s =>
  match s.rest with
  | '\r' :: '\n' :: r =>
    { s with rest := r, left := s.left - 2, mark := ⟨s.mark.index + 2, s.mark.line + 1, 0⟩ }
  | c :: r =>
    if isBreakChar c then
      { s with rest := r, left := s.left - 1, mark := ⟨s.mark.index + c.utf8Size, s.mark.line + 1, 0⟩ }
    else s
  | [] => s

/-- Reads a line break as a scalar keeps it: line and paragraph separators stay, every other
break becomes a line feed. -/
def readBreak : Scan Char := do
  let c ← peekAt 0
  advanceBreak
  pure (match c with
    | some c => if c.toNat == 0x2028 || c.toNat == 0x2029 then c else '\n'
    | none => '\n')

/-- Moves past characters while `p` holds of the next one. -/
def skipWhile (p : Option Char → Bool) : Nat → Scan Unit
  | 0 => pure ()
  | n + 1 => do
    if p (← peekAt 0) then
      advance
      skipWhile p n

/-- Reads characters while `p` holds of the next one, onto `acc` (reversed). -/
def readWhile (p : Char → Bool) (acc : List Char) : Nat → Scan (List Char)
  | 0 => pure acc
  | n + 1 => do
    match ← peekAt 0 with
    | some c =>
      if p c then
        advance
        readWhile p (c :: acc) n
      else pure acc
    | none => pure acc

/-- Queues a token. -/
def emit (t : Token) : Scan Unit := modify fun s => { s with queue := s.queue ++ [t] }

/-- Queues a token at a position among the queued ones. -/
def emitAt (i : Nat) (t : Token) : Scan Unit :=
  modify fun s => { s with queue := s.queue.insertIdx i t }

/-- Sets whether a key may begin here. -/
def allowKey (b : Bool) : Scan Unit := modify fun s => { s with keyAllowed := b }

/-- The error of a key candidate that must be a key and is not. -/
def keyMissing (k : KeyCandidate) (m : Mark) : ReadError :=
  .malformed "could not find expected ':'" m (some ("while scanning a simple key", k.mark))

/-- Closes the candidates left behind by the end of a line or more than 1024 bytes,
outermost first. -/
def closeStale : Scan Unit := do
  let s ← get
  let check (k : KeyCandidate) : Except ReadError KeyCandidate :=
    if k.possible && (k.mark.line < s.mark.line || k.mark.index + 1024 < s.mark.index) then
      if k.required then .error (keyMissing k s.mark) else .ok { k with possible := false }
    else .ok k
  match s.candidates.reverse.mapM check with
  | .ok ks => set { s with candidates := ks.reverse }
  | .error e => throw e

/-- Closes the candidate of the current flow level. -/
def closeCandidate : Scan Unit := do
  let s ← get
  match s.candidates with
  | k :: r =>
    if k.possible && k.required then throw (keyMissing k s.mark)
    set { s with candidates := { k with possible := false } :: r }
  | [] => pure ()

/-- Opens a candidate here, if a key may begin here. -/
def openCandidate : Scan Unit := do
  let s ← get
  if s.keyAllowed then
    let k : KeyCandidate :=
      ⟨true, s.flowLevel == 0 && s.indent == (s.mark.column : Int), s.taken + s.queue.length, s.mark⟩
    closeCandidate
    modify fun s => { s with candidates := k :: s.candidates.drop 1 }

/-- Closes block collections indented more than `column`, one end token each. -/
def unroll (column : Int) : Nat → Scan Unit
  | 0 => pure ()
  | n + 1 => do
    let s ← get
    if s.flowLevel == 0 && s.indent > column then
      emit ⟨.blockEnd, s.mark, s.mark⟩
      modify fun s => { s with indent := s.indents.headD (-1), indents := s.indents.drop 1 }
      unroll column n

/-- Closes every block collection indented more than `column`. -/
def unrollTo (column : Int) : Scan Unit := do unroll column ((← get).indents.length + 1)

/-- Opens a block collection at `column` when it is indented more than the current one,
with a start token placed after the queued tokens or before token `number`. -/
def roll (column : Int) (number : Option Nat) (kind : TokenKind) (m : Mark) : Scan Unit := do
  let s ← get
  if s.flowLevel == 0 && s.indent < column then
    set { s with indents := s.indent :: s.indents, indent := column }
    match number with
    | none => emit ⟨kind, m, m⟩
    | some n => emitAt (n - s.taken) ⟨kind, m, m⟩

/-- Enters a flow collection, with a fresh candidate. -/
def enterFlow : Scan Unit := modify fun s =>
  { s with candidates := ⟨false, false, 0, Mark.start⟩ :: s.candidates, flowLevel := s.flowLevel + 1 }

/-- Leaves a flow collection. -/
def leaveFlow : Scan Unit := modify fun s =>
  if s.flowLevel > 0 then { s with flowLevel := s.flowLevel - 1, candidates := s.candidates.drop 1 }
  else s

/-- Moves to the next token past blanks, comments and line breaks; in block context a new
line lets a key begin. -/
def toNextToken : Nat → Scan Unit
  | 0 => pure ()
  | n + 1 => do
    if (← here).column == 0 && isChar (Char.ofNat 0xFEFF) (← peekAt 0) then advance
    let s ← get
    let tabs := s.flowLevel > 0 || !s.keyAllowed
    skipWhile (fun c => isChar ' ' c || (tabs && isChar '\t' c)) (← fuel)
    if isChar '#' (← peekAt 0) then skipWhile (fun c => !breakOrEnd c) (← fuel)
    if breakAt (← peekAt 0) then
      advanceBreak
      if (← get).flowLevel == 0 then allowKey true
      toNextToken n

end Scan

end Runbook.Yaml

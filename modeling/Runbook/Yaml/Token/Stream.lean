import Runbook.Yaml.Token.Text
/-!
# The token stream

Tokens are cut on demand. Before a token is handed on, cutting goes on while the queue is
empty or a key candidate still points at the oldest queued token: only the `:` after a
key, or the end of its line, tells whether a key token (and a block mapping start) must
go in front of it.

What the next token is follows from its first character: `%` and `---` and `...` at the
start of a line, the flow indicators `[]{},`, the block indicators `-`, `?` and `:` when a
blank follows (in flow context `?` and `:` always), `*`, `&`, `!`, block scalars in block
context, quotes, and otherwise a plain scalar unless the character is an indicator that
cannot start one.
-/

namespace Runbook.Yaml

/-- The state at the start of a text; a byte order mark in front is dropped. -/
def Scanning.ofString (s : String) : Scanning :=
  let rest := match s.toList with
    | c :: cs => if c.toNat == 0xFEFF then cs else c :: cs
    | [] => []
  { rest, left := rest.length, mark := Mark.start }

namespace Scan

/-- Queues a one-character token. -/
def punctuation (kind : TokenKind) : Scan Unit := do
  let start ← here
  advance
  emit ⟨kind, start, ← here⟩

/-- Starts the stream: no indentation, and a key may begin. -/
def streamStart : Scan Unit := do
  modify fun s =>
    { s with indent := -1, candidates := [⟨false, false, 0, Mark.start⟩], keyAllowed := true,
             started := true }
  let m ← here
  emit ⟨.streamStart, m, m⟩

/-- Ends the stream on a line of its own, closing every block collection. -/
def streamEnd : Scan Unit := do
  modify fun s =>
    if s.mark.column != 0 then { s with mark := { s.mark with column := 0, line := s.mark.line + 1 } }
    else s
  unrollTo (-1)
  closeCandidate
  allowKey false
  let m ← here
  emit ⟨.streamEnd, m, m⟩

/-- A directive line, closing every block collection. -/
def directiveLine : Scan Unit := do
  unrollTo (-1)
  closeCandidate
  allowKey false
  emit (← directive)

/-- A document marker `---` or `...`, closing every block collection. -/
def documentMarker (kind : TokenKind) : Scan Unit := do
  unrollTo (-1)
  closeCandidate
  allowKey false
  let start ← here
  advanceBy 3
  emit ⟨kind, start, ← here⟩

/-- `[` or `{`: may be a key itself, and a key may follow. -/
def flowStart (kind : TokenKind) : Scan Unit := do
  openCandidate
  enterFlow
  allowKey true
  punctuation kind

/-- `]` or `}`. -/
def flowEnd (kind : TokenKind) : Scan Unit := do
  closeCandidate
  leaveFlow
  allowKey false
  punctuation kind

/-- `,` between flow entries. -/
def flowEntry : Scan Unit := do
  closeCandidate
  allowKey true
  punctuation .flowEntry

/-- `-` before a block sequence entry, opening the sequence when it is indented more. -/
def blockEntry : Scan Unit := do
  let s ← get
  if s.flowLevel == 0 then
    if !s.keyAllowed then fail "block sequence entries are not allowed in this context" none
    roll s.mark.column none .blockSequenceStart s.mark
  closeCandidate
  allowKey true
  punctuation .blockEntry

/-- `?` before a key. -/
def keyIndicator : Scan Unit := do
  let s ← get
  if s.flowLevel == 0 then
    if !s.keyAllowed then fail "mapping keys are not allowed in this context" none
    roll s.mark.column none .blockMappingStart s.mark
  closeCandidate
  allowKey ((← get).flowLevel == 0)
  punctuation .key

/-- `:` after a key introduced by `?`, or after none. -/
def lonelyValue : Scan Unit := do
  let s ← get
  if s.flowLevel == 0 then
    if !s.keyAllowed then fail "mapping values are not allowed in this context" none
    roll s.mark.column none .blockMappingStart s.mark
  allowKey ((← get).flowLevel == 0)

/-- `:` before a value. When a key candidate is open, it was a key: a key token goes in
front of it, and a block mapping start when it opens one. -/
def valueIndicator : Scan Unit := do
  let s ← get
  match s.candidates with
  | k :: r =>
    if k.possible then
      emitAt (k.number - s.taken) ⟨.key, k.mark, k.mark⟩
      roll k.mark.column (some k.number) .blockMappingStart k.mark
      modify fun s => { s with candidates := { k with possible := false } :: r }
      allowKey false
    else lonelyValue
  | [] => lonelyValue
  punctuation .value

/-- An anchor or an alias, which may be a key. -/
def anchorLike (isAlias : Bool) : Scan Unit := do
  openCandidate
  allowKey false
  emit (← anchorOrAlias isAlias)

/-- A tag, which may begin a key. -/
def tagLike : Scan Unit := do
  openCandidate
  allowKey false
  emit (← tagToken)

/-- A block scalar, which is never a key. -/
def blockScalarLike (literal : Bool) : Scan Unit := do
  closeCandidate
  allowKey true
  emit (← blockScalar literal)

/-- A quoted scalar, which may be a key. -/
def quotedLike (single : Bool) : Scan Unit := do
  openCandidate
  allowKey false
  emit (← quotedScalar single)

/-- A plain scalar, which may be a key. -/
def plainLike : Scan Unit := do
  openCandidate
  allowKey false
  emit (← plainScalar)

/-- The indicators that cannot start a plain scalar, except `-`, `?` and `:` before a
character that is not blank. -/
def indicatorChars : List Char :=
  ['-', '?', ':', ',', '[', ']', '{', '}', '#', '&', '*', '!', '|', '>', '\'', '"', '%', '@',
    Char.ofNat 96]

/-- Whether a plain scalar may start with `c` followed by `next`. -/
def plainStart (flow : Bool) (c : Char) (next : Option Char) : Bool :=
  !(isBlankChar c || isBreakChar c || indicatorChars.contains c) ||
    (c == '-' && !blankAt next) ||
    (!flow && (c == '?' || c == ':') && !blankOrEnd next)

/-- Cuts the next token. -/
def fetchNext : Scan Unit := do
  if !(← get).started then streamStart
  else
    toNextToken (← fuel)
    closeStale
    unrollTo (← here).column
    let s ← get
    let flow := s.flowLevel > 0
    let atLineStart := s.mark.column == 0
    let c1 := s.rest[1]?
    match s.rest.head? with
    | none => streamEnd
    | some c =>
      if atLineStart && c == '%' then directiveLine
      else if atLineStart && c == '-' && markerAhead s.rest then documentMarker .documentStart
      else if atLineStart && c == '.' && markerAhead s.rest then documentMarker .documentEnd
      else if c == '[' then flowStart .flowSequenceStart
      else if c == '{' then flowStart .flowMappingStart
      else if c == ']' then flowEnd .flowSequenceEnd
      else if c == '}' then flowEnd .flowMappingEnd
      else if c == ',' then flowEntry
      else if c == '-' && blankOrEnd c1 then blockEntry
      else if c == '?' && (flow || blankOrEnd c1) then keyIndicator
      else if c == ':' && (flow || blankOrEnd c1) then valueIndicator
      else if c == '*' then anchorLike true
      else if c == '&' then anchorLike false
      else if c == '!' then tagLike
      else if c == '|' && !flow then blockScalarLike true
      else if c == '>' && !flow then blockScalarLike false
      else if c == '\'' then quotedLike true
      else if c == '"' then quotedLike false
      else if plainStart flow c c1 then plainLike
      else
        fail "found character that cannot start any token"
          (some ("while scanning for the next token", s.mark))

/-- Whether the oldest queued token may not be handed on yet. -/
def needMore : Scan Bool := do
  if (← get).queue.isEmpty then return true
  closeStale
  let s ← get
  return s.candidates.any fun k => k.possible && k.number == s.taken

/-- Cuts tokens until the oldest one may be handed on. -/
def fetchMore : Nat → Scan Unit
  | 0 => pure ()
  | n + 1 => do
    if ← needMore then
      fetchNext
      fetchMore n

/-- The next token, cut if need be. -/
def peekToken : Scan Token := do
  if !(← get).ready then
    fetchMore ((← get).left + 4)
    modify fun s => { s with ready := true }
  match (← get).queue with
  | t :: _ => pure t
  | [] => throw .endOfStream

/-- Hands on the next token. -/
def skipToken : Scan Unit := modify fun s =>
  { s with ready := false, taken := s.taken + 1, queue := s.queue.drop 1 }

end Scan

end Runbook.Yaml

import Runbook.Yaml.Event
/-!
# Reading events from tokens

One step of the state machine reads the next event. A document is implicit when it starts
with content, explicit when it starts with directives or `---`; a document left empty
holds an empty scalar. A block collection ends with its block end token; an entry, key
or value left out is an empty scalar placed where the indicator ends or the next token
begins. A sequence of `-` entries at the indentation of its mapping key needs no block
of its own. In a flow sequence, a `?` entry or an entry `k: v` is a mapping of one pair.
-/

namespace Runbook.Yaml

namespace Parse

/-- Whether a token is a `%YAML` or `%TAG` directive. -/
def isDirective (t : Token) : Bool :=
  match t.kind with
  | .versionDirective .. | .tagDirective .. => true
  | _ => false

/-- The two tag handles every document knows. -/
def defaultHandles : List (String × String) := [("!", "!"), ("!!", "tag:yaml.org,2002:")]

/-- Reads the directives in front of a document: one `%YAML` directive at most, of version
1.1 or 1.2, and `%TAG` directives of distinct handles. -/
def directives (seenVersion : Bool) : Nat → Parse Unit
  | 0 => pure ()
  | n + 1 => do
    let t ← peek
    match t.kind with
    | .versionDirective major minor =>
      if seenVersion then failAt "found duplicate %YAML directive" t.start none
      if major != 1 || (minor != 1 && minor != 2) then
        failAt "found incompatible YAML document" t.start none
      skip
      directives true n
    | .tagDirective handle pref =>
      if ((← get).handles.lookup handle).isSome then
        failAt "found duplicate %TAG directive" t.start none
      modify fun p => { p with handles := p.handles ++ [(handle, pref)] }
      skip
      directives seenVersion n
    | _ => pure ()

/-- Reads the directives of a document and adds the default handles it does not
override. -/
def processDirectives : Parse Unit := do
  directives false (← fuel)
  let addDefault (hs : List (String × String)) (d : String × String) :=
    if (hs.lookup d.1).isSome then hs else hs ++ [d]
  modify fun p => { p with handles := defaultHandles.foldl addDefault p.handles }

/-- Reads a node: an alias, or a scalar or collection with an optional anchor and tag in
either order. An anchor or tag before no content is an empty scalar. In a block mapping,
`indentless` lets a sequence of `-` entries follow a key at its own indentation. -/
def parseNode (block indentless : Bool) : Parse (Event × Mark) := do
  let first ← peek
  if let .alias name := first.kind then
    popPhase
    skip
    return (.alias name, first.start)
  let start := first.start
  let mut t := first
  let mut anchor : Option String := none
  let mut tag : Option (String × String × Mark) := none
  match first.kind with
  | .anchor a =>
    anchor := some a
    skip
    t ← peek
    if let .tag h s := t.kind then
      tag := some (h, s, t.start)
      skip
      t ← peek
  | .tag h s =>
    tag := some (h, s, t.start)
    skip
    t ← peek
    if let .anchor a := t.kind then
      anchor := some a
      skip
      t ← peek
  | _ => pure ()
  let resolved : Option String ← match tag with
    | none => pure none
    | some (h, s, m) =>
      if h.isEmpty then pure (some s)
      else match (← get).handles.lookup h with
        | some pre => pure (some (pre ++ s))
        | none => failAt "found undefined tag handle" m (some ("while parsing a node", start))
  if indentless && t.kind == .blockEntry then
    setPhase .indentlessSequenceEntry
    return (.sequenceStart anchor resolved, start)
  match t.kind with
  | .scalar text style =>
    popPhase
    skip
    return (.scalar anchor resolved text style, start)
  | .flowSequenceStart =>
    setPhase .flowSequenceFirstEntry
    return (.sequenceStart anchor resolved, start)
  | .flowMappingStart =>
    setPhase .flowMappingFirstKey
    return (.mappingStart anchor resolved, start)
  | .blockSequenceStart =>
    if block then
      setPhase .blockSequenceFirstEntry
      return (.sequenceStart anchor resolved, start)
  | .blockMappingStart =>
    if block then
      setPhase .blockMappingFirstKey
      return (.mappingStart anchor resolved, start)
  | _ => pure ()
  if anchor.isSome || resolved.isSome then
    popPhase
    return (.scalar anchor resolved "" .plain, start)
  failAt "did not find expected node content" t.start
    (some (if block then "while parsing a block node" else "while parsing a flow node", start))

/-- The start of the stream. -/
def streamStart : Parse (Event × Mark) := do
  let t ← peek
  if t.kind != .streamStart then failAt "did not find expected <stream-start>" t.start none
  setPhase .implicitDocumentStart
  skip
  pure (.streamStart, t.start)

/-- Moves past `...` markers between documents. -/
def skipDocumentEnds : Nat → Parse Token
  | 0 => peek
  | n + 1 => do
    let t ← peek
    if t.kind == .documentEnd then
      skip
      skipDocumentEnds n
    else pure t

/-- The start of a document, or the end of the stream. After a document, the next one
must start with directives or `---`. -/
def documentStart (implicit : Bool) : Parse (Event × Mark) := do
  let t ← if implicit then peek else skipDocumentEnds (← fuel)
  if implicit && !isDirective t && t.kind != .documentStart && t.kind != .streamEnd then
    processDirectives
    pushPhase .documentEnd
    setPhase .blockNode
    pure (.documentStart, t.start)
  else if t.kind != .streamEnd then
    processDirectives
    let u ← peek
    if u.kind != .documentStart then failAt "did not find expected <document start>" u.start none
    pushPhase .documentEnd
    setPhase .documentContent
    skip
    pure (.documentStart, t.start)
  else
    setPhase .finished
    skip
    pure (.streamEnd, t.start)

/-- The content of an explicit document: a node, or an empty scalar when the document
ends at once. -/
def documentContent : Parse (Event × Mark) := do
  let t ← peek
  if isDirective t || t.kind == .documentStart || t.kind == .documentEnd || t.kind == .streamEnd then
    popPhase
    pure (Event.empty, t.start)
  else parseNode true false

/-- The end of a document, with or without `...`; its tag handles are forgotten. -/
def documentEnd : Parse (Event × Mark) := do
  let t ← peek
  if t.kind == .documentEnd then skip
  modify fun p => { p with handles := [] }
  setPhase .documentStart
  pure (.documentEnd, t.start)

/-- An entry of a block sequence, or its end. -/
def blockSequenceEntry (first : Bool) : Parse (Event × Mark) := do
  if first then
    pushMark (← peek).start
    skip
  let t ← peek
  match t.kind with
  | .blockEntry =>
    skip
    let u ← peek
    if u.kind != .blockEntry && u.kind != .blockEnd then
      pushPhase .blockSequenceEntry
      parseNode true false
    else
      setPhase .blockSequenceEntry
      pure (Event.empty, t.stop)
  | .blockEnd =>
    popPhase
    let _ ← popMark
    skip
    pure (.sequenceEnd, t.start)
  | _ =>
    failAt "did not find expected '-' indicator" t.start
      (some ("while parsing a block collection", ← popMark))

/-- An entry of a sequence of `-` entries without a block of its own, or its end. -/
def indentlessSequenceEntry : Parse (Event × Mark) := do
  let t ← peek
  if t.kind == .blockEntry then
    skip
    let u ← peek
    if u.kind != .blockEntry && u.kind != .key && u.kind != .value && u.kind != .blockEnd then
      pushPhase .indentlessSequenceEntry
      parseNode true false
    else
      setPhase .indentlessSequenceEntry
      pure (Event.empty, t.stop)
  else
    popPhase
    pure (.sequenceEnd, t.start)

/-- A key of a block mapping, or its end. -/
def blockMappingKey (first : Bool) : Parse (Event × Mark) := do
  if first then
    pushMark (← peek).start
    skip
  let t ← peek
  match t.kind with
  | .key =>
    skip
    let u ← peek
    if u.kind != .key && u.kind != .value && u.kind != .blockEnd then
      pushPhase .blockMappingValue
      parseNode true true
    else
      setPhase .blockMappingValue
      pure (Event.empty, t.stop)
  | .blockEnd =>
    popPhase
    let _ ← popMark
    skip
    pure (.mappingEnd, t.start)
  | _ =>
    failAt "did not find expected key" t.start (some ("while parsing a block mapping", ← popMark))

/-- A value of a block mapping, empty when left out. -/
def blockMappingValue : Parse (Event × Mark) := do
  let t ← peek
  if t.kind == .value then
    skip
    let u ← peek
    if u.kind != .key && u.kind != .value && u.kind != .blockEnd then
      pushPhase .blockMappingKey
      parseNode true true
    else
      setPhase .blockMappingKey
      pure (Event.empty, t.stop)
  else
    setPhase .blockMappingKey
    pure (Event.empty, t.start)

/-- An entry of a flow sequence, after a `,` unless it is the first, or its end. -/
def flowSequenceEntry (first : Bool) : Parse (Event × Mark) := do
  if first then
    pushMark (← peek).start
    skip
  let mut t ← peek
  if t.kind != .flowSequenceEnd then
    if !first then
      if t.kind == .flowEntry then
        skip
        t ← peek
      else
        failAt "did not find expected ',' or ']'" t.start
          (some ("while parsing a flow sequence", ← popMark))
    if t.kind == .key then
      setPhase .flowSequenceEntryMappingKey
      skip
      return (.mappingStart none none, t.start)
    if t.kind != .flowSequenceEnd then
      pushPhase .flowSequenceEntry
      return (← parseNode false false)
  popPhase
  let _ ← popMark
  skip
  pure (.sequenceEnd, t.start)

/-- The key of a one-pair mapping in a flow sequence. -/
def flowSequenceEntryMappingKey : Parse (Event × Mark) := do
  let t ← peek
  if t.kind != .value && t.kind != .flowEntry && t.kind != .flowSequenceEnd then
    pushPhase .flowSequenceEntryMappingValue
    parseNode false false
  else
    skip
    setPhase .flowSequenceEntryMappingValue
    pure (Event.empty, t.stop)

/-- The value of a one-pair mapping in a flow sequence. -/
def flowSequenceEntryMappingValue : Parse (Event × Mark) := do
  let t ← peek
  if t.kind == .value then
    skip
    let u ← peek
    if u.kind != .flowEntry && u.kind != .flowSequenceEnd then
      pushPhase .flowSequenceEntryMappingEnd
      return (← parseNode false false)
    setPhase .flowSequenceEntryMappingEnd
    return (Event.empty, u.start)
  setPhase .flowSequenceEntryMappingEnd
  pure (Event.empty, t.start)

/-- The end of a one-pair mapping in a flow sequence. -/
def flowSequenceEntryMappingEnd : Parse (Event × Mark) := do
  let t ← peek
  setPhase .flowSequenceEntry
  pure (.mappingEnd, t.start)

/-- A key of a flow mapping, after a `,` unless it is the first, or its end. An entry
without `:` has an empty value. -/
def flowMappingKey (first : Bool) : Parse (Event × Mark) := do
  if first then
    pushMark (← peek).start
    skip
  let mut t ← peek
  if t.kind != .flowMappingEnd then
    if !first then
      if t.kind == .flowEntry then
        skip
        t ← peek
      else
        failAt "did not find expected ',' or '\x7d'" t.start
          (some ("while parsing a flow mapping", ← popMark))
    if t.kind == .key then
      skip
      let u ← peek
      if u.kind != .value && u.kind != .flowEntry && u.kind != .flowMappingEnd then
        pushPhase .flowMappingValue
        return (← parseNode false false)
      setPhase .flowMappingValue
      return (Event.empty, u.start)
    if t.kind != .flowMappingEnd then
      pushPhase .flowMappingEmptyValue
      return (← parseNode false false)
  popPhase
  let _ ← popMark
  skip
  pure (.mappingEnd, t.start)

/-- A value of a flow mapping, empty when left out. -/
def flowMappingValue (empty : Bool) : Parse (Event × Mark) := do
  let t ← peek
  if empty then
    setPhase .flowMappingKey
    return (Event.empty, t.start)
  if t.kind == .value then
    skip
    let u ← peek
    if u.kind != .flowEntry && u.kind != .flowMappingEnd then
      pushPhase .flowMappingKey
      return (← parseNode false false)
    setPhase .flowMappingKey
    return (Event.empty, u.start)
  setPhase .flowMappingKey
  pure (Event.empty, t.start)

/-- Reads the next event. -/
def next : Parse (Event × Mark) := do
  match (← get).phase with
  | .streamStart => streamStart
  | .implicitDocumentStart => documentStart true
  | .documentStart => documentStart false
  | .documentContent => documentContent
  | .documentEnd => documentEnd
  | .blockNode => parseNode true false
  | .flowNode => parseNode false false
  | .blockSequenceFirstEntry => blockSequenceEntry true
  | .blockSequenceEntry => blockSequenceEntry false
  | .indentlessSequenceEntry => indentlessSequenceEntry
  | .blockMappingFirstKey => blockMappingKey true
  | .blockMappingKey => blockMappingKey false
  | .blockMappingValue => blockMappingValue
  | .flowSequenceFirstEntry => flowSequenceEntry true
  | .flowSequenceEntry => flowSequenceEntry false
  | .flowSequenceEntryMappingKey => flowSequenceEntryMappingKey
  | .flowSequenceEntryMappingValue => flowSequenceEntryMappingValue
  | .flowSequenceEntryMappingEnd => flowSequenceEntryMappingEnd
  | .flowMappingFirstKey => flowMappingKey true
  | .flowMappingKey => flowMappingKey false
  | .flowMappingValue => flowMappingValue false
  | .flowMappingEmptyValue => flowMappingValue true
  | .finished => throw .endOfStream

end Parse

end Runbook.Yaml

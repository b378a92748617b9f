import Runbook.Yaml.Token.Cursor
/-!
# Tokens that carry text

Scalars in their five styles, anchors and aliases, tags, and the `%YAML` and `%TAG`
directives.

A plain scalar runs until `: ` or ` #`, in flow context also until a flow indicator, and
over lines as long as they are indented more than the enclosing block collection. Line
breaks fold: one break between two lines becomes a space, and each further break a line
feed. Quoted scalars fold the same way; in double quotes a backslash escapes a character
or a line break. A block scalar takes its indentation from its header or from its first
line that is not empty, keeps (literal) or folds (folded) its line breaks, and chomps
the final ones as its header says.

Each reader starts at the token's first character and fails with the construct's start as
context.
-/

namespace Runbook.Yaml

namespace Scan

/-- Lines of a scalar being folded: the text so far (reversed), the blanks since the last
character, the first line break of the current run and the breaks after it, and whether
the run of blanks holds a line break. -/
structure Folding where
  text : List Char := []
  spaces : List Char := []
  leadingBreak : Option Char := none
  trailing : List Char := []
  broken : Bool := false
  stop : Mark

/-- Joins the blanks or breaks before the next character: blanks stay as they are; a
single line feed becomes a space and further breaks stay. -/
def Folding.join (f : Folding) : Folding :=
  if f.broken then
    let text :=
      if f.leadingBreak == some '\n' then
        if f.trailing.isEmpty then ' ' :: f.text else f.trailing.reverse ++ f.text
      else f.trailing.reverse ++ (f.leadingBreak.toList ++ f.text)
    { f with text, leadingBreak := none, trailing := [], broken := false }
  else { f with text := f.spaces.reverse ++ f.text, spaces := [] }

/-- Reads the characters of one line of a plain scalar. -/
def plainChars (flow : Bool) (f : Folding) : Nat → Scan Folding
  | 0 => pure f
  | n + 1 => do
    let c0 ← peekAt 0
    let c1 ← peekAt 1
    if blankOrEnd c0 then return f
    if flow && isChar ':' c0 && oneOf [',', '?', '[', ']', '{', '}'] c1 then return f
    if (isChar ':' c0 && blankOrEnd c1) || (flow && oneOf [',', '[', ']', '{', '}'] c0) then
      return f
    let f := if f.broken || !f.spaces.isEmpty then f.join else f
    match c0 with
    | some c =>
      advance
      plainChars flow { f with text := c :: f.text, stop := ← here } n
    | none => pure f

/-- Reads the blanks and breaks after a line of a plain scalar; a tab among the
indentation of a continuation line is an error. -/
def plainBlanks (indent : Int) (start : Mark) (f : Folding) : Nat → Scan Folding
  | 0 => pure f
  | n + 1 => do
    let c0 ← peekAt 0
    match c0 with
    | some c =>
      if isBlankChar c then
        if f.broken && ((← here).column : Int) < indent && c == '\t' then
          fail "found a tab character that violates indentation"
            (some ("while scanning a plain scalar", start))
        advance
        plainBlanks indent start (if f.broken then f else { f with spaces := f.spaces ++ [c] }) n
      else if isBreakChar c then
        let b ← readBreak
        if f.broken then plainBlanks indent start { f with trailing := f.trailing ++ [b] } n
        else plainBlanks indent start { f with spaces := [], leadingBreak := some b, broken := true } n
      else pure f
    | none => pure f

/-- Reads the lines of a plain scalar. -/
def plainLines (flow : Bool) (indent : Int) (start : Mark) (f : Folding) : Nat → Scan Folding
  | 0 => pure f
  | n + 1 => do
    let s ← get
    if s.mark.column == 0 && markerAhead s.rest then return f
    if isChar '#' (← peekAt 0) then return f
    let f ← plainChars flow f (← fuel)
    let c0 ← peekAt 0
    if !(blankAt c0 || breakAt c0) then return f
    let f ← plainBlanks indent start f (← fuel)
    if !flow && ((← here).column : Int) < indent then return f
    plainLines flow indent start f n

/-- Reads a plain scalar. A key may follow it when it ended on a new line. -/
def plainScalar : Scan Token := do
  let s ← get
  let start := s.mark
  let f ← plainLines (s.flowLevel > 0) (s.indent + 1) start { stop := start } (← fuel)
  if f.broken then allowKey true
  pure ⟨.scalar (String.ofList f.text.reverse) .plain, start, f.stop⟩

/-- The character a double-quoted escape letter stands for, for the escapes of one
letter. -/
def simpleEscape? : Char → Option Char
  | '0' => some (Char.ofNat 0)
  | 'a' => some (Char.ofNat 7)
  | 'b' => some (Char.ofNat 8)
  | 't' | '\t' => some '\t'
  | 'n' => some '\n'
  | 'v' => some (Char.ofNat 11)
  | 'f' => some (Char.ofNat 12)
  | 'r' => some '\r'
  | 'e' => some (Char.ofNat 27)
  | ' ' => some ' '
  | '"' => some '"'
  | '/' => some '/'
  | '\'' => some '\''
  | '\\' => some '\\'
  | 'N' => some (Char.ofNat 0x85)
  | '_' => some (Char.ofNat 0xA0)
  | 'L' => some (Char.ofNat 0x2028)
  | 'P' => some (Char.ofNat 0x2029)
  | _ => none

/-- The number of hexadecimal digits after `x`, `u` and `U`; zero for other letters. -/
def escapeWidth : Char → Nat
  | 'x' => 2
  | 'u' => 4
  | 'U' => 8
  | _ => 0

/-- The value of a hexadecimal digit. -/
def hexValue? (c : Char) : Option Nat :=
  if c.isDigit then some (c.toNat - '0'.toNat)
  else if 'a' ≤ c && c ≤ 'f' then some (c.toNat - 'a'.toNat + 10)
  else if 'A' ≤ c && c ≤ 'F' then some (c.toNat - 'A'.toNat + 10)
  else none

/-- The value of hexadecimal digits looked at, if all of them are digits. -/
def hexDigits? (cs : List (Option Char)) : Option Nat :=
  cs.foldlM (fun acc c => c.bind hexValue? |>.map (acc * 16 + ·)) 0

/-- Reads the characters of one line of a quoted scalar. Returns the text and whether it
stopped at an escaped line break. -/
def quotedChars (single : Bool) (start : Mark) (text : List Char) : Nat → Scan (List Char × Bool)
  | 0 => pure (text, false)
  | n + 1 => do
    let c0 ← peekAt 0
    let c1 ← peekAt 1
    if blankOrEnd c0 then return (text, false)
    if single && isChar '\'' c0 && isChar '\'' c1 then
      advanceBy 2
      quotedChars single start ('\'' :: text) n
    else if isChar (if single then '\'' else '"') c0 then return (text, false)
    else if !single && isChar '\\' c0 && breakAt c1 then
      advance
      advanceBreak
      return (text, true)
    else if !single && isChar '\\' c0 then
      let context := some ("while parsing a quoted scalar", start)
      let e := c1.getD (Char.ofNat 0)
      match simpleEscape? e with
      | some x =>
        advanceBy 2
        quotedChars single start (x :: text) n
      | none =>
        let width := escapeWidth e
        if width == 0 then fail "found unknown escape character" context
        advanceBy 2
        let digits ← (List.range width).mapM peekAt
        match hexDigits? digits with
        | none => fail "did not find expected hexdecimal number" context
        | some v =>
          if (0xD800 ≤ v && v ≤ 0xDFFF) || v > 0x10FFFF then
            fail "found invalid Unicode character escape code" context
          advanceBy width
          quotedChars single start (Char.ofNat v :: text) n
    else match c0 with
      | some c =>
        advance
        quotedChars single start (c :: text) n
      | none => pure (text, false)

/-- Reads the blanks and breaks inside a quoted scalar. -/
def quotedBlanks (f : Folding) : Nat → Scan Folding
  | 0 => pure f
  | n + 1 => do
    match ← peekAt 0 with
    | some c =>
      if isBlankChar c then
        advance
        quotedBlanks (if f.broken then f else { f with spaces := f.spaces ++ [c] }) n
      else if isBreakChar c then
        let b ← readBreak
        if f.broken then quotedBlanks { f with trailing := f.trailing ++ [b] } n
        else quotedBlanks { f with spaces := [], leadingBreak := some b, broken := true } n
      else pure f
    | none => pure f

/-- Reads the lines of a quoted scalar up to its closing quote. -/
def quotedLines (single : Bool) (start : Mark) (text : List Char) : Nat → Scan (List Char)
  | 0 => pure text
  | n + 1 => do
    let s ← get
    let context := some ("while scanning a quoted scalar", start)
    if s.mark.column == 0 && markerAhead s.rest then
      fail "found unexpected document indicator" context
    if s.rest.isEmpty then fail "found unexpected end of stream" context
    let (text, escapedBreak) ← quotedChars single start text (← fuel)
    if isChar (if single then '\'' else '"') (← peekAt 0) then return text
    let f ← quotedBlanks { text, broken := escapedBreak, stop := s.mark } (← fuel)
    quotedLines single start f.join.text n

/-- Reads a single- or double-quoted scalar. -/
def quotedScalar (single : Bool) : Scan Token := do
  let start ← here
  advance
  let text ← quotedLines single start [] (← fuel)
  advance
  pure ⟨.scalar (String.ofList text.reverse) (if single then .singleQuoted else .doubleQuoted),
    start, ← here⟩

/-- Moves past the spaces of a block scalar's indentation. -/
def skipIndentation (indent : Nat) : Nat → Scan Unit
  | 0 => pure ()
  | n + 1 => do
    if (indent == 0 || (← here).column < indent) && isChar ' ' (← peekAt 0) then
      advance
      skipIndentation indent n

/-- Reads the empty lines of a block scalar and their indentation: the breaks, the
deepest indentation seen, and the end of the last break. `indent` zero means the
indentation is not known yet; a tab inside it is an error. -/
def blockBreaks (start : Mark) (indent : Nat) (breaks : List Char) (deepest : Nat) (stop : Mark) :
    Nat → Scan (List Char × Nat × Mark)
  | 0 => pure (breaks, deepest, stop)
  | n + 1 => do
    skipIndentation indent (← fuel)
    let col := (← here).column
    let deepest := max deepest col
    if (indent == 0 || col < indent) && isChar '\t' (← peekAt 0) then
      fail "found a tab character where an indentation space is expected"
        (some ("while scanning a block scalar", start))
    if !breakAt (← peekAt 0) then return (breaks, deepest, stop)
    let b ← readBreak
    blockBreaks start indent (breaks ++ [b]) deepest (← here) n

/-- The lines of a block scalar being read. -/
structure BlockLines where
  text : List Char := []
  leadingBreak : List Char := []
  trailing : List Char
  leadingBlank : Bool := false
  stop : Mark

/-- Reads the lines of a block scalar at its indentation. A folded scalar joins two lines
with a space when the break between them stands alone and neither line starts with a
blank. -/
def blockLines (literal : Bool) (start : Mark) (indent : Nat) (b : BlockLines) :
    Nat → Scan BlockLines
  | 0 => pure b
  | n + 1 => do
    let c0 ← peekAt 0
    if (← here).column != indent || c0.isNone then return b
    let trailingBlank := blankAt c0
    let text :=
      if !literal && b.leadingBreak.head? == some '\n' && !b.leadingBlank && !trailingBlank then
        if b.trailing.isEmpty then ' ' :: b.text else b.text
      else b.leadingBreak.reverse ++ b.text
    let text := b.trailing.reverse ++ text
    let text ← readWhile (fun c => !isBreakChar c) text (← fuel)
    let leadingBreak ← if breakAt (← peekAt 0) then pure [← readBreak] else pure []
    let (trailing, _, stop) ← blockBreaks start indent [] 0 (← here) (← fuel)
    blockLines literal start indent
      { text, leadingBreak, trailing, leadingBlank := trailingBlank, stop } n

/-- How a block scalar treats its final line breaks. -/
inductive Chomping where
  | strip
  | clip
  | keep
  deriving DecidableEq

/-- Reads the chomping indicator of a block scalar header, if there is one. -/
def chompingAt : Option Char → Option Chomping
  | some '+' => some .keep
  | some '-' => some .strip
  | _ => none

/-- Reads the indentation indicator of a block scalar header, if there is one. -/
def indentationIndicator (start : Mark) : Scan Nat := do
  match ← peekAt 0 with
  | some c =>
    if c.isDigit then
      if c == '0' then
        fail "found an indentation indicator equal to 0" (some ("while scanning a block scalar", start))
      advance
      pure (c.toNat - '0'.toNat)
    else pure 0
  | none => pure 0

/-- Reads a literal or folded block scalar, header and lines. -/
def blockScalar (literal : Bool) : Scan Token := do
  let start ← here
  let context := some ("while scanning a block scalar", start)
  advance
  let first ← peekAt 0
  let (chomping, increment) ← match chompingAt first with
    | some ch => do
      advance
      pure (ch, ← indentationIndicator start)
    | none => do
      let inc ← indentationIndicator start
      match chompingAt (← peekAt 0) with
      | some ch =>
        advance
        pure (ch, inc)
      | none => pure (.clip, inc)
  skipWhile blankAt (← fuel)
  if isChar '#' (← peekAt 0) then skipWhile (fun c => !breakOrEnd c) (← fuel)
  if !breakOrEnd (← peekAt 0) then
    fail "did not find expected comment or line break" context
  if breakAt (← peekAt 0) then advanceBreak
  let s ← get
  let given : Nat := if increment == 0 then 0
    else if s.indent ≥ 0 then s.indent.toNat + increment else increment
  let (trailing, deepest, stop) ← blockBreaks start given [] 0 (← here) (← fuel)
  let indent := if given != 0 then given
    else max deepest (max (s.indent + 1).toNat 1)
  let b ← blockLines literal start indent { trailing, stop } (← fuel)
  let text := if chomping != .strip then b.leadingBreak.reverse ++ b.text else b.text
  let text := if chomping == .keep then b.trailing.reverse ++ text else text
  pure ⟨.scalar (String.ofList text.reverse) (if literal then .literal else .folded), start, b.stop⟩

/-- Reads an anchor `&name` or an alias `*name`. The name is letters, digits, `_` and
`-`, and must be followed by a blank, a line break, the end, or one of `?:,]}%@`. -/
def anchorOrAlias (isAlias : Bool) : Scan Token := do
  let start ← here
  advance
  let name ← readWhile isWordChar [] (← fuel)
  let stop ← here
  let c ← peekAt 0
  if name.isEmpty || !(blankOrEnd c || oneOf ['?', ':', ',', ']', '}', '%', '@', Char.ofNat 96] c) then
    fail "did not find expected alphabetic or numeric character"
      (some (if isAlias then "while scanning an alias" else "while scanning an anchor", start))
  let name := String.ofList name.reverse
  pure ⟨if isAlias then .alias name else .anchor name, start, stop⟩

/-- The characters a tag may hold besides letters and digits; inside `!<…>` also `,[]`. -/
def isUriChar (verbatim : Bool) (c : Char) : Bool :=
  isWordChar c || ";/?:@&=+$.%!~*()".contains c || c == '\'' || (verbatim && ",[]".contains c)

/-- The number of bytes of the character a UTF-8 leading byte begins, zero if it begins
none. -/
def utf8Width (b : Nat) : Nat :=
  if b < 0x80 then 1 else if b / 32 == 6 then 2 else if b / 16 == 14 then 3
  else if b / 8 == 30 then 4 else 0

/-- Decodes the bytes of one UTF-8 character from its bits. -/
def utf8Decode : List Nat → Char
  | [b] => Char.ofNat b
  | b :: rest =>
    let lead := b % Nat.pow 2 (7 - rest.length)
    Char.ofNat (rest.foldl (fun acc c => acc * 64 + c % 64) lead)
  | [] => Char.ofNat 0

/-- Reads the `%XX` escapes of one UTF-8 character in a tag. -/
def uriEscapes (directive : Bool) (start : Mark) (bytes : List Nat) (width : Nat) :
    Nat → Scan Char
  | 0 => pure (utf8Decode bytes)
  | n + 1 => do
    let context := some (if directive then "while parsing a %TAG directive" else "while parsing a tag", start)
    let c0 ← peekAt 0
    let c1 ← peekAt 1
    let c2 ← peekAt 2
    match isChar '%' c0, hexDigits? [c1, c2] with
    | true, some octet =>
      let width ← if width == 0 then do
          let w := utf8Width octet
          if w == 0 then fail "found an incorrect leading UTF-8 octet" context
          pure w
        else do
          if octet / 64 != 2 then fail "found an incorrect trailing UTF-8 octet" context
          pure width
      advanceBy 3
      let bytes := bytes ++ [octet]
      if bytes.length ≥ width then pure (utf8Decode bytes)
      else uriEscapes directive start bytes width n
    | _, _ => fail "did not find URI escaped octet" context

/-- Reads the characters of a tag after its handle. `head` is what was read as a handle
but turned out to be part of the tag, without its `!`. -/
def tagUri (verbatim directive : Bool) (start : Mark) (acc : List Char) :
    Nat → Scan (List Char)
  | 0 => pure acc
  | n + 1 => do
    match ← peekAt 0 with
    | some c =>
      if isUriChar verbatim c then
        if c == '%' then
          let d ← uriEscapes directive start [] 0 4
          tagUri verbatim directive start (d :: acc) n
        else
          advance
          tagUri verbatim directive start (c :: acc) n
      else pure acc
    | none => pure acc

/-- Reads a tag's text, failing when nothing was read. The text ends before its first
NUL character, which an escape `%00` can write: a tag is a NUL-terminated string. -/
def tagText (verbatim directive : Bool) (head : String) (start : Mark) : Scan String := do
  let acc ← tagUri verbatim directive start (head.toList.drop 1).reverse (← fuel)
  if acc.isEmpty && head.length == 0 then
    fail "did not find expected tag URI"
      (some (if directive then "while parsing a %TAG directive" else "while parsing a tag", start))
  pure (String.ofList (acc.reverse.takeWhile fun c => c != Char.ofNat 0))

/-- Reads a tag handle: `!`, `!!` or `!name!`, or `!name` that a tag continues. -/
def tagHandle (directive : Bool) (start : Mark) : Scan String := do
  if !isChar '!' (← peekAt 0) then
    fail "did not find expected '!'"
      (some (if directive then "while scanning a tag directive" else "while scanning a tag", start))
  advance
  let word ← readWhile isWordChar ['!'] (← fuel)
  if isChar '!' (← peekAt 0) then
    advance
    pure (String.ofList ('!' :: word).reverse)
  else
    if directive && word != ['!'] then
      fail "did not find expected '!'" (some ("while parsing a tag directive", start))
    pure (String.ofList word.reverse)

/-- Reads a tag: `!<uri>`, `!handle!suffix`, `!suffix` or `!` alone, as its handle and
suffix. -/
def tagToken : Scan Token := do
  let start ← here
  let (handle, suffix) ← if isChar '<' (← peekAt 1) then do
      advanceBy 2
      let suffix ← tagText true false "" start
      if !isChar '>' (← peekAt 0) then
        fail "did not find the expected '>'" (some ("while scanning a tag", start))
      advance
      pure ("", suffix)
    else do
      let handle ← tagHandle false start
      if handle.length > 1 && handle.endsWith "!" then
        pure (handle, ← tagText false false "" start)
      else
        let suffix ← tagText false false handle start
        if suffix.isEmpty then pure ("", "!") else pure ("!", suffix)
  let s ← get
  let c ← peekAt 0
  if !blankOrEnd c && !(s.flowLevel > 0 && isChar ',' c) then
    fail "did not find expected whitespace or line break" (some ("while scanning a tag", start))
  pure ⟨.tag handle suffix, start, ← here⟩

/-- Reads one number of a `%YAML` version, of at most nine digits. -/
def versionNumber (start : Mark) (acc : Nat) (length : Nat) : Nat → Scan Nat
  | 0 => pure acc
  | n + 1 => do
    let context := some ("while scanning a %YAML directive", start)
    match ← peekAt 0 with
    | some c =>
      if c.isDigit then
        if length + 1 > 9 then fail "found extremely long version number" context
        advance
        versionNumber start (acc * 10 + (c.toNat - '0'.toNat)) (length + 1) n
      else if length == 0 then fail "did not find expected version number" context
      else pure acc
    | none =>
      if length == 0 then fail "did not find expected version number" context else pure acc

/-- Reads a directive line: `%YAML major.minor` or `%TAG handle prefix`, then blanks and
a comment up to the line break. -/
def directive : Scan Token := do
  let start ← here
  let context := some ("while scanning a directive", start)
  advance
  let name ← readWhile isWordChar [] (← fuel)
  if name.isEmpty then fail "could not find expected directive name" context
  if !blankOrEnd (← peekAt 0) then fail "found unexpected non-alphabetical character" context
  let kind ← match String.ofList name.reverse with
    | "YAML" => do
      skipWhile blankAt (← fuel)
      let major ← versionNumber start 0 0 (← fuel)
      if !isChar '.' (← peekAt 0) then
        fail "did not find expected digit or '.' character" (some ("while scanning a %YAML directive", start))
      advance
      let minor ← versionNumber start 0 0 (← fuel)
      pure (TokenKind.versionDirective major minor)
    | "TAG" => do
      let tagContext := some ("while scanning a %TAG directive", start)
      skipWhile blankAt (← fuel)
      let handle ← tagHandle true start
      if !blankAt (← peekAt 0) then fail "did not find expected whitespace" tagContext
      skipWhile blankAt (← fuel)
      let pref ← tagText true true "" start
      if !blankOrEnd (← peekAt 0) then fail "did not find expected whitespace or line break" tagContext
      pure (TokenKind.tagDirective handle pref)
    | _ => fail "found unknown directive name" context
  let stop ← here
  skipWhile blankAt (← fuel)
  if isChar '#' (← peekAt 0) then skipWhile (fun c => !breakOrEnd c) (← fuel)
  if !breakOrEnd (← peekAt 0) then fail "did not find expected comment or line break" context
  if breakAt (← peekAt 0) then advanceBreak
  pure ⟨kind, start, stop⟩

end Scan

end Runbook.Yaml

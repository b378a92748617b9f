import Runbook.Yaml.Event.Parse
/-!
# Loaded YAML documents

Loading keeps the events of the first document of a text, each with its place, and drops
anchors: an alias becomes the number of its anchor, and each number names the event where
its node begins. A number is the count of distinct anchor names set before it, so an
anchor set again under an old name takes the number the next new name will also take;
the later of the two wins.

When the text cannot be read to the end of the document, the events read so far are kept
with the error. A text with no document at all is one event that stands for nothing. A
character that no YAML text may hold stops the loading before any event.
-/

namespace Runbook.Yaml

/-- An event of a loaded document. -/
inductive Piece where
  | scalar (tag : Option String) (text : String) (style : Style)
  /-- An alias, by the number of its anchor. -/
  | alias (id : Nat)
  | sequenceStart
  | sequenceEnd
  | mappingStart
  | mappingEnd
  /-- The stand-in for a text with no document. -/
  | void
  deriving Repr

/-- The first document of a text. -/
structure Document where
  pieces : Array (Piece × Mark)
  /-- The event each anchor number names, latest first. -/
  anchored : List (Nat × Nat)
  /-- Why the text could not be read to the end of the document. -/
  failure : Option ReadError

/-- A document being loaded. -/
structure Loading where
  /-- Anchor names and their numbers, latest first. -/
  names : List (String × Nat) := []
  /-- How many distinct anchor names were set. -/
  count : Nat := 0
  anchored : List (Nat × Nat) := []
  pieces : Array (Piece × Mark) := #[]

/-- Sets an anchor on the event about to be added. -/
def Loading.setAnchor (l : Loading) : Option String → Loading
  | none => l
  | some name =>
    let id := l.count
    { l with names := (name, id) :: l.names,
             count := if (l.names.lookup name).isSome then l.count else l.count + 1,
             anchored := (id, l.pieces.size) :: l.anchored }

/-- Adds an event. -/
def Loading.add (l : Loading) (p : Piece) (m : Mark) : Loading :=
  { l with pieces := l.pieces.push (p, m) }

/-- The document loaded, with the error that stopped it, if any. -/
def Loading.finish (l : Loading) (failure : Option ReadError) : Document :=
  ⟨l.pieces, l.anchored, failure⟩

/-- Loads the events of the next document. The first document of a text with none is the
stand-in event; after the last document there is none. -/
def loadEvents (first : Bool) (l : Loading) : Nat → Parsing → Option Document × Parsing
  | 0, p => (some (l.finish (some .endOfStream)), p)
  | n + 1, p =>
    match Parse.next.run p with
    | .error e => (some (l.finish (some e)), p)
    | .ok ((ev, m), p) =>
      match ev with
      | .streamStart | .documentStart => loadEvents first l n p
      | .streamEnd =>
        if first then
          (some ((if l.pieces.isEmpty then l.add .void m else l).finish none), p)
        else (none, p)
      | .documentEnd => (some (l.finish none), p)
      | .alias name =>
        match l.names.lookup name with
        | some id => loadEvents first (l.add (.alias id) m) n p
        | none => (some (l.finish (some (.unknownAnchor m))), p)
      | .scalar anchor tag text style =>
        loadEvents first ((l.setAnchor anchor).add (.scalar tag text style) m) n p
      | .sequenceStart anchor _ => loadEvents first ((l.setAnchor anchor).add .sequenceStart m) n p
      | .sequenceEnd => loadEvents first (l.add .sequenceEnd m) n p
      | .mappingStart anchor _ => loadEvents first ((l.setAnchor anchor).add .mappingStart m) n p
      | .mappingEnd => loadEvents first (l.add .mappingEnd m) n p

/-- Whether a character may stand in a YAML text: tab, line feed, carriage return, the
printable ASCII characters, next line, and the characters from no-break space on except
surrogates and the two non-characters at the end of the basic plane. -/
def isAllowedChar (c : Char) : Bool :=
  let n := c.toNat
  n == 9 || n == 10 || n == 13 || (0x20 ≤ n && n ≤ 0x7E) || n == 0x85 ||
    (0xA0 ≤ n && n ≤ 0xD7FF) || (0xE000 ≤ n && n ≤ 0xFFFD) || 0x10000 ≤ n

/-- The byte offset of the first character that may not stand in a YAML text. -/
def forbiddenOffset (s : String) : Option Nat :=
  let rec go (offset : Nat) : List Char → Option Nat
    | [] => none
    | c :: cs => if isAllowedChar c then go (offset + c.utf8Size) cs else some offset
  go 0 s.toList

/-- The first document of a text, and whether another document follows it. -/
structure Loaded where
  document : Document
  more : Bool

/-- Loads the first document of a text, and looks whether another follows. -/
def Loaded.ofString (s : String) : Loaded :=
  match forbiddenOffset s with
  | some offset => ⟨⟨#[], [], some (.forbidden offset)⟩, false⟩
  | none =>
    let fuel := 8 * (s.length + 4)
    let (first, p) := loadEvents true {} fuel (Parsing.ofString s)
    let document := first.getD ⟨#[], [], some .endOfStream⟩
    let more := match document.failure with
      | some _ => false
      | none => p.phase != .finished && (loadEvents false {} fuel p).1.isSome
    ⟨document, more⟩

end Runbook.Yaml

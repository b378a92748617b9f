import Runbook.Yaml.Mark
import Runbook.Yaml.Scalar
/-!
# YAML tokens

A YAML text is first cut into tokens. Indentation becomes explicit: a block collection
opens with a start token and closes with an end token when the text returns to a smaller
indentation. A key that is not introduced by `?` is only known to be a key once the `:`
after it is seen; its key token, and the mapping start before it, are then put back in
front of it.
-/

namespace Runbook.Yaml

/-- What a token is. -/
inductive TokenKind where
  | streamStart
  | streamEnd
  /-- A `%YAML` directive with its version. -/
  | versionDirective (major minor : Nat)
  /-- A `%TAG` directive naming a handle and its prefix. -/
  | tagDirective (handle pref : String)
  | documentStart
  | documentEnd
  | blockSequenceStart
  | blockMappingStart
  | blockEnd
  | flowSequenceStart
  | flowSequenceEnd
  | flowMappingStart
  | flowMappingEnd
  | blockEntry
  | flowEntry
  | key
  | value
  | alias (name : String)
  | anchor (name : String)
  /-- A tag as written: its handle and its suffix. -/
  | tag (handle suffix : String)
  | scalar (text : String) (style : Style)
  deriving Repr, BEq

/-- A token with the places where it begins and ends. -/
structure Token where
  kind : TokenKind
  start : Mark
  stop : Mark
  deriving Repr

end Runbook.Yaml

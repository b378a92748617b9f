import Runbook.Json.Parse
/-!
# WebSocket frames

What travels over a WebSocket connection, as one side receives it: text, binary data,
pings and pongs, a close frame, or a failure of the transport. Only text frames carry
elements; a text frame carries one when its text is exactly one JSON value, blanks
around it allowed.
-/

namespace Runbook.Capture

open Json

/-- A frame as the receiving side sees it. -/
inductive Frame where
  | text (s : String)
  | binary (bytes : List UInt8)
  | ping (payload : List UInt8)
  | pong (payload : List UInt8)
  | close
  /-- The transport failed, with the failure's wording. -/
  | failure (reason : String)
  deriving Repr, DecidableEq

/-- Whether a frame ends the connection: a close frame or a failure. -/
def Frame.ends : Frame → Bool
  | .close | .failure _ => true
  | _ => false

/-- The JSON value a frame carries: the value of a text frame that holds one. -/
def Frame.element? : Frame → Option Value
  | .text s =>
    match Json.parse s with
    | .ok v => some v
    | .error _ => none
  | _ => none

end Runbook.Capture

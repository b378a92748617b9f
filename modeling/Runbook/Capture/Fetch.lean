import Runbook.Capture.Frame
import Runbook.Capture.Address
import Runbook.Run.Fault
import Runbook.Network
/-!
# Fetching one element

A fetch asks a browser page for the element a selector names. It connects to the page's
WebSocket address, writes one text frame holding `{"selector": …}`, and takes the first
text frame of the reply as the element, closing the connection once it has it. Binary,
ping and pong frames before it are skipped. A first text frame that is not one JSON value
fails the fetch at once; a close, a transport failure or the end of the frames before any
text fails it as well, and so does a connection that refuses the request. A connection
that cannot be made makes the lookup unavailable.
-/

namespace Runbook.Capture

open Json

/-- The capability a fetch provides. -/
def webLookup : String := "web element lookup"

/-- The request a fetch sends. -/
def fetchRequest (selector : String) : Value := .object [("selector", .string selector)]

/-- The element a fetch takes from the frames its peer sends after the request. -/
def fetchReply : List Frame → Except Fault Value
  | [] => .error (.failed webLookup "connection closed before a reply arrived")
  | .text s :: _ =>
    match Json.parse s with
    | .ok v => .ok v
    | .error e => .error (.failed webLookup ("invalid reply: " ++ e.message))
  | .close :: _ => .error (.failed webLookup "connection closed before a reply arrived")
  | .failure reason :: _ => .error (.failed webLookup reason)
  | .binary _ :: rest => fetchReply rest
  | .ping _ :: rest => fetchReply rest
  | .pong _ :: rest => fetchReply rest

/-- Why a connection to a WebSocket address cannot be made, if it cannot. -/
def connectError? (net : Network) (url : String) : Option String :=
  match connectTarget url with
  | .error e => some e.message
  | .ok _ => net.connectError?.map ("IO error: " ++ ·)

/-- The page's side of a fetch once the connection is made. -/
structure Peer where
  /-- Why the connection refuses the request frame, in the transport's words; `none` when
  it takes it. -/
  sendError? : Option String := none
  /-- The frames the page sends after the request, in order. -/
  replies : List Frame

/-- What a fetch does: the frames it writes, in order, and its answer. Only the frames the
fetch itself writes are listed; the replies the WebSocket layer makes on its own to pings
and closes are not. -/
structure Exchange where
  /-- The request, once connected, whether or not the connection takes it; then a close
  once a reply has been taken. -/
  sent : List Frame
  answer : Except Fault Value

/-- Fetches the element a selector names from the page at `url`. -/
def fetchElement (net : Network) (selector url : String) (peer : Peer) : Exchange :=
  match connectError? net url with
  | some e => ⟨[], .error (.unavailable webLookup ("cannot connect to " ++ url ++ ": " ++ e))⟩
  | none =>
    let request := Frame.text (fetchRequest selector).render
    match peer.sendError? with
    | some e => ⟨[request], .error (.failed webLookup e)⟩
    | none =>
      match fetchReply peer.replies with
      | .ok v => ⟨[request, .close], .ok v⟩
      | .error f => ⟨[request], .error f⟩

end Runbook.Capture

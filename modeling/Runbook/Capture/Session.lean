import Runbook.Capture.Listener
import Runbook.Network
/-!
# A capture session

A session exercises a listener from the outside: the listener is started twice, then
each client in turn connects, sends its frames and closes, and the listener is stopped
twice. Clients connect over the host's network, so on an isolated host the first client
fails and the session ends with that client's error.
-/

namespace Runbook.Capture

open Json

/-- What a session observes of its listener. -/
structure SessionReport where
  /-- The elements captured, oldest first. -/
  elements : List Value
  /-- Whether the listener runs before the first start, after the starts, after the stops. -/
  running : List Bool
  /-- Whether the second start kept the address of the first. -/
  sameAddress : Bool
  /-- The address after stopping. -/
  addressAfterStop : Option (String × Nat)
  /-- Whether each stop succeeded. -/
  stopped : List Bool

/-- The events of clients that each connect, send their frames and close, in turn; a
client stops sending after a close frame. -/
def clientEvents (clients : List (List Frame)) : List Event :=
  clients.zipIdx.flatMap fun (frames, i) =>
    let sent := frames.takeWhile (!·.ends) ++ [Frame.close]
    Event.connect i :: sent.map (Event.frame i)

/-- Runs a session on a listener at `127.0.0.1` with a system-assigned port. -/
def session (net : Network) (assigned : Nat) (clients : List (List Frame)) :
    Except String SessionReport :=
  match net.connectError?, clients with
  | some e, _ :: _ => .error ("IO error: " ++ e)
  | _, _ =>
    let l0 := Listener.create "127.0.0.1" 0 assigned
    let l1 := l0.start
    let l2 := l1.start
    let l3 := l2.run (clientEvents clients)
    let l4 := l3.stop
    let l5 := l4.stop
    .ok { elements := l5.snapshot
          running := [l0.isRunning, l2.isRunning, l5.isRunning]
          sameAddress := l1.address == l2.address
          addressAfterStop := l5.address
          stopped := [true, true] }

end Runbook.Capture

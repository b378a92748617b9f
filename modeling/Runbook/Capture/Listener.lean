import Runbook.Capture.Frame
/-!
# The element capture listener

A listener collects elements that browser pages push over WebSocket connections. While
it runs it accepts connections; on each it appends the element of every text frame that
holds one JSON value, in the order the frames arrive, until the connection sends a close
frame or fails. Other frames, and text that is not one JSON value, are skipped.

Starting a running listener keeps its address; starting a stopped one binds its host and
port, a port of 0 taking the one the system assigns. Stopping ends every connection, so
nothing is appended until the listener starts again and new connections arrive; stopping
a stopped listener does nothing. The buffer only ever grows at its end.
-/

namespace Runbook.Capture

open Json

/-- What happens to a listener: it is started or stopped, a connection opens, or a frame
arrives on a connection. -/
inductive Event where
  | start
  | stop
  | connect (connection : Nat)
  | frame (connection : Nat) (f : Frame)
  deriving Repr, DecidableEq

/-- A listener: where it binds, the address it listens on while running, the elements
captured so far, oldest first, and the connections that are open. -/
structure Listener where
  host : String
  port : Nat
  /-- The port the system assigns when the port asked for is 0. -/
  assigned : Nat := 0
  address : Option (String × Nat) := none
  elements : List Value := []
  live : List Nat := []

namespace Listener

/-- A stopped listener with an empty buffer. -/
def create (host : String) (port assigned : Nat) : Listener :=
  { host, port, assigned }

/-- Whether the listener runs. -/
def isRunning (l : Listener) : Bool := l.address.isSome

/-- Starts the listener, or keeps it running at its address. -/
def start (l : Listener) : Listener :=
  match l.address with
  | some _ => l
  | none => { l with address := some (l.host, if l.port = 0 then l.assigned else l.port) }

/-- Stops the listener, ending every connection. -/
def stop (l : Listener) : Listener := { l with address := none, live := [] }

/-- Opens a connection, which only a running listener accepts. -/
def connect (l : Listener) (c : Nat) : Listener :=
  if l.isRunning && !l.live.contains c then { l with live := l.live ++ [c] } else l

/-- Receives a frame on a connection: an element is appended, a close or a failure ends
the connection, anything else is skipped. Frames on connections that are not open are
lost. -/
def receive (l : Listener) (c : Nat) (f : Frame) : Listener :=
  if l.isRunning && l.live.contains c then
    if f.ends then { l with live := l.live.erase c }
    else match f.element? with
      | some v => { l with elements := l.elements ++ [v] }
      | none => l
  else l

/-- The listener after an event. -/
def step (l : Listener) : Event → Listener
  | .start => l.start
  | .stop => l.stop
  | .connect c => l.connect c
  | .frame c f => l.receive c f

/-- The listener after a sequence of events. -/
def run (l : Listener) (events : List Event) : Listener := events.foldl step l

/-- The elements captured so far. -/
def snapshot (l : Listener) : List Value := l.elements

end Listener

end Runbook.Capture

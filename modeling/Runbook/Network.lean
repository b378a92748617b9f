/-!
# The host's network

Some providers open connections: mail goes to an SMTP server, element fetches and
capture clients open WebSocket connections. Whether a connection reaches its peer is a
property of the host, not of the program. On an isolated host every outgoing connection
fails before it reaches its peer, with the operating system's "Network is unreachable"
error, while listening for connections still succeeds. The program as modelled here has
no transport of its own, so it runs as on an isolated host.
-/

namespace Runbook

/-- How a host's network treats outgoing connections. -/
inductive Network where
  /-- Connections reach their peers. -/
  | connected
  /-- No connection leaves the host. -/
  | isolated
  deriving Repr, DecidableEq

/-- The operating system's error for a connection that cannot leave the host. -/
def unreachableError : String := "Network is unreachable (os error 101)"

/-- The error an outgoing connection meets, if any. -/
def Network.connectError? : Network → Option String
  | .connected => none
  | .isolated => some unreachableError

end Runbook

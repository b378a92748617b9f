import Runbook.Run.Handlers
/-!
# Configuration

The configuration has four sections: logging (level and format words), mail (server,
port and sender), the engine (how deep steps may nest) and the element capture listener
(host and port). Every field has a default, so a configuration file may give any part of
it. The run settings take the engine's depth and the mail server and sender, falling
back to `localhost` and `stepflow@localhost`.
-/

namespace Runbook

open Json

/-- How the program logs. -/
structure LoggingConfig where
  level : String := "info"
  format : String := "pretty"
  deriving Repr, DecidableEq

/-- Where mail goes. -/
structure SmtpConfig where
  server : Option String := none
  port : Nat := 25
  fromAddr : Option String := none
  deriving Repr, DecidableEq

/-- Limits of the engine. -/
structure EngineConfig where
  maxDepth : Nat := 64
  deriving Repr, DecidableEq

/-- Where the element capture listener listens. -/
structure CaptureConfig where
  host : String := "localhost"
  port : Nat := 8765
  deriving Repr, DecidableEq

/-- The whole configuration. -/
structure Config where
  logging : LoggingConfig := {}
  smtp : SmtpConfig := {}
  engine : EngineConfig := {}
  capture : CaptureConfig := {}
  deriving Repr, DecidableEq

/-- The settings a run takes from the configuration. -/
def Config.settings (c : Config) : Settings :=
  { maxDepth := c.engine.maxDepth
    smtpServer := c.smtp.server.getD "localhost"
    fromAddr := c.smtp.fromAddr.getD "stepflow@localhost" }

/-- The configuration as an object, one object per section. -/
def Config.toValue (c : Config) : Value :=
  .object [
    ("capture", .object [("host", str c.capture.host), ("port", nat c.capture.port)]),
    ("engine", .object [("max_depth", nat c.engine.maxDepth)]),
    ("logging", .object [("format", str c.logging.format), ("level", str c.logging.level)]),
    ("smtp", .object [("from_addr", opt str c.smtp.fromAddr), ("port", nat c.smtp.port),
      ("server", opt str c.smtp.server)])]

/-- Run settings as an object. -/
def Settings.toValue (s : Settings) : Value :=
  .object [("from_addr", str s.fromAddr), ("max_depth", nat s.maxDepth),
    ("smtp_server", str s.smtpServer)]

end Runbook

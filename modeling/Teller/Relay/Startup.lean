/-
The program that relays the outbox, up to the point where it would reach its database.

* `Startup`: the log, the last words on standard error and the exit code;
* `Startup.ofEnvironment`: settings are checked, then the database is connected to; no driver for a
  database is linked, so that every address is refused.
-/
import Teller.Relay.LogFilter
import Teller.Settings

namespace Teller

/-- How the program ended. -/
structure Startup where
  log : List LogLine
  errors : List String
  exitCode : Nat
  deriving DecidableEq

namespace Startup

/-- The target of the program's own lines. -/
def target : String := "wallet_relay"

/-- The variables of the environment that the program reads. -/
def variableNames : List String := [
  "DATABASE_URL", "DATABASE_MAX_CONNECTIONS", "RATE_CACHE_TTL_MS", "RATE_CLIENT_MAX_ATTEMPTS",
  "RATE_CLIENT_TIMEOUT_MS", "OUTBOX_INTERVAL_MS", "OUTBOX_BATCH_SIZE", "OUTBOX_TOPIC", "LOG_LEVEL",
  "RUST_LOG"]

/-- The line at the start. -/
def startLine : LogLine :=
  ⟨.info, target, [("message", "Starting wallet outbox relay")]⟩

/-- The line about settings that are refused. -/
def settingsLine (e : SettingsError) : LogLine :=
  ⟨.error, target, [("message", "Invalid configuration"), ("error", e.message)]⟩

/-- The error of an address that is refused. -/
def addressError : LedgerError := .storeUnavailable .address

/-- The program under an environment. -/
def ofEnvironment (env : String → Option String) : Startup :=
  let settings := Settings.ofEnvironment env
  let directives := (env "RUST_LOG").getD settings.logLevel
  let filter := LogFilter.ofText directives
  let written (lines : List LogLine) : List LogLine :=
    lines.filter filter.allows
  let ignored := (LogFilter.refused directives).map fun (part, fault) =>
    s!"ignoring `{part}`: {fault.message}"
  match settings.fault? with
  | some e =>
    ⟨written [startLine, settingsLine e], ignored ++ ["Error: Configuration error: " ++ e.message],
      1⟩
  | none => ⟨written [startLine], ignored ++ ["Error: " ++ addressError.message], 1⟩

end Startup

end Teller

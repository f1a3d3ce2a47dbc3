/-
The program that relays the outbox.

* `main`: reads its settings from the environment, writes its log to standard output and its last
  words to standard error.
-/
import Teller.Relay.Startup

open Teller in
/-- Runs the relay under the environment of the process. -/
def main : IO UInt32 := do
  let values ← Startup.variableNames.mapM fun name => do
    return (name, ← IO.getEnv name)
  let startup := Startup.ofEnvironment fun name => (values.lookup name).join
  for line in startup.log do
    IO.println line.text
  for line in startup.errors do
    IO.eprintln line
  return startup.exitCode.toUInt32

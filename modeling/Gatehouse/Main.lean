import Gatehouse.Startup
import Gatehouse.Json.Writer

/-!
The server's command line: start-up from the process environment.

The variables the server reads are looked up once; start-up runs on them (`Startup.launch`),
its log lines are written to standard output in the chosen format, and the exit code is the
one start-up ends with. A server that gets as far as listening reports its address and stops
here with success: serving requests is the work of the request layer (`Web.handle`), which a
network front end drives.
-/

namespace Gatehouse.Cli

/-- The environment variables the server reads. -/
def variableNames : List String :=
  ["JWT_ACCESS_SECRET", "JWT_REFRESH_SECRET", "ACCESS_TOKEN_TTL_SECS", "REFRESH_TOKEN_TTL_SECS",
    "SESSION_CACHE_TTL_SECS", "HOST", "PORT", "CACHE_URL", "CACHE_CAPACITY",
    "SEED_MEMBER_IDENTITY", "SEED_MEMBER_PASSWORD", "LOG_FORMAT", "RUST_LOG"]

/-- The lines start-up writes. -/
def outputLines (l : Startup.Launch) : List String :=
  match l.format with
  | .pretty => l.events.map Log.Event.pretty
  | .json => l.events.map fun e => e.toJson.render

end Gatehouse.Cli

open Gatehouse in
/-- Runs server start-up with the process environment. -/
def main : IO UInt32 := do
  let env ← Cli.variableNames.filterMapM fun name => do
    return (← IO.getEnv name).map (name, ·)
  let lookup (name : String) : Option String := (env.find? (·.1 == name)).map (·.2)
  let l := Startup.launch lookup
  let stdout ← IO.getStdout
  for line in Cli.outputLines l do
    stdout.putStrLn line
  stdout.flush
  return (l.ending.exitCode?.getD 0).toUInt32

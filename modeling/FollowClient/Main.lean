import FollowClient.CommandLine.Run

/-!
The program. It reads its variables and the file `.env`, and ends as the command line says. It has no
connection of its own, so a command that needs one fails as it does without a network.
-/

namespace FollowClient

/-- The variables that the program looks at. -/
def variableNames : List String :=
  ["FEDI3_CORE_URL", "FEDI3_INTERNAL_TOKEN", "FEDI3_HTTP_TIMEOUT_SECS", "FEDI3_USER_AGENT",
    "FEDI3_ACTOR_CACHE_TTL_SECS", "FEDI3_POLL_INTERVAL_SECS", "FEDI3_RECHECK_DELAY_SECS",
    "FEDI3_OUTBOX_PAGE_SIZE", "FEDI3_RELAY_URL", "RUST_LOG", "FEDI3_LOG_FORMAT"]

/-- The variables of the process. -/
def processEnvironment : IO Environment := do
  let values ← variableNames.mapM fun name => do
    pure ((← IO.getEnv name).map fun value => (name, value))
  pure (values.filterMap id)

/-- The text of a file, if it can be read. -/
def fileText? (path : String) : IO (Option String) := do
  try
    pure (some (← IO.FS.readFile path))
  catch _ => pure none

/-- Runs the program and gives its exit code. -/
def program (args : List String) : IO UInt32 := do
  let process ← processEnvironment
  let file ← fileText? ".env"
  let (ending, _) := CommandLine.run process file args Net.Network.offline
  IO.print ending.output
  match ending.errors? with
  | some text => IO.eprintln text
  | none =>
    if ending = .misuse then IO.eprint (CommandLine.Report.lines CommandLine.helpLines)
  pure (UInt32.ofNat ending.code)

end FollowClient

/-- The entry of the program. -/
def main (args : List String) : IO UInt32 := FollowClient.program args

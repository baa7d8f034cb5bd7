import FollowClient.CommandLine.Arguments
import FollowClient.CommandLine.LogFilter
import FollowClient.CommandLine.Report
import FollowClient.Config.Basic
import FollowClient.View.Live

/-!
The command line. The configuration is read and checked first, then the arguments are understood, and
then the client is set up; a command is carried out only when all of this succeeds.
-/

namespace FollowClient.CommandLine

open Net

/-- How the program ends. -/
inductive Ending where
  /-- All went well; what was printed. -/
  | done (output : String)
  /-- Something failed; the lines that say so. -/
  | failed (complaints : List String) (message : String)
  /-- The arguments were not understood. -/
  | misuse
  /-- The program broke off. -/
  | broken
  deriving DecidableEq, Repr

namespace Ending

/-- The exit code. -/
def code : Ending → Nat
  | done _ => 0
  | failed _ _ => 1
  | misuse => 2
  | broken => 101

/-- What is printed on the standard output. -/
def output : Ending → String
  | done text => text
  | _ => ""

/-- What is printed on the standard error when something has failed. -/
def errors? : Ending → Option String
  | failed complaints message =>
    some (String.join (complaints.map (· ++ "\n")) ++ "Error: " ++ message)
  | _ => none

end Ending

/-- The name of the program and its version. -/
def versionLine : String := "fedi3-follow 0.1.0"

/-- What the program says about itself. -/
def helpLines : List String :=
  ["Inspect and follow remote actors through the Fedi3 core", "",
    "Usage: fedi3-follow <COMMAND>", "", "Commands: " ++ ", ".intercalate commandNames]

/-! ### Commands -/

/-- The output of a command, or the message of its failure, and the requests sent so far. -/
abbrev Run := Except String String × List Request

/-- The displayed profile, or why there is none. -/
def shown (s : Live) : Except String Profile :=
  match s.view.display.profile, s.view.display.error with
  | some p, _ => .ok p
  | none, some message => .error message
  | none, none => .error "actor could not be resolved"

/-- Shows the profile of an actor. -/
def runProfile (w : Live.World) (actor : String) : Run :=
  let s := (Live.start []).resolve w actor
  ((shown s).map fun p => Report.lines (Report.profile p s.view.display), s.sent)

/-- Shows the status of an actor. -/
def runStatus (w : Live.World) (actor : String) : Run :=
  match w.core.followingStatus (Text.trim actor) w.network [] with
  | (.ok status, sent) => (.ok (Report.lines [status.name]), sent)
  | (.error f, sent) => (.error f.message, sent)

/-- How long a follow stays after its re-check, in milliseconds. -/
def grace : Nat := 250

/-- Toggles the follow of an actor and waits for the re-check. -/
def runFollow (w : Live.World) (actor : String) : Run :=
  let s := (Live.start []).resolve w actor
  match shown s with
  | .error message => (.error message, s.sent)
  | .ok _ =>
    match s.toggle w with
    | (s, .issued status) =>
      let s' := s.sleep w (w.setup.settings.recheckDelay + grace)
      (.ok (Report.lines [Report.status status, Report.status s'.status]), s'.sent)
    | (s, .failed message) => (.error message, s.sent)
    | (s, .skipped) => (.error "nothing to do", s.sent)

/-- The lines of a watch after its first, which looks at the status once a second, and the view at
its end. -/
def watch (w : Live.World) : Nat → Live → List String × Live
  | 0, s => ([], s)
  | n + 1, s =>
    let s' := s.sleep w 1000
    let (rest, last) := watch w n s'
    (if s'.status = s.status then (rest, last) else (Report.status s'.status :: rest, last))

/-- Shows the status of an actor and its changes. -/
def runWatch (w : Live.World) (actor : String) (secs : Nat) : Run :=
  let s := (Live.start []).resolve w actor
  match shown s with
  | .error message => (.error message, s.sent)
  | .ok _ =>
    let (changes, last) := watch w secs s
    (.ok (Report.lines (Report.status s.status :: changes)), last.sent)

/-- Shows what a relay knows: the one named by the arguments, or else by the configuration. -/
def runRelays (w : Live.World) (config : Config) (relay : Option String) : Run :=
  match relay.or config.relayUrl with
  | none => (.error "no relay given and FEDI3_RELAY_URL is not set", [])
  | some relay =>
    match Relay.preview w.core.timeout relay w.network [] with
    | (.ok preview, sent) => (.ok (Report.lines [(Report.preview preview).pretty]), sent)
    | (.error f, sent) => (.error f.message, sent)

/-- The end of an operation under its policy: an absorbed failure prints nothing. -/
def runSettled {α : Type} (w : Live.World) (x : Exchange (Outcome α)) (report : α → List String) :
    Run :=
  match x w.network [] with
  | (.ok (.done a), sent) => (.ok (Report.lines (report a)), sent)
  | (.ok .absorbed, sent) => (.ok "", sent)
  | (.ok (.failed message), sent) => (.error message, sent)
  | (.error f, sent) => (.error f.message, sent)

/-- Carries out a command. -/
def runCommand (w : Live.World) (config : Config) : Command → Run
  | .profile actor => runProfile w actor
  | .status actor => runStatus w actor
  | .follow actor => runFollow w actor
  | .watch actor secs => runWatch w actor secs
  | .relays relay => runRelays w config relay
  | .migration => runSettled w w.core.loadMigration fun s => [s.toJson.pretty]
  | .aliases list => runSettled w (w.core.saveAliases list) Report.aliases

/-! ### The program -/

/-- What a configured client talks to. -/
def world (config : Config) (network : Network) : Except Failure Live.World := do
  let repository ← config.repository
  let setup : View.Setup := { settings := config.follow, hasControl := true }
  pure { setup, repository, core := config.core, network }

/-- Runs the program with the variables of its process, the file that adds to them, and its
arguments. -/
def run (process : Environment) (file : Option String) (args : List String) (network : Network) :
    Ending × List Request :=
  if (Config.loaded process file).broke then (.broken, [])
  else
    match Config.load process file with
    | .error f => (.failed [] f.message, [])
    | .ok config =>
      match LogFilter.complaints? ((Config.environment process file).get? "RUST_LOG") with
      | none => (.broken, [])
      | some complaints =>
        match config.check with
        | .error f => (.failed complaints f.message, [])
        | .ok () =>
          match read args with
          | .misuse => (.misuse, [])
          | .version => (.done (versionLine ++ "\n"), [])
          | .help => (.done (Report.lines helpLines), [])
          | .run command =>
            match world config network with
            | .error f => (.failed complaints f.message, [])
            | .ok w =>
              match runCommand w config command with
              | (.ok output, sent) => (.done output, sent)
              | (.error message, sent) => (.failed complaints message, sent)

end FollowClient.CommandLine

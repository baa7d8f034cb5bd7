import FollowClient.Actor.Repository
import FollowClient.Config.EnvFile
import FollowClient.Core.Client
import FollowClient.Settings
import FollowClient.Text.Quoted

/-!
The configuration of the client. It is read from the variables of a process after a loader has added
those of a file: a variable that cannot be read has a default, and of the numbers only the timeout
has to be one. `check` says what makes a configuration unusable, and `toEnvironment` writes the
variables that give a configuration.
-/

namespace FollowClient

/-- The configuration of the client. -/
structure Config where
  coreUrl : String
  internalToken : String
  coreTimeoutSecs : Nat
  userAgent : String
  actorTimeoutSecs : Nat
  cacheTtlSecs : Nat
  follow : FollowSettings
  relayUrl : Option String
  logLevel : String
  logJson : Bool
  deriving DecidableEq, Repr

namespace Config

/-! ### Reading -/

/-- A number of sixty-four bits. -/
def number? (s : String) : Option Nat := Text.Decimal.read? Text.Decimal.wordBound s

section Reading

variable (read? : String → Option String)

/-- The number of a variable; a missing or unusable one has its default. -/
def numberOr (name : String) (default : Nat) : Nat :=
  ((read? name).bind number?).getD default

/-- The text of a variable, or its default. -/
def textOr (name default : String) : String := (read? name).getD default

/-- The timeout, if the variable for it is missing or a number. -/
def timeout? : Except Failure Nat :=
  match number? (textOr read? "FEDI3_HTTP_TIMEOUT_SECS" "10") with
  | some n => .ok n
  | none => .error (.config "Invalid FEDI3_HTTP_TIMEOUT_SECS")

/-- The relay, if one is named. -/
def relay? : Option String :=
  ((read? "FEDI3_RELAY_URL").map Net.baseOf).filter (!·.isEmpty)

/-- Reads a configuration from variables. -/
def ofValues : Except Failure Config := do
  let timeout ← timeout? read?
  let defaults := FollowSettings.default
  pure {
    coreUrl := Net.baseOf (textOr read? "FEDI3_CORE_URL" Core.defaultBase)
    internalToken := textOr read? "FEDI3_INTERNAL_TOKEN" ""
    coreTimeoutSecs := timeout
    userAgent := textOr read? "FEDI3_USER_AGENT" Repository.defaultUserAgent
    actorTimeoutSecs := timeout
    cacheTtlSecs := numberOr read? "FEDI3_ACTOR_CACHE_TTL_SECS" Repository.defaultTtlSecs
    follow := {
      pollIntervalSecs := numberOr read? "FEDI3_POLL_INTERVAL_SECS" defaults.pollIntervalSecs
      recheckDelaySecs := numberOr read? "FEDI3_RECHECK_DELAY_SECS" defaults.recheckDelaySecs
      outboxPageSize := numberOr read? "FEDI3_OUTBOX_PAGE_SIZE" defaults.outboxPageSize }
    relayUrl := relay? read?
    logLevel := textOr read? "RUST_LOG" "info"
    logJson := (read? "FEDI3_LOG_FORMAT").any fun v => Text.lower v = "json" }

end Reading

/-- Reads a configuration from the variables of a process and what the loader adds to them, unless
that breaks the program off. -/
def ofProcess (loader : Loader) (process : Variables) : Option (Except Failure Config) :=
  (loader process).map fun vars => ofValues vars.read?

/-- What loading a file comes to, if there is one. -/
def loaded (process : Environment) (file : Option String) : EnvFile.Loaded :=
  (file.map (EnvFile.load process.get?)).getD ⟨[], false⟩

/-- The variables of the process with those that a file adds. -/
def environment (process : Environment) (file : Option String) : Environment :=
  process ++ (loaded process file).added

/-- Reads a configuration from the variables of the process and a file that adds to them, where the
file does not break the program off. -/
def load (process : Environment) (file : Option String) : Except Failure Config :=
  ofValues (environment process file).get?

/-! ### Checking -/

/-- The text starts with a scheme for web addresses, and something follows it. -/
def isWebUrl (s : String) : Bool :=
  let cs := s.toList
  let http := "http://".toList
  let https := "https://".toList
  if http.isPrefixOf cs then !(cs.drop http.length).isEmpty
  else https.isPrefixOf cs && !(cs.drop https.length).isEmpty

/-- What is wrong with a configuration first, if anything is. -/
def fault? (c : Config) : Option String :=
  if !isWebUrl c.coreUrl then
    some ("Core URL must be http(s): " ++ Text.Quoted.encode c.coreUrl)
  else
    match c.relayUrl.filter (!isWebUrl ·) with
    | some relay => some ("Relay URL must be http(s): " ++ Text.Quoted.encode relay)
    | none =>
      if c.coreTimeoutSecs = 0 then some "HTTP timeout cannot be zero"
      else if c.follow.pollIntervalSecs = 0 then some "Poll interval cannot be zero"
      else if c.follow.outboxPageSize = 0 then some "Outbox page size cannot be zero"
      else none

/-- Checks a configuration. -/
def check (c : Config) : Except Failure Unit :=
  match c.fault? with
  | some text => .error (.config text)
  | none => .ok ()

/-! ### Writing -/

/-- The variables that give a configuration, whose two timeouts are one. -/
def toEnvironment (c : Config) : Environment :=
  [("FEDI3_CORE_URL", c.coreUrl),
    ("FEDI3_INTERNAL_TOKEN", c.internalToken),
    ("FEDI3_HTTP_TIMEOUT_SECS", Text.Decimal.text c.coreTimeoutSecs),
    ("FEDI3_USER_AGENT", c.userAgent),
    ("FEDI3_ACTOR_CACHE_TTL_SECS", Text.Decimal.text c.cacheTtlSecs),
    ("FEDI3_POLL_INTERVAL_SECS", Text.Decimal.text c.follow.pollIntervalSecs),
    ("FEDI3_RECHECK_DELAY_SECS", Text.Decimal.text c.follow.recheckDelaySecs),
    ("FEDI3_OUTBOX_PAGE_SIZE", Text.Decimal.text c.follow.outboxPageSize),
    ("FEDI3_RELAY_URL", c.relayUrl.getD ""),
    ("RUST_LOG", c.logLevel),
    ("FEDI3_LOG_FORMAT", if c.logJson then "json" else "text")]

/-! ### Parts of the client -/

/-- The client of the core. -/
def core (c : Config) : Core :=
  Core.create c.coreUrl c.internalToken (1000 * c.coreTimeoutSecs)

/-- The repository of actors. -/
def repository (c : Config) : Except Failure Repository :=
  Repository.create c.userAgent (1000 * c.actorTimeoutSecs) c.cacheTtlSecs

end Config

end FollowClient

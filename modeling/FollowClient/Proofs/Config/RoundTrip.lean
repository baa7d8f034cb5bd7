import FollowClient.Proofs.Config.Variables

/-!
Configurations through the environment. When the variables of a process say what the settings of a
configuration are, then this configuration is read from them, whatever a file adds, provided that it
can be written in variables at all (`ofProcess_eq_ok_iff_expressible`). `environment_round_trips`
adds what happens to the variables that say nothing usable. Only of the loader of the file it is
assumed that it adds the values of the file and does not break the program off. What is not read as
a value does not count, wherever it stands (`unread_timeouts_do_not_count`).
-/

namespace FollowClient.Config

open Text

/-- Variables can give the configuration. -/
structure Expressible (c : Config) : Prop where
  timeouts : c.actorTimeoutSecs = c.coreTimeoutSecs
  timeout : c.coreTimeoutSecs < Decimal.wordBound
  cacheTtl : c.cacheTtlSecs < Decimal.wordBound
  pollInterval : c.follow.pollIntervalSecs < Decimal.wordBound
  recheckDelay : c.follow.recheckDelaySecs < Decimal.wordBound
  outboxPageSize : c.follow.outboxPageSize < Decimal.wordBound
  coreUrl : Net.baseOf c.coreUrl = c.coreUrl
  relayUrl (relay : String) : c.relayUrl = some relay → relay ≠ "" ∧ Net.baseOf relay = relay

/-- The variable has a numeral for the number. -/
def Gives (process : Variables) (name : String) (n : Nat) : Prop :=
  ∃ text, process.read? name = some text ∧ Decimal.Denotes text n

/-- The variables of the process say what the settings are. -/
structure Describes (process : Variables) (c : Config) : Prop where
  coreUrl : process.read? "FEDI3_CORE_URL" = some c.coreUrl
  internalToken : process.read? "FEDI3_INTERNAL_TOKEN" = some c.internalToken
  timeout : Gives process "FEDI3_HTTP_TIMEOUT_SECS" c.coreTimeoutSecs
  userAgent : process.read? "FEDI3_USER_AGENT" = some c.userAgent
  cacheTtl : Gives process "FEDI3_ACTOR_CACHE_TTL_SECS" c.cacheTtlSecs
  pollInterval : Gives process "FEDI3_POLL_INTERVAL_SECS" c.follow.pollIntervalSecs
  recheckDelay : Gives process "FEDI3_RECHECK_DELAY_SECS" c.follow.recheckDelaySecs
  outboxPageSize : Gives process "FEDI3_OUTBOX_PAGE_SIZE" c.follow.outboxPageSize
  /-- No relay is said with an empty text. -/
  relayUrl : process.read? "FEDI3_RELAY_URL" = some (c.relayUrl.getD "")
  logLevel : process.read? "RUST_LOG" = some c.logLevel
  /-- The format is `json` in any letters, or another word. -/
  logJson : ∃ text, process.read? "FEDI3_LOG_FORMAT" = some text ∧ (lower text = "json" ↔ c.logJson)

theorem describes_toEnvironment (c : Config) : Describes c.toEnvironment.process c where
  coreUrl := rfl
  internalToken := rfl
  timeout := ⟨_, rfl, Decimal.denotes_text _⟩
  userAgent := rfl
  cacheTtl := ⟨_, rfl, Decimal.denotes_text _⟩
  pollInterval := ⟨_, rfl, Decimal.denotes_text _⟩
  recheckDelay := ⟨_, rfl, Decimal.denotes_text _⟩
  outboxPageSize := ⟨_, rfl, Decimal.denotes_text _⟩
  relayUrl := rfl
  logLevel := rfl
  logJson := by
    refine ⟨_, rfl, ?_⟩
    cases c.logJson <;> decide

section Described

variable {process : Variables} {file? : String → Option String}

theorem value?_of_process {name value : String} (h : process.read? name = some value) :
    process.value? file? name = some value := by
  rw [Variables.value?, h, Option.some_or]

/-- What the process gives is the number that counts, unless it has more than sixty-four bits. -/
theorem Gives.isNumberOr_iff {name : String} {default n : Nat} (h : Gives process name n)
    (hd : default < Decimal.wordBound) :
    IsNumberOr (process.value? file? name) default n ↔ n < Decimal.wordBound := by
  obtain ⟨text, own, denotes⟩ := h
  rw [value?_of_process own]
  constructor
  · rintro (⟨_, -, -, below⟩ | ⟨-, rfl⟩)
    · exact below
    · exact hd
  · intro below
    exact .inl ⟨text, rfl, denotes, below⟩

theorem Gives.isNumber_iff {name other : String} {n : Nat} (h : Gives process name n) :
    IsNumber ((process.value? file? name).getD other) n ↔ n < Decimal.wordBound := by
  obtain ⟨text, own, denotes⟩ := h
  rw [value?_of_process own, Option.getD_some]
  exact and_iff_right denotes

theorem Describes.relayUrl_iff {c : Config} (h : Describes process c) :
    (∀ relay, c.relayUrl = some relay ↔ relay ≠ "" ∧
      ∃ text, process.value? file? "FEDI3_RELAY_URL" = some text ∧ Net.baseOf text = relay) ↔
    ∀ relay, c.relayUrl = some relay → relay ≠ "" ∧ Net.baseOf relay = relay := by
  rw [value?_of_process h.relayUrl]
  cases c.relayUrl with
  | none =>
    have empty : Net.baseOf "" = "" := by decide
    simp [empty]
  | some own =>
    simp only [Option.getD_some, Option.some.injEq, exists_eq_left', forall_eq']
    constructor
    · intro h
      exact (h own).1 rfl
    · rintro ⟨any, same⟩ relay
      rw [same]
      exact ⟨fun h => ⟨h ▸ any, h⟩, And.right⟩

/-- **Variables that describe a configuration give this one exactly if variables can.** -/
theorem ofProcess_eq_ok_iff_expressible {loader : Loader} (adds : loader.Adds process file?)
    {c : Config} (h : Describes process c) :
    ofProcess loader process = some (.ok c) ↔ Expressible c := by
  rw [ofProcess_of_adds adds, Option.some_inj, ofValues_eq_ok_iff]
  constructor
  · intro read
    exact {
      timeouts := read.actorTimeout
      timeout := h.timeout.isNumber_iff.1 read.coreTimeout
      cacheTtl := (h.cacheTtl.isNumberOr_iff (by decide)).1 read.cacheTtl
      pollInterval := (h.pollInterval.isNumberOr_iff (by decide)).1 read.pollInterval
      recheckDelay := (h.recheckDelay.isNumberOr_iff (by decide)).1 read.recheckDelay
      outboxPageSize := (h.outboxPageSize.isNumberOr_iff (by decide)).1 read.outboxPageSize
      coreUrl := by simpa [value?_of_process h.coreUrl] using read.coreUrl.symm
      relayUrl := h.relayUrl_iff.1 read.relayUrl }
  · intro fit
    obtain ⟨format, own, json⟩ := h.logJson
    exact {
      coreUrl := by simpa [value?_of_process h.coreUrl] using fit.coreUrl.symm
      internalToken := by rw [value?_of_process h.internalToken, Option.getD_some]
      coreTimeout := h.timeout.isNumber_iff.2 fit.timeout
      userAgent := by rw [value?_of_process h.userAgent, Option.getD_some]
      actorTimeout := fit.timeouts
      cacheTtl := (h.cacheTtl.isNumberOr_iff (by decide)).2 fit.cacheTtl
      pollInterval := (h.pollInterval.isNumberOr_iff (by decide)).2 fit.pollInterval
      recheckDelay := (h.recheckDelay.isNumberOr_iff (by decide)).2 fit.recheckDelay
      outboxPageSize := (h.outboxPageSize.isNumberOr_iff (by decide)).2 fit.outboxPageSize
      relayUrl := h.relayUrl_iff.2 fit.relayUrl
      logLevel := by rw [value?_of_process h.logLevel, Option.getD_some]
      logJson := by simpa [value?_of_process own] using json.symm }

end Described

/-- **A configuration survives the environment.** Let a loader add the values of a file to a
process. What fails then is a timeout that counts and is no number; any other number that is missing
or unusable has its default. -/
theorem environment_round_trips {loader : Loader} {process : Variables}
    {file? : String → Option String} (adds : loader.Adds process file?) :
    (∀ c, Expressible c → Describes process c → ofProcess loader process = some (.ok c)) ∧
    (∀ f, ofProcess loader process = some (.error f) ↔
      f = .config "Invalid FEDI3_HTTP_TIMEOUT_SECS" ∧
        ∃ text, process.value? file? "FEDI3_HTTP_TIMEOUT_SECS" = some text ∧
          ∀ n, ¬IsNumber text n) ∧
    ∀ c, ofProcess loader process = some (.ok c) →
      IsNumberOr (process.value? file? "FEDI3_ACTOR_CACHE_TTL_SECS") 300 c.cacheTtlSecs ∧
      IsNumberOr (process.value? file? "FEDI3_POLL_INTERVAL_SECS") 6 c.follow.pollIntervalSecs ∧
      IsNumberOr (process.value? file? "FEDI3_RECHECK_DELAY_SECS") 2 c.follow.recheckDelaySecs ∧
      IsNumberOr (process.value? file? "FEDI3_OUTBOX_PAGE_SIZE") 20 c.follow.outboxPageSize := by
  refine ⟨?_, ?_, ?_⟩
  · intro c fit described
    exact (ofProcess_eq_ok_iff_expressible adds described).2 fit
  · intro f
    rw [ofProcess_of_adds adds, Option.some_inj]
    exact ofValues_eq_error_iff
  · intro c loaded
    rw [ofProcess_of_adds adds, Option.some_inj] at loaded
    have read : ReadFrom (process.value? file?) c := ofValues_eq_ok_iff.1 loaded
    exact ⟨read.cacheTtl, read.pollInterval, read.recheckDelay, read.outboxPageSize⟩

/-- A configuration without a relay, with the largest time to live that a variable can give. -/
def patient : Config where
  coreUrl := "https://core.test"
  internalToken := " "
  coreTimeoutSecs := 7
  userAgent := ""
  actorTimeoutSecs := 7
  cacheTtlSecs := 0xFFFFFFFFFFFFFFFF
  follow := ⟨1, 0, 3⟩
  relayUrl := none
  logLevel := "warn"
  logJson := true

theorem expressible_patient : Expressible patient where
  timeouts := rfl
  timeout := by decide
  cacheTtl := by decide
  pollInterval := by decide
  recheckDelay := by decide
  outboxPageSize := by decide
  coreUrl := by decide
  relayUrl := fun relay given => nomatch given

/-- A file adds no relay where the process says that there is none. -/
theorem patient_round_trips :
    let loader := EnvFile.loader "FEDI3_RELAY_URL=https://relay.test"
    let process := patient.toEnvironment.process
    Expressible patient ∧ Describes process patient ∧
      ofProcess loader process = some (.ok patient) := by
  intro loader process
  have adds : loader.Adds process
      (EnvFile.load process.read? "FEDI3_RELAY_URL=https://relay.test").added.get? :=
    EnvFile.adds_loader (by decide)
  have described : Describes process patient := describes_toEnvironment patient
  exact ⟨expressible_patient, described,
    (environment_round_trips adds).1 patient expressible_patient described⟩

/-- A process whose timeout is set to bytes that are no text, and nothing else. -/
def garbled : Variables := fun name =>
  if name = "FEDI3_HTTP_TIMEOUT_SECS" then .unreadable else .unset

/-- A timeout that is set to no number does not count if it cannot be read, nor if a line before it
in the file cannot be read. And a null character in a file leaves no configuration, also where the
variables of the process describe one. -/
theorem unread_timeouts_do_not_count :
    (∃ c, ofProcess some garbled = some (.ok c) ∧ c.coreTimeoutSecs = 10) ∧
    (∃ c, ofProcess (EnvFile.loader "NOTE=a b\nFEDI3_HTTP_TIMEOUT_SECS=ten") (fun _ => .unset) =
      some (.ok c) ∧ c.coreTimeoutSecs = 10) ∧
    Expressible patient ∧ Describes patient.toEnvironment.process patient ∧
    ofProcess (EnvFile.loader "NOTE=\x00") patient.toEnvironment.process = none :=
  ⟨⟨_, rfl, rfl⟩, ⟨_, rfl, rfl⟩, expressible_patient, describes_toEnvironment patient, rfl⟩

end FollowClient.Config

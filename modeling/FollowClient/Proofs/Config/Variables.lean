import FollowClient.Config.Basic
import FollowClient.Proofs.Text.Numerals

/-!
Where a configuration comes from. A variable has the value of the process, and if it has none there
that can be read, the value that the loader takes from its file (`Loader.Adds`). A configuration is
read from these values and from nothing else: `ofValues_eq_ok_iff` says what each of its settings
is, and `ofValues_eq_error_iff` when there is no configuration.
-/

namespace FollowClient

open Text

/-! ### The variables of a file -/

/-- The value that counts for a variable: that of the process, else that of the file. -/
def Variables.value? (process : Variables) (file? : String → Option String) (name : String) :
    Option String :=
  (process.read? name).or (file? name)

/-- The loader gives the variables that cannot be read the values of its file, where that has any,
and leaves alone what can be read. -/
def Loader.Adds (loader : Loader) (process : Variables) (file? : String → Option String) : Prop :=
  ∃ vars, loader process = some vars ∧ vars.read? = process.value? file?

namespace EnvFile

/-- A file that does not break the program off is added. -/
theorem adds_loader {file : String} {process : Variables}
    (h : (load process.read? file).broke = false) :
    (loader file).Adds process (load process.read? file).added.get? :=
  ⟨_, if_neg (by simp [h]), funext (Variables.read?_fill process _)⟩

end EnvFile

namespace Config

/-- The variables that a file adds to a process with these variables. -/
def assigned (process : Environment) (file : Option String) : Environment :=
  (loaded process file).added

/-- The value that counts for a variable: that of the process, else that of the file. -/
def effective? (process : Environment) (file : Option String) (name : String) : Option String :=
  (process.get? name).or ((assigned process file).get? name)

theorem get?_environment (process : Environment) (file : Option String) :
    (environment process file).get? = effective? process file := by
  funext name
  exact List.lookup_append

/-! ### The settings -/

/-- The text is a numeral for a number of sixty-four bits. -/
def IsNumber (text : String) (n : Nat) : Prop := Decimal.Denotes text n ∧ n < Decimal.wordBound

/-- The number of the value, or the default if there is no value or none with a number. -/
def IsNumberOr (value : Option String) (default n : Nat) : Prop :=
  (∃ text, value = some text ∧ IsNumber text n) ∨
    (∀ text, value = some text → ∀ m, ¬IsNumber text m) ∧ n = default

/-- The configuration is the one that these values of the variables give. -/
structure ReadFrom (value? : String → Option String) (c : Config) : Prop where
  coreUrl : c.coreUrl = Net.baseOf ((value? "FEDI3_CORE_URL").getD Core.defaultBase)
  internalToken : c.internalToken = (value? "FEDI3_INTERNAL_TOKEN").getD ""
  coreTimeout : IsNumber ((value? "FEDI3_HTTP_TIMEOUT_SECS").getD "10") c.coreTimeoutSecs
  userAgent : c.userAgent = (value? "FEDI3_USER_AGENT").getD Repository.defaultUserAgent
  /-- There is one variable for both timeouts. -/
  actorTimeout : c.actorTimeoutSecs = c.coreTimeoutSecs
  cacheTtl : IsNumberOr (value? "FEDI3_ACTOR_CACHE_TTL_SECS") 300 c.cacheTtlSecs
  pollInterval : IsNumberOr (value? "FEDI3_POLL_INTERVAL_SECS") 6 c.follow.pollIntervalSecs
  recheckDelay : IsNumberOr (value? "FEDI3_RECHECK_DELAY_SECS") 2 c.follow.recheckDelaySecs
  outboxPageSize : IsNumberOr (value? "FEDI3_OUTBOX_PAGE_SIZE") 20 c.follow.outboxPageSize
  /-- A relay of nothing but blanks and slashes is none. -/
  relayUrl (relay : String) : c.relayUrl = some relay ↔
    relay ≠ "" ∧ ∃ text, value? "FEDI3_RELAY_URL" = some text ∧ Net.baseOf text = relay
  logLevel : c.logLevel = (value? "RUST_LOG").getD "info"
  logJson : c.logJson ↔ ∃ text, value? "FEDI3_LOG_FORMAT" = some text ∧ lower text = "json"

theorem number?_eq_some_iff {text : String} {n : Nat} : number? text = some n ↔ IsNumber text n :=
  Decimal.read?_eq_some_iff

theorem number?_eq_none_iff {text : String} : number? text = none ↔ ∀ n, ¬IsNumber text n := by
  rw [Option.eq_none_iff_forall_ne_some]
  exact forall_congr' fun n => not_congr number?_eq_some_iff

theorem IsNumber.unique {text : String} {n m : Nat} (hn : IsNumber text n) (hm : IsNumber text m) :
    n = m :=
  Option.some.inj ((number?_eq_some_iff.2 hn).symm.trans (number?_eq_some_iff.2 hm))

theorem IsNumberOr.unique {value : Option String} {default n m : Nat}
    (hn : IsNumberOr value default n) (hm : IsNumberOr value default m) : n = m := by
  rcases hn with ⟨text, given, read⟩ | ⟨unread, rfl⟩
  · rcases hm with ⟨other, same, again⟩ | ⟨unread, -⟩
    · obtain rfl : text = other := Option.some.inj (given.symm.trans same)
      exact read.unique again
    · exact absurd read (unread text given n)
  · rcases hm with ⟨text, given, read⟩ | ⟨-, rfl⟩
    · exact absurd read (unread text given m)
    · rfl

theorem isNumberOr_numberOr (read? : String → Option String) (name : String) (default : Nat) :
    IsNumberOr (read? name) default (numberOr read? name default) := by
  unfold numberOr
  cases value : read? name with
  | none => exact .inr ⟨fun text given => (nomatch given), rfl⟩
  | some text =>
    rw [Option.bind_some]
    cases read : number? text with
    | some n => exact .inl ⟨text, rfl, number?_eq_some_iff.1 read⟩
    | none =>
      refine .inr ⟨?_, Option.getD_none⟩
      rintro other ⟨⟩
      exact number?_eq_none_iff.1 read

section Values

variable {read? : String → Option String}

theorem timeout?_eq_ok_iff {n : Nat} : timeout? read? = .ok n ↔
    IsNumber ((read? "FEDI3_HTTP_TIMEOUT_SECS").getD "10") n := by
  rw [← number?_eq_some_iff, timeout?, textOr]
  cases number? ((read? "FEDI3_HTTP_TIMEOUT_SECS").getD "10") <;> simp

theorem timeout?_eq_error_iff {f : Failure} : timeout? read? = .error f ↔
    f = .config "Invalid FEDI3_HTTP_TIMEOUT_SECS" ∧
      ∃ text, read? "FEDI3_HTTP_TIMEOUT_SECS" = some text ∧ ∀ n, ¬IsNumber text n := by
  rw [timeout?, textOr]
  cases read? "FEDI3_HTTP_TIMEOUT_SECS" with
  | some text =>
    rw [Option.getD_some]
    cases read : number? text with
    | some n =>
      have number := number?_eq_some_iff.1 read
      simp only [reduceCtorEq, Option.some.injEq, exists_eq_left', false_iff, not_and, not_forall,
        not_not]
      exact fun _ => ⟨n, number⟩
    | none => simp [number?_eq_none_iff.1 read, eq_comm]
  | none =>
    have ten : number? "10" = some 10 := by decide
    rw [Option.getD_none, ten]
    simp

theorem relay?_eq_some_iff {relay : String} : relay? read? = some relay ↔
    relay ≠ "" ∧ ∃ text, read? "FEDI3_RELAY_URL" = some text ∧ Net.baseOf text = relay := by
  simp [relay?, Option.filter_eq_some_iff, and_comm]

/-! ### Reading -/

/-- The values of the variables give one configuration at most. -/
theorem ReadFrom.unique {c d : Config} (hc : ReadFrom read? c) (hd : ReadFrom read? d) :
    c = d := by
  have timeout : c.coreTimeoutSecs = d.coreTimeoutSecs := hc.coreTimeout.unique hd.coreTimeout
  have follow : c.follow = d.follow := by
    have poll := hc.pollInterval.unique hd.pollInterval
    have recheck := hc.recheckDelay.unique hd.recheckDelay
    have page := hc.outboxPageSize.unique hd.outboxPageSize
    exact (FollowSettings.mk.injEq ..).mpr ⟨poll, recheck, page⟩
  have relay : c.relayUrl = d.relayUrl :=
    Option.ext fun relay => (hc.relayUrl relay).trans (hd.relayUrl relay).symm
  have json : c.logJson = d.logJson := Bool.eq_iff_iff.2 (hc.logJson.trans hd.logJson.symm)
  have actorTimeout : c.actorTimeoutSecs = d.actorTimeoutSecs := by
    rw [hc.actorTimeout, hd.actorTimeout, timeout]
  exact (Config.mk.injEq ..).mpr ⟨hc.coreUrl.trans hd.coreUrl.symm,
    hc.internalToken.trans hd.internalToken.symm, timeout, hc.userAgent.trans hd.userAgent.symm,
    actorTimeout, hc.cacheTtl.unique hd.cacheTtl, follow, relay,
    hc.logLevel.trans hd.logLevel.symm, json⟩

theorem readFrom_of_ofValues {c : Config} (h : ofValues read? = .ok c) : ReadFrom read? c := by
  unfold ofValues at h
  cases timed : timeout? read? with
  | error f =>
    rw [timed] at h
    cases h
  | ok timeout =>
    rw [timed] at h
    cases h
    exact {
      coreUrl := rfl
      internalToken := rfl
      coreTimeout := timeout?_eq_ok_iff.1 timed
      userAgent := rfl
      actorTimeout := rfl
      cacheTtl := isNumberOr_numberOr read? _ _
      pollInterval := isNumberOr_numberOr read? _ _
      recheckDelay := isNumberOr_numberOr read? _ _
      outboxPageSize := isNumberOr_numberOr read? _ _
      relayUrl := fun relay => relay?_eq_some_iff
      logLevel := rfl
      logJson := by simp [Option.any_eq_true] }

/-- **What each setting is.** -/
theorem ofValues_eq_ok_iff {c : Config} : ofValues read? = .ok c ↔ ReadFrom read? c := by
  refine ⟨readFrom_of_ofValues, fun read => ?_⟩
  have timed : timeout? read? = .ok c.coreTimeoutSecs := timeout?_eq_ok_iff.2 read.coreTimeout
  obtain ⟨d, loaded⟩ : ∃ d, ofValues read? = .ok d := by
    rw [ofValues, timed]
    exact ⟨_, rfl⟩
  rw [loaded, (readFrom_of_ofValues loaded).unique read]

/-- **When there is no configuration.** Only a timeout that is set can prevent one. -/
theorem ofValues_eq_error_iff {f : Failure} : ofValues read? = .error f ↔
    f = .config "Invalid FEDI3_HTTP_TIMEOUT_SECS" ∧
      ∃ text, read? "FEDI3_HTTP_TIMEOUT_SECS" = some text ∧ ∀ n, ¬IsNumber text n := by
  rw [← timeout?_eq_error_iff]
  unfold ofValues
  cases timeout? read? with
  | error g =>
    constructor
    · rintro ⟨⟩
      rfl
    · rintro ⟨⟩
      rfl
  | ok timeout => exact ⟨fun h => (nomatch h), fun h => (nomatch h)⟩

end Values

/-- A configuration is read from the values that count. -/
theorem ofProcess_of_adds {loader : Loader} {process : Variables} {file? : String → Option String}
    (h : loader.Adds process file?) :
    ofProcess loader process = some (ofValues (process.value? file?)) := by
  obtain ⟨vars, loads, values⟩ := h
  rw [ofProcess, loads, Option.map_some, values]

/-- With its own loader the program reads what `load` reads, unless the file breaks it off. -/
theorem ofProcess_loader (process : Environment) (file : String) :
    ofProcess (EnvFile.loader file) process.process =
      if (loaded process (some file)).broke then none else some (load process (some file)) := by
  have same : loaded process (some file) = EnvFile.load process.process.read? file := by
    rw [Environment.read?_process]
    rfl
  rw [same]
  split
  · next broke => rw [ofProcess, EnvFile.loader, if_pos broke, Option.map_none]
  · next whole =>
    rw [ofProcess_of_adds (EnvFile.adds_loader (Bool.eq_false_iff.2 whole)), load,
      get?_environment]
    congr 2
    funext name
    rw [Variables.value?, effective?, assigned, same, Environment.read?_process]

theorem load_eq_ok_iff {process : Environment} {file : Option String} {c : Config} :
    load process file = .ok c ↔ ReadFrom (effective? process file) c := by
  rw [← get?_environment]
  exact ofValues_eq_ok_iff

/-- A variable that is set to nothing is set. -/
example : load [("FEDI3_HTTP_TIMEOUT_SECS", "")] (some "FEDI3_HTTP_TIMEOUT_SECS=7") =
    .error (.config "Invalid FEDI3_HTTP_TIMEOUT_SECS") := rfl

end Config

end FollowClient

import FollowClient.CommandLine.Run
import FollowClient.Proofs.Cache.ForeignHosts
import FollowClient.Proofs.Live.Resolution

/-!
How a profile is shown. Only the reply for the document of the actor decides how the command ends.
The collections, the outbox and the core cannot make it fail: what they do shows in the lines of the
counts and of the status and in the section of the outbox, and nowhere else (`loads_never_decide`).
-/

namespace FollowClient.CommandLine

open Net Text

/-! ### Programs that come to their command -/

/-- The configuration is in order, and the client can be set up. -/
structure Ready (process : Environment) (file : Option String) (complaints : List String)
    (config : Config) (repo : Repository) : Prop where
  whole : (Config.loaded process file).broke = false
  loads : Config.load process file = .ok config
  filters : LogFilter.complaints? ((Config.environment process file).get? "RUST_LOG") =
    some complaints
  valid : config.check = .ok ()
  setsUp : config.repository = .ok repo

theorem Ready.repository_eq {process : Environment} {file : Option String}
    {complaints complaints' : List String} {config config' : Config} {repo repo' : Repository}
    (h : Ready process file complaints config repo)
    (h' : Ready process file complaints' config' repo') : repo = repo' := by
  have loaded : Except.ok config = Except.ok config' := h.loads.symm.trans h'.loads
  cases loaded
  exact Except.ok.inj (h.setsUp.symm.trans h'.setsUp)

/-- What the commands of a program talk to. -/
def worldOf (config : Config) (repo : Repository) (net : Network) : Live.World :=
  ⟨{ settings := config.follow, hasControl := true }, repo, config.core, net⟩

/-- How a program ends whose command comes to this. -/
def endingOf (complaints : List String) : Except String String → Ending
  | .ok output => .done output
  | .error message => .failed complaints message

section Programs

variable {process : Environment} {file : Option String} {complaints : List String}
  {config : Config} {repo : Repository} {args : List String} {command : Command}

theorem run_of_ready (h : Ready process file complaints config repo)
    (ha : read args = .run command) (net : Network) :
    (run process file args net).1 =
      endingOf complaints (runCommand (worldOf config repo net) config command).1 := by
  have set : world config net = .ok (worldOf config repo net) := by
    unfold world
    rw [h.setsUp]
    rfl
  simp only [run, h.whole, h.loads, h.filters, h.valid, ha, set]
  rcases runCommand (worldOf config repo net) config command with ⟨message | output, sent⟩ <;> rfl

/-- A program that does not come to its command ends the same whatever the network does. -/
theorem ready_or_run_eq (process : Environment) (file : Option String)
    (ha : read args = .run command) :
    (∃ complaints config repo, Ready process file complaints config repo) ∨
    ∀ net net', (run process file args net).1 = (run process file args net').1 := by
  cases hw : (Config.loaded process file).broke with
  | true => exact .inr fun net net' => by simp only [run, hw, if_true]
  | false =>
    cases hl : Config.load process file with
    | error f => exact .inr fun net net' => by simp only [run, hw, hl]
    | ok config =>
      cases hc : LogFilter.complaints? ((Config.environment process file).get? "RUST_LOG") with
      | none => exact .inr fun net net' => by simp only [run, hw, hl, hc]
      | some complaints =>
        cases hv : config.check with
        | error f => exact .inr fun net net' => by simp only [run, hw, hl, hc, hv]
        | ok _ =>
          cases hr : config.repository with
          | error f =>
            have refused (net : Network) : world config net = .error f := by
              unfold world
              rw [hr]
              rfl
            exact .inr fun net net' => by simp only [run, hw, hl, hc, hv, ha, refused]
          | ok repo => exact .inl ⟨complaints, config, repo, hw, hl, hc, hv, hr⟩

end Programs

/-! ### Showing a profile -/

section Profiles

variable {w : Live.World} {actor : String}

theorem runProfile_of_resolved {p : Profile} (h : Live.Resolved w p ((Live.start []).resolve w actor)) :
    (runProfile w actor).1 = .ok (Report.lines
      (Report.profile p ((Live.start []).resolve w actor).view.display)) := by
  unfold runProfile
  dsimp only
  unfold shown
  rw [h.1]
  rfl

theorem runProfile_of_unresolved {message : String}
    (h : Live.Unresolved message ((Live.start []).resolve w actor)) :
    (runProfile w actor).1 = .error message := by
  unfold runProfile
  dsimp only
  unfold shown
  rw [h.1, h.2]
  rfl

theorem runProfile_spec (hc : w.setup.hasControl = true) (actor : String) :
    match View.required (trim actor) (w.repository.uncachedActor actor w.network []).1 with
    | .ok p => ∃ d, (runProfile w actor).1 = .ok (Report.lines (Report.profile p d)) ∧
        ∃ sent, d.relationship.status =
          ((w.core.followingStatus p.id w.network sent).1.toOption).getD .none
    | .error f => (runProfile w actor).1 = .error f.message := by
  have displayed := Live.resolve_spec hc actor
  cases hr : View.required (trim actor) (w.repository.uncachedActor actor w.network []).1 with
  | error f =>
    rw [hr] at displayed
    exact runProfile_of_unresolved displayed
  | ok p =>
    rw [hr] at displayed
    exact ⟨_, runProfile_of_resolved displayed, displayed.2⟩

end Profiles

/-! ### Whole programs -/

section Shown

variable {process : Environment} {file : Option String} {complaints : List String}
  {config : Config} {repo : Repository} {args : List String} {actor : String} {net net' : Network}

theorem uncachedActor_congr {sent sent' : List Request}
    (h : replyTo (repo.documentMessage (trim actor)) net sent =
      replyTo (repo.documentMessage (trim actor)) net' sent') :
    (repo.uncachedActor actor net sent).1 = (repo.uncachedActor actor net' sent').1 := by
  cases hb : isBlankText actor with
  | true =>
    rw [Repository.uncachedActor_of_blank hb]
    rfl
  | false =>
    rw [Repository.uncachedActor_of_not_blank hb, Repository.fetchActor_fst,
      Repository.fetchActor_fst, send_congr h]

/-- A program that shows a profile and can resolve its actor prints it, with the status that the core
tells of the actor's id. -/
theorem run_profile_of_resolved (h : Ready process file complaints config repo)
    (ha : read args = .run (.profile actor)) {p : Profile}
    (hp : (repo.uncachedActor actor net []).1 = .ok (some p)) :
    ∃ d, (run process file args net).1 = .done (Report.lines (Report.profile p d)) ∧
      ∃ sent, d.relationship.status =
        ((config.core.followingStatus p.id net sent).1.toOption).getD .none := by
  have spec := runProfile_spec (w := worldOf config repo net) rfl actor
  have resolved : View.required (trim actor) ((worldOf config repo net).repository.uncachedActor
      actor (worldOf config repo net).network []).1 = .ok p := Live.required_eq_ok.2 hp
  rw [resolved] at spec
  obtain ⟨d, shown, told⟩ := spec
  refine ⟨d, ?_, told⟩
  rw [run_of_ready h ha, runCommand, shown]
  rfl

theorem run_profile_of_unresolved (h : Ready process file complaints config repo)
    (ha : read args = .run (.profile actor)) {f : Failure}
    (hf : View.required (trim actor) (repo.uncachedActor actor net []).1 = .error f) :
    (run process file args net).1 = .failed complaints f.message := by
  have spec := runProfile_spec (w := worldOf config repo net) rfl actor
  have unresolved : View.required (trim actor) ((worldOf config repo net).repository.uncachedActor
      actor (worldOf config repo net).network []).1 = .error f := hf
  rw [unresolved] at spec
  rw [run_of_ready h ha, runCommand, spec]
  rfl

/-- **Loads never decide.** Let two networks reply alike to the question for the actor's document.
Then showing its profile ends alike in both: with the same exit code, and with the same output but
for the lines of what was loaded and for the section of the outbox. Once the actor resolves, nothing
makes the program fail. -/
theorem loads_never_decide (ha : read args = .run (.profile actor))
    (same : ∀ complaints config repo, Ready process file complaints config repo →
      replyTo (repo.documentMessage (trim actor)) net [] =
        replyTo (repo.documentMessage (trim actor)) net' []) :
    (run process file args net).1.code = (run process file args net').1.code ∧
    ((run process file args net).1 = (run process file args net').1 ∨ ∃ p d d',
      (run process file args net).1 = .done (Report.lines
        (Report.heading p ++ Report.loaded d ++ Report.fields p ++ Report.outbox d.outbox)) ∧
      (run process file args net').1 = .done (Report.lines
        (Report.heading p ++ Report.loaded d' ++ Report.fields p ++ Report.outbox d'.outbox))) ∧
    ∀ complaints config repo p, Ready process file complaints config repo →
      (repo.uncachedActor actor net []).1 = .ok (some p) →
      ∃ d, (run process file args net).1 = .done (Report.lines (Report.profile p d)) := by
  have resolves : ∀ complaints config repo p, Ready process file complaints config repo →
      (repo.uncachedActor actor net []).1 = .ok (some p) →
      ∃ d, (run process file args net).1 = .done (Report.lines (Report.profile p d)) := by
    intro complaints config repo p h hp
    obtain ⟨d, shown, -⟩ := run_profile_of_resolved h ha hp
    exact ⟨d, shown⟩
  rcases ready_or_run_eq process file ha with
    ⟨complaints, config, repo, h⟩ | stopped
  · have alike : (repo.uncachedActor actor net []).1 = (repo.uncachedActor actor net' []).1 :=
      uncachedActor_congr (same _ _ _ h)
    cases hr : View.required (trim actor) (repo.uncachedActor actor net []).1 with
    | error f =>
      have ended := run_profile_of_unresolved h ha hr
      have ended' := run_profile_of_unresolved h ha (alike ▸ hr)
      rw [ended, ended']
      exact ⟨rfl, .inl rfl, ended ▸ resolves⟩
    | ok p =>
      have hp : (repo.uncachedActor actor net []).1 = .ok (some p) := Live.required_eq_ok.1 hr
      obtain ⟨d, shown, -⟩ := run_profile_of_resolved h ha hp
      obtain ⟨d', shown', -⟩ := run_profile_of_resolved h ha (alike ▸ hp)
      exact ⟨by rw [shown, shown']; rfl, .inr ⟨p, d, d', shown, shown'⟩, resolves⟩
  · exact ⟨congrArg Ending.code (stopped net net'), .inl (stopped net net'), resolves⟩

end Shown

/-- The configuration of a process without variables. -/
def usual : Config where
  coreUrl := "http://127.0.0.1:8788"
  internalToken := ""
  coreTimeoutSecs := 10
  userAgent := "fedi3-follow/0.1.0"
  actorTimeoutSecs := 10
  cacheTtlSecs := 300
  follow := ⟨6, 2, 20⟩
  relayUrl := none
  logLevel := "info"
  logJson := false

/-- The repository of the usual configuration. -/
def usualRepository : Repository := ⟨"fedi3-follow/0.1.0", 10000, 300000⟩

theorem ready_usual : Ready [] none [] usual usualRepository :=
  ⟨rfl, by rfl, by rfl, by rfl, by rfl⟩

/-- An actor whose page names another URL as its id. -/
def bob : Profile where
  id := "https://b.test/u/bob"
  displayName := ""
  preferredUsername := "bob"
  summary := ""
  iconUrl := ""
  imageUrl := ""
  url := "https://b.test/u/bob"
  followers := "https://b.test/u/bob/followers"
  following := ""
  outbox := "https://b.test/u/bob/outbox"
  fields := []
  isPeer := false
  statusKey := none

/-- The page of an actor, which is not its id. -/
def bobsPage : String := "https://b.test/@bob"

/-- A network with the page of the actor, and with `others` for all other URLs. -/
def withBob (others : String → Reply) : Network := .constant fun r =>
  if r.url = bobsPage then
    .response 0 200 (.whole ("\x7b\"id\":\"https://b.test/u/bob\",\"preferredUsername\":\"bob\"," ++
      "\"followers\":\"https://b.test/u/bob/followers\"," ++
      "\"outbox\":\"https://b.test/u/bob/outbox\"\x7d").toUTF8.toList)
  else others r.url

/-- Each URL answers with a count and with a status. -/
def plenty (_ : String) : Reply :=
  .response 0 200 (.whole "\x7b\"totalItems\":3,\"status\":\"accepted\"\x7d".toUTF8.toList)

theorem page_alike (others others' : String → Reply) :
    replyTo (usualRepository.documentMessage (trim bobsPage)) (withBob others) [] =
      replyTo (usualRepository.documentMessage (trim bobsPage)) (withBob others') [] := by
  have one : ∀ x ∈ (usualRepository.documentMessage (trim bobsPage)).request.toOption,
      x.1.url = bobsPage := by decide +kernel
  refine replyTo_congr fun x hx => ?_
  simp [withBob, Network.constant, one x hx]

theorem uncachedActor_bobsPage (others : String → Reply) :
    (usualRepository.uncachedActor bobsPage (withBob others) []).1 = .ok (some bob) := by
  rw [uncachedActor_congr (page_alike others fun _ => .closed)]
  exact eq_ok_of_toOption (by decide +kernel)

theorem closed_loads_leave_profile :
    (run [] none ["profile", bobsPage] (withBob fun _ => .closed)).1.code =
      (run [] none ["profile", bobsPage] (withBob plenty)).1.code ∧
    ∃ d, (run [] none ["profile", bobsPage] (withBob fun _ => .closed)).1 =
      .done (Report.lines (Report.profile bob d)) := by
  have same : ∀ complaints config repo, Ready [] none complaints config repo →
      replyTo (repo.documentMessage (trim bobsPage)) (withBob fun _ => .closed) [] =
        replyTo (repo.documentMessage (trim bobsPage)) (withBob plenty) [] := by
    intro complaints config repo h
    cases ready_usual.repository_eq h
    exact page_alike _ _
  have profile : read ["profile", bobsPage] = .run (.profile bobsPage) := by rfl
  obtain ⟨code, -, resolved⟩ := loads_never_decide profile same
  exact ⟨code, resolved _ _ _ bob ready_usual (uncachedActor_bobsPage _)⟩

end FollowClient.CommandLine

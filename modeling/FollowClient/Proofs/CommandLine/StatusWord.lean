import FollowClient.Proofs.CommandLine.Profile

/-!
Two ways to ask for a status. The command for the status asks the core about its argument, as it was
typed; the profile shows the status of the id that the actor's document names. The two words agree
exactly if the core answers alike about both (`status_word_agrees_iff`), so for a page that names
another id they need not (`status_of_page_differs`).
-/

namespace FollowClient

open Net Text

namespace Core

/-- With a network that answers each request on its own, so does the core. -/
theorem steady_followingStatus (core : Core) (who : String) : (core.followingStatus who).Steady := by
  unfold followingStatus sendFor sendForSuccess
  refine Exchange.Steady.bind (.bind (.bind (Exchange.steady_send _ _) ?success) ?body) ?word
  case success =>
    intro r
    split
    · exact Exchange.steady_pure _
    · exact fun _ _ _ => rfl
  case body =>
    intro r
    split
    · exact Exchange.steady_pure _
    · exact fun _ _ _ => rfl
  case word => exact fun word => Exchange.steady_pure _

end Core

theorem FollowStatus.name_injective {s s' : FollowStatus} (h : s.name = s'.name) : s = s' := by
  have named : ofName? s.name = ofName? s'.name := congrArg ofName? h
  simpa using named

namespace CommandLine

section Words

variable {process : Environment} {file : Option String} {complaints : List String}
  {config : Config} {repo : Repository} {args args' : List String} {actor : String} {net : Network}

theorem run_status_of_told (h : Ready process file complaints config repo)
    (ha : read args = .run (.status actor)) {status : FollowStatus}
    (told : (config.core.followingStatus (trim actor) net []).1 = .ok status) :
    (run process file args net).1 = .done (Report.lines [status.name]) := by
  have ran : (runStatus (worldOf config repo net) actor).1 = .ok (Report.lines [status.name]) := by
    have asked : ((worldOf config repo net).core.followingStatus (trim actor)
        (worldOf config repo net).network []).1 = .ok status := told
    unfold runStatus
    revert asked
    rcases (worldOf config repo net).core.followingStatus (trim actor)
      (worldOf config repo net).network [] with ⟨f | s, sent⟩
    · intro asked
      cases asked
    · intro asked
      cases asked
      rfl
  rw [run_of_ready h ha, runCommand, ran]
  rfl

/-- **When the status word agrees.** Let the actor resolve, and let the core tell a status of the
argument and of the actor's id. Then the command for the status prints the one and the profile shows
the other; the words are the same exactly if the core tells the same of both. -/
theorem status_word_agrees_iff (h : Ready process file complaints config repo)
    (ha : read args = .run (.status actor)) (ha' : read args' = .run (.profile actor))
    {p : Profile} (hp : (repo.uncachedActor actor net []).1 = .ok (some p))
    {status : String → FollowStatus}
    (told : ∀ who ∈ [trim actor, p.id], ∀ sent,
      (config.core.followingStatus who net sent).1 = .ok (status who)) :
    (run process file args net).1 = .done (Report.lines [(status (trim actor)).name]) ∧
    ∃ d, (run process file args' net).1 = .done (Report.lines (Report.profile p d)) ∧
      d.relationship.status = status p.id ∧
      ((status (trim actor)).name = d.relationship.status.name ↔
        status (trim actor) = status p.id) := by
  have printed := run_status_of_told h ha (told _ List.mem_cons_self [])
  obtain ⟨d, shown, sent, read⟩ := run_profile_of_resolved h ha' hp
  have same : d.relationship.status = status p.id := by
    rw [read, told p.id (by simp) sent]
    rfl
  refine ⟨printed, d, shown, same, ?_⟩
  rw [same]
  exact ⟨FollowStatus.name_injective, congrArg FollowStatus.name⟩

end Words

/-- What the core tells at first it tells at any time. -/
theorem told_of_first {others : String → Reply} (status : String → FollowStatus)
    {actors : List String} (h : ∀ who ∈ actors,
      (usual.core.followingStatus who (withBob others) []).1.toOption = some (status who)) :
    ∀ who ∈ actors, ∀ sent,
      (usual.core.followingStatus who (withBob others) sent).1 = .ok (status who) := by
  intro who hwho sent
  rw [withBob, usual.core.steady_followingStatus who _ sent []]
  exact eq_ok_of_toOption (h who hwho)

theorem words_agree_where_all_are_followed :
    (run [] none ["status", bobsPage] (withBob plenty)).1 = .done "accepted\n" ∧
    ∃ d, (run [] none ["profile", bobsPage] (withBob plenty)).1 =
      .done (Report.lines (Report.profile bob d)) ∧ d.relationship.status = .accepted := by
  have told : ∀ who ∈ [trim bobsPage, bob.id], ∀ sent,
      (usual.core.followingStatus who (withBob plenty) sent).1 = .ok .accepted :=
    told_of_first (fun _ => .accepted) (by decide +kernel)
  have word : read ["status", bobsPage] = .run (.status bobsPage) := by rfl
  have profile : read ["profile", bobsPage] = .run (.profile bobsPage) := by rfl
  obtain ⟨printed, d, shown, same, -⟩ := status_word_agrees_iff ready_usual word profile
    (uncachedActor_bobsPage plenty) told
  exact ⟨printed, d, shown, same⟩

/-- The core knows the actor by its id only. -/
def knownById (url : String) : Reply :=
  let word := if url = usual.core.statusUrl bob.id then "accepted" else "none"
  .response 0 200 (.whole ("\x7b\"status\":\"" ++ word ++ "\"\x7d").toUTF8.toList)

/-- The core answers every read, and as a function of the actor that it is asked about. But of the page
of an actor it tells nothing, and that is what the command for the status asks about. -/
theorem status_of_page_differs :
    (∀ who ∈ [trim bobsPage, bob.id], ∀ sent,
      (usual.core.followingStatus who (withBob knownById) sent).1 =
        .ok (if who = bob.id then .accepted else .none)) ∧
    (run [] none ["status", bobsPage] (withBob knownById)).1 = .done "none\n" ∧
    (run [] none ["profile", bobsPage] (withBob knownById)).1 =
      .done (Report.lines ["@bob", "  id:        https://b.test/u/bob", "  username:  @bob",
        "  url:       https://b.test/u/bob", "  fedi3:     false", "  followers: -",
        "  following: -", "  follow:    accepted", "  recent activity (0):"]) := by
  refine ⟨told_of_first (fun who => if who = bob.id then .accepted else .none) ?_, ?_, ?_⟩
    <;> decide +kernel

end CommandLine

end FollowClient

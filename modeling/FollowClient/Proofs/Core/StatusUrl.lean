import FollowClient.Core.Client
import FollowClient.Proofs.Net.Extension
import FollowClient.Proofs.Net.Replies

/-!
The URL of a status read. The actor that is asked about stands at its end in percent form. So the URL
tells the actor, whatever characters are in its id, and the id begins nothing else in the URL
(`statusUrl_carries_actor`).
-/

namespace FollowClient.Core

open Net Text

/-- How the URL of a status read carries the actor, for a core at a base. -/
structure CarriesActor (base : String) (core : Core) (actor : String) : Prop where
  /-- What a status read sends is the message with this URL. -/
  asked (net : Network) (sent : List Request) : (core.followingStatus actor net sent).2 =
    (send core.timeout (.get (core.statusUrl actor) core.headers) net sent).2
  url : core.statusUrl actor =
    baseOf base ++ "/_fedi3/social/status?actor=" ++ Percent.encode actor
  written : Percent.Written (Percent.encode actor).toList
  decoded : Percent.decode? (Percent.encode actor) = some actor
  distinct (other : String) : core.statusUrl other = core.statusUrl actor → other = actor
  /-- The address is that for an empty id, with the actor behind its last part. -/
  extended : Address.read? (core.statusUrl actor) =
    (Address.read? (core.statusUrl "")).map (Address.extend (Percent.encode actor).toList)
  /-- The last parameter for an empty id goes on with the actor, and the others stay; a base with a
  fragment has no parameter here. -/
  parameters (a : Address) : Address.read? (core.statusUrl "") = some a → a.fragment = none →
    ∃ others key value, a.parameters = others ++ [(key, value)] ∧
      (a.extend (Percent.encode actor).toList).parameters =
        others ++ [(key, value ++ (Percent.encode actor).toList)]
  /-- If the base is no more than the start of a path, then the actor is the one parameter. -/
  alone (a : Address) : '?' ∉ base.toList → '#' ∉ base.toList →
    Address.read? (core.statusUrl actor) = some a →
    a.fragment = none ∧ a.parameters = [("actor".toList, (Percent.encode actor).toList)]

theorem sent_sendFor {α : Type} (core : Core) (m : Message) (shape : Json.Shape)
    (read : Json → Option α) (net : Network) (sent : List Request) :
    (core.sendFor m shape read net sent).2 = (send core.timeout m net sent).2 := by
  refine (Exchange.sent_bind fun r sent => ?_).trans sent_sendForSuccess
  cases (r.json? shape).bind read <;> rfl

/-- A status read sends one message. -/
theorem sent_followingStatus (core : Core) (actor : String) (net : Network) (sent : List Request) :
    (core.followingStatus actor net sent).2 =
      (send core.timeout (.get (core.statusUrl actor) core.headers) net sent).2 :=
  (Exchange.sent_bind fun _ _ => rfl).trans (sent_sendFor core _ _ _ net sent)

section Url

variable (core : Core)

/-- The name of the parameter for the actor, with what is between it and its value. -/
def actorKey : List Char := "actor".toList ++ ['=']

theorem isQuiet_of_mem_actorKey : ∀ c ∈ actorKey, Address.isQuiet c = true := by
  have each : actorKey.all Address.isQuiet = true := by decide
  exact List.all_eq_true.1 each

theorem isQuiet_of_mem_encode (actor : String) :
    ∀ c ∈ (Percent.encode actor).toList, Address.isQuiet c = true := fun _ hc =>
  Address.isQuiet_of_isWrittenChar ((Percent.written_encode actor).isWrittenChar hc)

theorem statusUrl_eq (actor : String) :
    core.statusUrl actor = String.ofList ((core.base ++ "/_fedi3/social/status").toList ++
      '?' :: actorKey ++ (Percent.encode actor).toList) := by
  rw [← String.toList_inj]
  simp [statusUrl, actorKey]

theorem statusUrl_empty :
    core.statusUrl "" =
      String.ofList ((core.base ++ "/_fedi3/social/status").toList ++ '?' :: actorKey) := by
  have nothing : (Percent.encode "").toList = [] := by decide
  rw [statusUrl_eq, nothing, List.append_nil]

theorem statusUrl_injective {actor other : String}
    (h : core.statusUrl other = core.statusUrl actor) : other = actor := by
  rw [statusUrl_eq, statusUrl_eq] at h
  have same := List.append_cancel_left (String.ofList_injective h)
  exact Percent.encode_injective (String.toList_inj.1 same)

theorem read?_statusUrl (actor : String) :
    Address.read? (core.statusUrl actor) =
      (Address.read? (core.statusUrl "")).map (Address.extend (Percent.encode actor).toList) := by
  rw [statusUrl_eq, statusUrl_empty]
  exact Address.read?_append isQuiet_of_mem_actorKey _ (isQuiet_of_mem_encode actor)

theorem mem_of_mem_baseOf {base : String} {c : Char} (h : c ∈ (baseOf base).toList) :
    c ∈ base.toList := by
  rw [baseOf_toList] at h
  exact (List.dropWhile_sublist _).subset
    (mem_of_mem_dropEndWhile (mem_of_mem_dropEndWhile h))

variable {core} {a : Address}

theorem parameters_statusUrl (h : Address.read? (core.statusUrl "") = some a)
    (whole : a.fragment = none) :
    ∃ others key value, ∀ more, (∀ c ∈ more, Address.isQuiet c = true) →
      (a.extend more).parameters = others ++ [(key, value ++ more)] := by
  rw [statusUrl_empty] at h
  obtain ⟨before, hq⟩ := (Address.query_of_read? isQuiet_of_mem_actorKey h).1 whole
  have quiet : ∀ c ∈ "actor".toList, Address.isQuiet c = true := fun c hc =>
    isQuiet_of_mem_actorKey c (List.mem_append_left _ hc)
  exact Address.parameters_extend quiet whole hq

theorem alone_of_plain_base (hquery : '?' ∉ core.base.toList) (hfragment : '#' ∉ core.base.toList)
    {actor : String} (h : Address.read? (core.statusUrl actor) = some a) :
    a.fragment = none ∧ a.parameters = [("actor".toList, (Percent.encode actor).toList)] := by
  have plain : ∀ sign, sign ∉ core.base.toList → sign ∉ "/_fedi3/social/status".toList →
      sign ∉ (core.base ++ "/_fedi3/social/status").toList := by
    intro sign hbase hpath
    rw [String.toList_append, List.mem_append, not_or]
    exact ⟨hbase, hpath⟩
  rw [read?_statusUrl] at h
  obtain ⟨b, hb, rfl⟩ := Option.map_eq_some_iff.1 h
  rw [statusUrl_empty] at hb
  obtain ⟨endless, query⟩ := (Address.query_of_read? isQuiet_of_mem_actorKey hb).2
    (plain '?' hquery (by decide)) (plain '#' hfragment (by decide))
  have whole : (b.extend (Percent.encode actor).toList).query =
      some (actorKey ++ (Percent.encode actor).toList) := by
    rw [Address.extend, endless]
    simp [query]
  have single : ∀ c ∈ actorKey ++ (Percent.encode actor).toList, decide (c = '&') = false := by
    intro c hc
    rw [List.mem_append] at hc
    exact decide_eq_false (Address.ne_of_isQuiet (hc.elim (isQuiet_of_mem_actorKey c)
      (isQuiet_of_mem_encode actor c))).2.2.2
  refine ⟨?_, ?_⟩
  · rw [Address.extend, endless]
  · rw [Address.parameters, whole]
    dsimp only
    rw [splitOn_of_all single]
    rfl

end Url

/-- **The URL of a status read tells the actor.** Whatever characters its id has, it stands in the URL
in unreserved characters and escaped bytes, from which it can be read back. So another id gives another
URL, and no id adds or changes a parameter or begins a fragment: it only extends the last part of an
address that is the same for all. -/
theorem statusUrl_carries_actor (base token : String) (timeout : Nat) (actor : String) :
    CarriesActor base (create base token timeout) actor where
  asked := sent_followingStatus _ actor
  url := by rw [statusUrl, create]
  written := Percent.written_encode actor
  decoded := Percent.decode?_encode actor
  distinct other := statusUrl_injective _
  extended := read?_statusUrl _ actor
  parameters a h whole := by
    obtain ⟨others, key, value, carries⟩ := parameters_statusUrl h whole
    have empty := carries [] nofun
    rw [Address.extend_nil, List.append_nil] at empty
    exact ⟨others, key, value, empty, carries _ (isQuiet_of_mem_encode actor)⟩
  alone a hquery hfragment h := by
    have kept : ∀ sign, sign ∉ base.toList → sign ∉ (create base token timeout).base.toList :=
      fun sign plain mem => plain (mem_of_mem_baseOf mem)
    exact alone_of_plain_base (kept _ hquery) (kept _ hfragment) h

/-- An id stays an id, whatever it looks like. -/
example : (create " http://core.test/ " "" 0).statusUrl "é&x=1#" =
    "http://core.test/_fedi3/social/status?actor=%C3%A9%26x%3D1%23" := by decide

end FollowClient.Core

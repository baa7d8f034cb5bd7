import FollowClient.Core.Aliases
import FollowClient.Proofs.Json.Texts
import FollowClient.Proofs.Net.Replies

/-!
What is reported when aliases are stored. The core answers with the list it has stored, and that list
is reported (`saved_as_stored_iff`), with one exception: an empty list counts as no list, so where the
core stores nothing of what was sent to it, what was sent is reported as stored.
-/

namespace FollowClient

open Net Json

/-! ### The list in an answer -/

namespace AliasesReply

/-- The field of an answer for the stored aliases, if it has one. -/
def stored? : Json → Option Json
  | .obj members => lookup "aliases" members
  | .arr (_ :: aliases :: _) => some aliases
  | _ => none

variable {v : Json} {r : AliasesReply}

theorem aliases_of_fields {ok aliases restart : Option Json}
    (h : (do
      let ok ← withDefault? false bool? ok
      let aliases ← withDefault? [] texts? aliases
      let restartRequired ← withDefault? false bool? restart
      pure ({ ok, aliases, restartRequired } : AliasesReply)) = some r) :
    withDefault? [] texts? aliases = some r.aliases := by
  simp only [Option.bind_eq_bind, Option.bind_eq_some_iff] at h
  obtain ⟨_, -, named, list, _, -, same⟩ := h
  cases same
  exact list

/-- Of an answer that can be read, the field is a list of texts or missing. -/
theorem aliases_of_ofJson? (h : ofJson? v = some r) :
    withDefault? [] texts? (stored? v) = some r.aliases := by
  cases v with
  | obj members => exact aliases_of_fields h
  | arr items =>
    match items with
    | [] => exact aliases_of_fields h
    | [_] => exact aliases_of_fields h
    | [_, _] => exact aliases_of_fields h
    | [_, _, _] => exact aliases_of_fields h
    | _ :: _ :: _ :: _ :: rest =>
      have long : names.length < rest.length + 4 := by
        show 3 < rest.length + 4
        omega
      simp [ofJson?, fields?, long] at h
  | _ => cases h

end AliasesReply

namespace SavedAliases

variable {sent : List String} {r : AliasesReply}

theorem ofReply_of_empty (h : r.aliases = []) : (ofReply sent r).aliases = sent := by
  simp [ofReply, h]

theorem ofReply_eq_iff : (ofReply sent r).aliases = r.aliases ↔ (r.aliases = [] → sent = []) := by
  by_cases h : r.aliases = []
  · rw [ofReply_of_empty h, h]
    exact ⟨fun same _ => same, fun refused => refused rfl⟩
  · simp [ofReply, h]

end SavedAliases

namespace Core

variable {core : Core} {net : Network} {sent : List Request}

theorem body_aliasesMessage (core : Core) (aliases : List String) :
    (core.aliasesMessage aliases).body = (Json.obj [("aliases", .ofTexts aliases)]).compact := rfl

theorem settled_apply {α : Type} (op : Operation) (x : Exchange α) :
    settled op x net sent = (.ok (settle op (x net sent).1), (x net sent).2) := rfl

theorem sendFor_of_response {α : Type} {m : Message} {shape : Shape} {read : Json → Option α}
    {delay status : Nat} {body : Body} {x : Request × String} {a : α} (hr : m.request = .ok x)
    (answer : net sent x.1 = .response delay status body) (inTime : delay < core.timeout)
    (success : 200 ≤ status ∧ status ≤ 299)
    (decoded : (Response.json? shape ⟨status, body⟩).bind read = some a) :
    core.sendFor m shape read net sent = (.ok a, sent ++ [x.1]) := by
  unfold sendFor
  rw [Exchange.bind_apply, sendForSuccess_of_response hr answer inTime success]
  dsimp only
  rw [decoded]
  rfl

/-- **What was stored is reported, unless it is nothing.** Whatever text is entered, storing its
aliases sends one request, whose body is the list of them. If the core answers in time and with
success, by an answer that can be read, the operation is done. An answer without the list reports
what was sent; a list in the answer is reported exactly if it is not empty, or nothing was sent. -/
theorem saved_as_stored_iff (core : Core) (input : String) (net : Network) (sent : List Request)
    {delay status : Nat} {bytes : List UInt8} {v : Json} {r : AliasesReply}
    (answer : replyTo (core.aliasesMessage (Aliases.parse input)) net sent =
      some (.response delay status (.whole bytes)))
    (inTime : delay < core.timeout) (success : 200 ≤ status ∧ status ≤ 299)
    (body : AliasesReply.shape.read? bytes = some v) (decoded : AliasesReply.ofJson? v = some r) :
    ∃ request saved,
      core.saveAliases input net sent = (.ok (.done saved), sent ++ [request]) ∧
      request.method = .post ∧
      read? request.body.toByteArray.data.toList =
        some (.obj [("aliases", .ofTexts (Aliases.parse input))]) ∧
      saved.restartRequired = r.restartRequired ∧
      (AliasesReply.stored? v = none → saved.aliases = Aliases.parse input) ∧
      ∀ list, AliasesReply.stored? v = some list → ∃ stored, list.texts? = some stored ∧
        (saved.aliases = stored ↔ (stored = [] → Aliases.parse input = [])) := by
  obtain ⟨x, hr, reply⟩ := request_of_replyTo answer
  obtain ⟨method, -, written⟩ := sent_as_written hr
  have stored := AliasesReply.aliases_of_ofJson? decoded
  have whole : (Response.json? AliasesReply.shape ⟨status, .whole bytes⟩).bind
      AliasesReply.ofJson? = some r := by
    show (AliasesReply.shape.read? bytes).bind AliasesReply.ofJson? = some r
    rw [body, Option.bind_some, decoded]
  have done : core.saveAliases input net sent =
      (.ok (.done (SavedAliases.ofReply (Aliases.parse input) r)), sent ++ [x.1]) := by
    unfold saveAliases
    rw [settled_apply, Exchange.bind_apply]
    unfold setAliases
    rw [sendFor_of_response hr reply inTime success whole]
    rfl
  refine ⟨x.1, _, done, method, ?carried, rfl, ?missing, ?named⟩
  case carried =>
    rw [written, body_aliasesMessage, read?_compact_texts]
  case missing =>
    intro empty
    rw [empty] at stored
    exact SavedAliases.ofReply_of_empty (Option.some.inj stored).symm
  case named =>
    intro list field
    rw [field] at stored
    exact ⟨r.aliases, stored, SavedAliases.ofReply_eq_iff⟩

/-- The answer `text` to every request, at once. -/
def answering (text : String) : Network := .constant fun _ =>
  .response 0 200 (.whole text.toUTF8.toList)

/-- A core at `core.test`. -/
def testCore : Core := create "http://core.test" "" 9

/-- An answer that names one alias. -/
def oneStored : String := "\x7b\"aliases\":[\"a.example\"]\x7d"

theorem stored_list_reported :
    ∃ request saved,
      testCore.saveAliases " A.example,b.example" (answering oneStored) [] =
        (.ok (.done saved), [request]) ∧
      saved.aliases = ["a.example"] := by
  have answer : replyTo (testCore.aliasesMessage (Aliases.parse " A.example,b.example"))
      (answering oneStored) [] = some (.response 0 200 (.whole oneStored.toUTF8.toList)) := by
    decide +kernel
  have decoded : (AliasesReply.shape.read? oneStored.toUTF8.toList).bind AliasesReply.ofJson? =
      some ⟨false, ["a.example"], false⟩ := by decide +kernel
  have named : ((AliasesReply.shape.read? oneStored.toUTF8.toList).bind
      AliasesReply.stored?).bind texts? = some ["a.example"] := by decide +kernel
  obtain ⟨v, body, decoded⟩ := Option.bind_eq_some_iff.1 decoded
  rw [body, Option.bind_some] at named
  obtain ⟨list, field, texts⟩ := Option.bind_eq_some_iff.1 named
  obtain ⟨request, saved, done, -, -, -, -, reported⟩ :=
    saved_as_stored_iff testCore " A.example,b.example" (answering oneStored) [] answer
      (by decide) (by decide) body decoded
  obtain ⟨stored, same, reported⟩ := reported list field
  obtain rfl := Option.some.inj (same.symm.trans texts)
  exact ⟨request, saved, done, reported.2 fun empty => absurd empty (List.cons_ne_nil _ _)⟩

/-- An answer that names no alias. -/
def noneStored : String := "\x7b\"ok\":true,\"aliases\":[],\"restart_required\":false\x7d"

/-- The core stores nothing of what was sent and says so, and what was sent is reported as stored. -/
theorem empty_list_not_reported :
    replyTo (testCore.aliasesMessage (Aliases.parse "a.example")) (answering noneStored) [] =
      some (.response 0 200 (.whole noneStored.toUTF8.toList)) ∧
    (AliasesReply.shape.read? noneStored.toUTF8.toList).bind AliasesReply.ofJson? =
      some ⟨true, [], false⟩ ∧
    ((AliasesReply.shape.read? noneStored.toUTF8.toList).bind AliasesReply.stored?).bind texts? =
      some [] ∧
    (testCore.saveAliases "a.example" (answering noneStored) []).1.toOption =
      some (.done ⟨["a.example"], false⟩) := by
  decide +kernel

end Core

end FollowClient

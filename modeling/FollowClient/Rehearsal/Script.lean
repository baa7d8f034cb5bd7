import FollowClient.View.State

/-!
Scripts for the world around a view: what each call is answered, and after which delay. Calls take
the answers of their list one after the other, and the last one stays.
-/

namespace FollowClient.Rehearsal

open View (Call Answer)

/-- An answer in a script; without a result the call is answered by default. -/
structure Scripted (α : Type) where
  delay : Nat
  result : Option (Except Failure α)

/-- The next answer of a list, and the list after it. -/
def takeNext {α : Type} : List α → Option α × List α
  | [] => (none, [])
  | [a] => (some a, [a])
  | a :: b :: rest => (some a, b :: rest)

/-- Lists of answers by URL. -/
abbrev ByUrl (α : Type) := List (String × List (Scripted α))

/-- The next answer for a URL, and the lists after it. -/
def ByUrl.takeNext {α : Type} (url : String) : ByUrl α → Option (Scripted α) × ByUrl α
  | [] => (none, [])
  | (u, answers) :: rest =>
    if u = url then
      let (a, answers) := Rehearsal.takeNext answers
      (a, (u, answers) :: rest)
    else
      let (a, rest) := ByUrl.takeNext url rest
      (a, (u, answers) :: rest)

/-- The answers that are still to come. -/
structure Script where
  /-- Actor documents. -/
  actors : ByUrl Json
  counts : ByUrl Nat
  /-- Outbox pages. -/
  outboxes : ByUrl Json
  statuses : List (Scripted FollowStatus)
  follows : List (Scripted Unit)
  unfollows : List (Scripted Unit)

/-- The follow statuses that the core holds; an actor without an entry is not followed. -/
abbrev Server := List (String × FollowStatus)

/-- The status of an actor. -/
def Server.read (server : Server) (actor : String) : FollowStatus :=
  (server.lookup actor).getD .none

/-- Sets the status of an actor. -/
def Server.write (server : Server) (actor : String) (status : FollowStatus) : Server :=
  (actor, status) :: server.filter (·.1 ≠ actor)

/-- What becomes of a call: the answer, when it comes, and the entry that the core then holds. -/
structure Reply where
  delay : Nat
  answer : Answer
  entry : Option (String × FollowStatus)

/-- The delay of an answer, none if there is no answer. -/
def delayOf {α : Type} (a : Option (Scripted α)) : Nat := (a.map (·.delay)).getD 0

/-- The result of an answer, `default` if it has none. -/
def resultOf {α : Type} (a : Option (Scripted α)) (default : Except Failure α) :
    Except Failure α :=
  (a.bind (·.result)).getD default

/-- The reply to a request that makes the core hold `status`, if it succeeds. -/
def requestReply (a : Option (Scripted Unit)) (actor : String) (status : FollowStatus) : Reply :=
  let result := resultOf a (.ok ())
  ⟨delayOf a, .request result, if result.isOk then some (actor, status) else none⟩

/-- The reply to a call made now, and the script after it. A status read without a scripted result
takes the status that the core holds now. -/
def Script.reply (script : Script) (server : Server) : Call → Reply × Script
  | .actor url =>
    let (a, actors) := script.actors.takeNext url
    let result := match a.bind (·.result) with
      | some (.ok doc) => (Profile.ofDocument doc).map some
      | some (.error f) => .error f
      | none => .ok none
    (⟨delayOf a, .actor result, none⟩, { script with actors })
  | .count url =>
    let (a, counts) := script.counts.takeNext url
    (⟨delayOf a, .count (resultOf a (.error (.notFound url))), none⟩, { script with counts })
  | .outbox url limit =>
    let (a, outboxes) := script.outboxes.takeNext url
    let page := resultOf a (.error (.notFound url))
    (⟨delayOf a, .outbox (page.map (Activity.ofPage · limit)), none⟩, { script with outboxes })
  | .status actor =>
    let (a, statuses) := takeNext script.statuses
    let held : Except Failure FollowStatus := match a with
      | some _ => .ok (server.read actor)
      | none => .error (.transport "no status")
    (⟨delayOf a, .status (resultOf a held), none⟩, { script with statuses })
  | .follow actor =>
    let (a, follows) := takeNext script.follows
    (requestReply a actor .pending, { script with follows })
  | .unfollow actor =>
    let (a, unfollows) := takeNext script.unfollows
    (requestReply a actor .none, { script with unfollows })

/-- The longest delay of answers. -/
def longest {α : Type} (answers : List (Scripted α)) : Nat :=
  answers.foldl (fun d a => Nat.max d a.delay) 0

/-- The longest delay of a script. -/
def Script.longestDelay (script : Script) : Nat :=
  let urls {α : Type} (t : ByUrl α) : Nat := t.foldl (fun d e => Nat.max d (longest e.2)) 0
  [urls script.actors, urls script.counts, urls script.outboxes, longest script.statuses,
    longest script.follows, longest script.unfollows].foldl Nat.max 0

end FollowClient.Rehearsal

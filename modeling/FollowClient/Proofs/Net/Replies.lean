import FollowClient.Net.Exchange

/-!
What sending a message comes to is decided by the one reply that its request gets (`send_congr`), so
an exchange that sends one message depends on one reply.
-/

namespace FollowClient.Net

variable {timeout : Nat} {m : Message} {net net' : Network} {sent sent' : List Request}

/-- The reply to a message; one that cannot be sent gets none. -/
def replyTo (m : Message) (net : Network) (sent : List Request) : Option Reply :=
  m.request.toOption.map fun x => net sent x.1

/-- The response in a reply that comes in time. -/
def Reply.inTime? (timeout : Nat) : Reply → Option Response
  | .response delay status body => if delay < timeout then some ⟨status, body⟩ else none
  | _ => none

theorem replyTo_eq_of_request {x : Request × String} (h : m.request = .ok x) :
    replyTo m net sent = some (net sent x.1) := by
  rw [replyTo, h]
  rfl

theorem replyTo_congr (h : ∀ x ∈ m.request.toOption, net sent x.1 = net' sent' x.1) :
    replyTo m net sent = replyTo m net' sent' := Option.map_congr h

theorem request_of_replyTo {reply : Reply} (h : replyTo m net sent = some reply) :
    ∃ x, m.request = .ok x ∧ net sent x.1 = reply := by
  unfold replyTo at h
  cases hr : m.request with
  | error reason =>
    rw [hr] at h
    cases h
  | ok x =>
    rw [hr] at h
    exact ⟨x, rfl, Option.some.inj h⟩

/-- A message goes on the wire as it is, but for its URL. -/
theorem sent_as_written {x : Request × String} (h : m.request = .ok x) :
    x.1.method = m.method ∧ x.1.headers = m.headers ∧ x.1.body = m.body := by
  unfold Message.request at h
  split at h
  · cases h
  · split at h
    · cases h
    · split at h
      · cases h
      · split at h
        · cases h
          exact ⟨rfl, rfl, rfl⟩
        · cases h

theorem send_congr (h : replyTo m net sent = replyTo m net' sent') :
    (send timeout m net sent).1 = (send timeout m net' sent').1 := by
  unfold send
  cases hr : m.request with
  | error reason => rfl
  | ok x =>
    obtain ⟨r, shown⟩ := x
    rw [replyTo_eq_of_request hr, replyTo_eq_of_request hr, Option.some.injEq] at h
    dsimp only at h ⊢
    rw [h]
    cases net' sent' r with
    | response delay status body => by_cases hd : delay < timeout <;> simp [hd]
    | _ => rfl

theorem send_toOption :
    (send timeout m net sent).1.toOption = (replyTo m net sent).bind (Reply.inTime? timeout) := by
  unfold send
  cases hr : m.request with
  | error reason =>
    rw [replyTo, hr]
    rfl
  | ok x =>
    obtain ⟨r, shown⟩ := x
    rw [replyTo_eq_of_request hr, Option.bind_some]
    dsimp only
    cases net sent r with
    | response delay status body =>
      by_cases hd : delay < timeout <;> simp [hd, Reply.inTime?, Except.toOption]
    | _ => rfl

theorem send_of_response {delay status : Nat} {body : Body} {x : Request × String}
    (hr : m.request = .ok x) (answer : net sent x.1 = .response delay status body)
    (inTime : delay < timeout) :
    send timeout m net sent = (.ok ⟨status, body⟩, sent ++ [x.1]) := by
  unfold send
  rw [hr]
  dsimp only
  rw [answer]
  dsimp only
  rw [if_pos inTime]

theorem eq_ok_of_toOption {ε α : Type} {r : Except ε α} {a : α} (h : r.toOption = some a) :
    r = .ok a := by
  cases r with
  | error e => cases h
  | ok b => exact congrArg Except.ok (Option.some.inj h)

theorem Exchange.bind_toOption {α β : Type} (x : Exchange α) (f : α → Exchange β) :
    ((x >>= f) net sent).1.toOption =
      (x net sent).1.toOption.bind fun a => (f a net (x net sent).2).1.toOption := by
  rw [Exchange.bind_apply]
  rcases x net sent with ⟨e | a, sent⟩ <;> rfl

/-- Where the rest of an exchange sends nothing, the requests are those of its start. -/
theorem Exchange.sent_bind {α β : Type} {x : Exchange α} {f : α → Exchange β}
    (silent : ∀ a sent, (f a net sent).2 = sent) : ((x >>= f) net sent).2 = (x net sent).2 := by
  rw [Exchange.bind_apply]
  rcases x net sent with ⟨e | a, sent⟩
  · rfl
  · exact silent a sent

theorem sent_sendForSuccess : (sendForSuccess timeout m net sent).2 = (send timeout m net sent).2 :=
  Exchange.sent_bind fun r sent => by cases r.isSuccess <;> simp

theorem sendForSuccess_toOption :
    (sendForSuccess timeout m net sent).1.toOption =
      ((replyTo m net sent).bind (Reply.inTime? timeout)).filter Response.isSuccess := by
  unfold sendForSuccess
  rw [Exchange.bind_toOption, send_toOption, ← Option.bind_guard]
  congr 1
  funext r
  cases h : r.isSuccess <;> simp [h, Option.guard, Except.toOption]

theorem sendForSuccess_of_response {delay status : Nat} {body : Body} {x : Request × String}
    (hr : m.request = .ok x) (answer : net sent x.1 = .response delay status body)
    (inTime : delay < timeout) (success : 200 ≤ status ∧ status ≤ 299) :
    sendForSuccess timeout m net sent = (.ok ⟨status, body⟩, sent ++ [x.1]) := by
  have accepted : Response.isSuccess ⟨status, body⟩ = true := by simp [Response.isSuccess, success]
  unfold sendForSuccess
  rw [Exchange.bind_apply, send_of_response hr answer inTime]
  dsimp only
  rw [if_pos accepted]
  rfl

end FollowClient.Net

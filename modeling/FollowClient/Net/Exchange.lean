import FollowClient.Failure
import FollowClient.Json.Shape
import FollowClient.Net.Address

/-!
Exchanges with a network. A network answers a request, and its answer may depend on all the requests
that have reached it before. An exchange sends requests one after the other and ends with a value
or a failure; what has been sent stays sent.

The network includes the HTTP client. A reply is what the client ends up with, after all the
redirects that it follows: a response that redirects comes up only where it does not follow it. The
servers behind such a network are the subject of `FollowClient.Net.Redirects`.
-/

namespace FollowClient.Net

/-! ### Requests and replies -/

/-- The method of a request. -/
inductive Method where
  | get
  | post
  deriving DecidableEq, Repr

/-- The word for a method. -/
def Method.name : Method → String
  | .get => "GET"
  | .post => "POST"

/-- A request as it goes on the wire; the names of its headers are in lower case. -/
structure Request where
  method : Method
  url : String
  headers : List (String × String)
  body : String
  deriving DecidableEq, Repr

/-- The body of a response. -/
inductive Body where
  | whole (bytes : List UInt8)
  /-- The connection ended before the whole body had come. -/
  | cut
  deriving DecidableEq, Repr

/-- What a network does with a request. -/
inductive Reply where
  /-- The request reaches nobody. -/
  | unreachable
  /-- The connection is closed without an answer. -/
  | closed
  /-- No answer ever comes. -/
  | silent
  /-- An answer comes after a delay, in milliseconds. -/
  | response (delay status : Nat) (body : Body)
  deriving DecidableEq, Repr

/-- A network: its reply to a request, given the requests that have reached it, oldest first. -/
abbrev Network := List Request → Request → Reply

namespace Network

/-- The network without connections. -/
def offline : Network := fun _ _ => .unreachable

/-- The network that answers each request on its own. -/
def constant (reply : Request → Reply) : Network := fun _ r => reply r

end Network

/-! ### Exchanges -/

/-- A part of a conversation with a network: it starts after the requests sent so far. -/
def Exchange (α : Type) := Network → List Request → Except Failure α × List Request

namespace Exchange

/-- Ends with a value. -/
protected def pure {α : Type} (a : α) : Exchange α := fun _ sent => (.ok a, sent)

/-- Ends with a failure. -/
def fail {α : Type} (f : Failure) : Exchange α := fun _ sent => (.error f, sent)

/-- Goes on with the value of an exchange; a failure ends both. -/
protected def bind {α β : Type} (x : Exchange α) (f : α → Exchange β) : Exchange β :=
  fun net sent =>
    match x net sent with
    | (.ok a, sent) => f a net sent
    | (.error e, sent) => (.error e, sent)

instance : Monad Exchange where
  pure := Exchange.pure
  bind := Exchange.bind

/-- The result of an exchange as a value, whether it failed or not. -/
def attempt {α : Type} (x : Exchange α) : Exchange (Except Failure α) :=
  fun net sent => let (r, sent) := x net sent; (.ok r, sent)

/-- Ends as a result says. -/
def ofExcept {α : Type} (r : Except Failure α) : Exchange α := fun _ sent => (r, sent)

variable {α β : Type} (net : Network) (sent : List Request)

@[simp] theorem pure_apply (a : α) : (pure a : Exchange α) net sent = (.ok a, sent) := rfl

@[simp] theorem fail_apply (f : Failure) : (fail f : Exchange α) net sent = (.error f, sent) := rfl

@[simp] theorem ofExcept_apply (r : Except Failure α) : ofExcept r net sent = (r, sent) := rfl

@[simp] theorem attempt_apply (x : Exchange α) :
    x.attempt net sent = (.ok (x net sent).1, (x net sent).2) := rfl

theorem bind_apply (x : Exchange α) (f : α → Exchange β) :
    (x >>= f) net sent =
      match x net sent with
      | (.ok a, sent) => f a net sent
      | (.error e, sent) => (.error e, sent) := rfl

end Exchange

/-! ### Sending -/

/-- A response that has come in time. -/
structure Response where
  status : Nat
  body : Body
  deriving DecidableEq, Repr

namespace Response

/-- The status tells success. -/
def isSuccess (r : Response) : Bool := 200 ≤ r.status && r.status ≤ 299

/-- The body as a value of a shape, if it is one. -/
def json? (shape : Json.Shape) (r : Response) : Option Json :=
  match r.body with
  | .whole bytes => shape.read? bytes
  | .cut => none

end Response

/-- The value of a header holds no control character but the tab. -/
def isHeaderValue (s : String) : Bool :=
  s.toList.all fun c => c = '\t' || (0x20 ≤ c.toNat && c.toNat ≠ 0x7F)

/-- A message that is to be sent. -/
structure Message where
  method : Method
  url : String
  headers : List (String × String)
  body : String
  deriving DecidableEq, Repr

namespace Message

/-- A message without a body. -/
def get (url : String) (headers : List (String × String)) : Message := ⟨.get, url, headers, ""⟩

/-- A message with a JSON body. -/
def post (url : String) (headers : List (String × String)) (body : String) : Message :=
  ⟨.post, url, headers ++ [("content-type", "application/json")], body⟩

/-- The request to a URL failed for this reason. -/
def failed (m : Message) (reason : String) : Failure :=
  .transport ("request to " ++ m.url ++ " failed: " ++ reason)

/-- The request to a URL was not answered in time. -/
def timedOut (m : Message) : Failure := .transport ("request to " ++ m.url ++ " timed out")

/-- Every header has a value that can be sent. -/
def hasValidHeaders (m : Message) : Bool := m.headers.all fun h => isHeaderValue h.2

/-- Why a message cannot be sent; an address that can be read is named. -/
def refusal : Option Address → String
  | some a => "builder error for url (" ++ a.text ++ ")"
  | none => "builder error"

/-- The request of a message, and how messages show its address; a message that cannot be sent has a
reason. -/
def request (m : Message) : Except String (Request × String) :=
  match Address.read? m.url with
  | none => .error (refusal none)
  | some a =>
    if a.host?.isNone then .error (refusal a)
    else if !m.hasValidHeaders then .error (refusal none)
    else if a.withoutCredentials.isSendable then
      .ok (⟨m.method, a.withoutCredentials.wire, m.headers, m.body⟩, a.withoutCredentials.text)
    else .error (refusal a.withoutCredentials)

end Message

/-- Sends a message and waits for its response at most `timeout` milliseconds. -/
def send (timeout : Nat) (m : Message) : Exchange Response := fun net sent =>
  match m.request with
  | .error reason => (.error (m.failed reason), sent)
  | .ok (r, shown) =>
    let lost := m.failed ("error sending request for url (" ++ shown ++ ")")
    match net sent r with
    | .unreachable => (.error lost, sent)
    | .closed => (.error lost, sent ++ [r])
    | .silent => (.error m.timedOut, sent ++ [r])
    | .response delay status body =>
      if delay < timeout then (.ok ⟨status, body⟩, sent ++ [r])
      else (.error m.timedOut, sent ++ [r])

/-- Sends a message that needs a success status. -/
def sendForSuccess (timeout : Nat) (m : Message) : Exchange Response := do
  let r ← send timeout m
  if r.isSuccess then pure r else Exchange.fail (.status r.status m.url)

/-- Why a body is not what it should be. -/
def badBody : String := "error decoding response body"

end FollowClient.Net

import FollowClient.Net.Exchange

/-!
Clients that follow redirects. A `Network` replies to a message with what its client ends up with.
Behind it are servers that answer single requests, and an answer may send the client on to another
URL. How a client goes on is open here, and so is what an answer looks like: a client goes by the
answers to the requests that it makes, whichever these are (`Client.Sound`).
-/

namespace FollowClient.Net

/-- What servers answer to a request. They are given the requests of the messages before, oldest
first, and then what was asked for the same message. -/
abbrev Servers (ρ : Type) := List Request → List Request → Request → ρ

/-- A client of servers. -/
structure Client (ρ : Type) where
  /-- What the client ends up with when it is given a request. -/
  network : Servers ρ → Network
  /-- The requests that it makes for this, each after those that it made before. -/
  trail : Servers ρ → List Request → Request → List (List Request × Request)

/-- The answers on its trail decide what the client ends up with. -/
def Client.Sound {ρ : Type} (client : Client ρ) : Prop :=
  ∀ (servers servers' : Servers ρ) (sent sent' : List Request) (r : Request),
    (∀ q ∈ client.trail servers sent r, servers sent q.1 q.2 = servers' sent' q.1 q.2) →
      client.network servers sent r = client.network servers' sent' r

/-! ### A client that asks on -/

/-- The answer of a server that can redirect. -/
inductive Hop where
  | reply (r : Reply)
  | redirect (url : String)
  deriving DecidableEq, Repr

section Following

variable (servers : Servers Hop) (sent : List Request)

/-- What a request comes to when at most so many redirects are followed, and the requests made for
it, after some that were made before. A redirect that is not followed ends without an answer. -/
def chase : Nat → List Request → Request → Reply × List (List Request × Request)
  | 0, before, r =>
    match servers sent before r with
    | .reply reply => (reply, [(before, r)])
    | .redirect _ => (.closed, [(before, r)])
  | hops + 1, before, r =>
    match servers sent before r with
    | .reply reply => (reply, [(before, r)])
    | .redirect url =>
      match (Message.get url r.headers).request with
      | .ok (next, _) =>
        let rest := chase hops (before ++ [r]) next
        (rest.1, (before, r) :: rest.2)
      | .error _ => (.closed, [(before, r)])

theorem mem_chase (hops : Nat) (before : List Request) (r : Request) :
    (before, r) ∈ (chase servers sent hops before r).2 := by
  cases hops with
  | zero => unfold chase; split <;> exact List.mem_cons_self
  | succ hops =>
    unfold chase
    split
    · exact List.mem_cons_self
    · split <;> exact List.mem_cons_self

theorem chase_congr {servers servers' : Servers Hop} {sent sent' : List Request} (hops : Nat)
    {before : List Request} {r : Request}
    (h : ∀ q ∈ (chase servers sent hops before r).2,
      servers sent q.1 q.2 = servers' sent' q.1 q.2) :
    chase servers sent hops before r = chase servers' sent' hops before r := by
  induction hops generalizing before r with
  | zero => simp only [chase, h _ (mem_chase servers sent 0 before r)]
  | succ hops ih =>
    have first := h _ (mem_chase servers sent (hops + 1) before r)
    simp only [chase] at h ⊢
    rw [← first]
    cases hop : servers sent before r with
    | reply reply => rfl
    | redirect url =>
      rw [hop] at h
      dsimp only at h ⊢
      cases on : (Message.get url r.headers).request with
      | error reason => rfl
      | ok next =>
        rw [on] at h
        -- the rest of the trail is that of the next request
        have rest := ih fun q hq => h q (List.mem_cons_of_mem _ hq)
        dsimp only
        rw [rest]

end Following

/-- A client that follows so many redirects for a message. -/
def Client.following (hops : Nat) : Client Hop where
  network servers sent r := (chase servers sent hops [] r).1
  trail servers sent r := (chase servers sent hops [] r).2

theorem Client.sound_following (hops : Nat) : (following hops).Sound :=
  fun _ _ _ _ _ h => congrArg Prod.fst (chase_congr hops h)

end FollowClient.Net

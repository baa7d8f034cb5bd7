import FollowClient.Proofs.Profile.NormalForm

/-!
Which actors are seen to live on a peer. A document can name its peer at the top or among its
endpoints, but a member at the top hides the endpoints, also if it names nothing: `isPeer_iff` says
which documents are read aright, and `hidden_peer_missed` shows one that is not.
-/

namespace FollowClient.Profile

open Text

/-- The document itself names a peer. -/
def NamesPeer (doc : Json) : Prop := HasText doc "fedi3PeerId"

/-- The endpoints of the document name a peer. -/
def EndpointsNamePeer (doc : Json) : Prop :=
  ∃ endpoints, doc.get? "endpoints" = some endpoints ∧ HasText endpoints "fedi3PeerId"

/-- The document has a member for its peer that names none. -/
def HidesEndpoints (doc : Json) : Prop := doc.get? "fedi3PeerId" ≠ none ∧ ¬ NamesPeer doc

section Peer

variable {doc : Json} {p : Profile}

/-- The member that tells the peer names one if it is a text with a character that is not blank. -/
theorem hasPeer_iff_peerMember? (doc : Json) :
    hasPeer doc = true ↔
      ∃ s, peerMember? doc = some (.str s) ∧ ∃ c ∈ s.toList, isBlank c = false := by
  constructor
  · intro h
    unfold hasPeer at h
    split at h
    · next s hs =>
      have visible : isBlankText s = false := by simpa using h
      exact ⟨s, Json.bind_str?_eq_some_iff.1 hs, isBlankText_eq_false_iff.1 visible⟩
    · cases h
  · rintro ⟨s, member, visible⟩
    simp [hasPeer, member, Json.str?, isBlankText_eq_false_iff.2 visible]

/-- The endpoints count only if the document has no member of its own. -/
theorem hasPeer_iff (doc : Json) :
    hasPeer doc = true ↔
      NamesPeer doc ∨ doc.get? "fedi3PeerId" = none ∧ EndpointsNamePeer doc := by
  rw [hasPeer_iff_peerMember?, peerMember?]
  cases top : doc.get? "fedi3PeerId" with
  | some v => simp [NamesPeer, HasText, top]
  | none =>
    rw [Option.none_or]
    constructor
    · rintro ⟨s, hs, visible⟩
      obtain ⟨endpoints, ends, named⟩ := Option.bind_eq_some_iff.1 hs
      exact .inr ⟨rfl, endpoints, ends, s, named, visible⟩
    · rintro (⟨s, hs, -⟩ | ⟨-, endpoints, ends, s, named, visible⟩)
      · rw [top] at hs
        cases hs
      · exact ⟨s, by rw [ends, Option.bind_some, named], visible⟩

theorem isPeer_of_ofDocument (h : ofDocument doc = .ok p) : p.isPeer = hasPeer doc := by
  unfold ofDocument at h
  dsimp only at h
  split at h
  · cases h
  · obtain rfl := Except.ok.inj h
    rfl

end Peer

/-- **When a peer is found.** A document with an id is read as one of an actor on a peer exactly if
it names the peer itself or, having no member for it, among its endpoints. So both places count,
except where the endpoints name a peer and a member of the document that names none hides them. -/
theorem isPeer_iff (doc : Json) (id : HasText doc "id") :
    ∃ p, ofDocument doc = .ok p ∧
      (p.isPeer = true ↔
        NamesPeer doc ∨ doc.get? "fedi3PeerId" = none ∧ EndpointsNamePeer doc) ∧
      ((p.isPeer = true ↔ NamesPeer doc ∨ EndpointsNamePeer doc) ↔
        ¬ (HidesEndpoints doc ∧ EndpointsNamePeer doc)) := by
  obtain ⟨p, hp⟩ := ofDocument_of_id id
  have found := hasPeer_iff doc
  rw [← isPeer_of_ofDocument hp] at found
  refine ⟨p, hp, found, ?_⟩
  rw [found, HidesEndpoints]
  by_cases top : NamesPeer doc
  · simp [top]
  · by_cases member : doc.get? "fedi3PeerId" = none
    · simp [top, member]
    · simp [top, member]

/-- The peer stands among the endpoints, and the member at the top is `null`. -/
def hiddenPeer : Json :=
  .obj [("id", .str "https://relay.example/users/bob"), ("fedi3PeerId", .null),
    ("endpoints", .obj [("fedi3PeerId", .str "12D3Koo")])]

theorem endpointsNamePeer_hiddenPeer : EndpointsNamePeer hiddenPeer :=
  ⟨_, rfl, textAt_ne_empty_iff.1 (by decide)⟩

/-- A document with an id whose endpoints name a peer is not read as one of an actor on a peer. -/
theorem hidden_peer_missed :
    HasText hiddenPeer "id" ∧ EndpointsNamePeer hiddenPeer ∧
    ∃ p, ofDocument hiddenPeer = .ok p ∧ p.isPeer = false :=
  ⟨textAt_ne_empty_iff.1 (by decide), endpointsNamePeer_hiddenPeer, _, rfl, by decide⟩

theorem hiddenPeer_is_hidden :
    HasText hiddenPeer "id" ∧ HidesEndpoints hiddenPeer ∧
    ∃ p, ofDocument hiddenPeer = .ok p ∧
      ¬ (p.isPeer = true ↔ NamesPeer hiddenPeer ∨ EndpointsNamePeer hiddenPeer) := by
  have id : HasText hiddenPeer "id" := textAt_ne_empty_iff.1 (by decide)
  have names : ¬ NamesPeer hiddenPeer := by
    rw [NamesPeer, ← textAt_ne_empty_iff]
    decide
  have hides : HidesEndpoints hiddenPeer := ⟨nofun, names⟩
  obtain ⟨p, hp, -, agrees⟩ := isPeer_iff hiddenPeer id
  exact ⟨id, hides, p, hp, fun both => agrees.1 both ⟨hides, endpointsNamePeer_hiddenPeer⟩⟩

end FollowClient.Profile

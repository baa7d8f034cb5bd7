import FollowClient.Proofs.Config.Variables
import FollowClient.Proofs.Net.HostOfKey

/-!
The URLs of a configuration, checked and in use. The configuration holds the base of each URL, the
check looks at it there, and whoever uses it takes the base of it once more. The second time changes
something exactly if a blank stands before the slashes at the end of the URL (`baseOf_baseOf_iff`):
then the first time leaves this blank at the end. So the URLs in use are the checked ones as long as no
variable has such a blank (`checked_urls_used_iff`).
-/

namespace FollowClient

open Text

/-! ### The base of a base -/

namespace Net

/-- Between the slashes at the end of the trimmed text and what stands before them is a blank. -/
def BlankBeforeSlashes (text : String) : Prop :=
  ∃ front c slashes, (trim text).toList = front ++ c :: slashes ∧ isBlank c ∧ ∀ s ∈ slashes, s = '/'

variable (text : String)

theorem dropWhile_isBlank_baseOf :
    (baseOf text).toList.dropWhile isBlank = (baseOf text).toList := by
  have part : (baseOf text).toList <+: text.toList.dropWhile isBlank := by
    rw [baseOf_toList]
    exact (dropEndWhile_isPrefix _).trans (dropEndWhile_isPrefix _)
  cases chars : (baseOf text).toList with
  | nil => rfl
  | cons c rest =>
    -- the first character that stays is the first that is not blank
    obtain ⟨more, whole⟩ := part
    have first := List.head?_dropWhile_not isBlank text.toList
    rw [← whole, chars] at first
    exact List.dropWhile_cons_of_neg (Bool.eq_false_iff.1 first)

theorem blankBeforeSlashes_iff :
    BlankBeforeSlashes text ↔ (baseOf text).toList.getLast?.any isBlank = true := by
  rw [baseOf_toList, Option.any_eq_true]
  constructor
  · rintro ⟨front, c, slashes, ends, blank, slash⟩
    have sign : ¬c = '/' := by
      rintro rfl
      exact absurd blank (by decide)
    have all : ∀ s ∈ slashes, decide (s = '/') = true := fun s hs => decide_eq_true (slash s hs)
    rw [trim_toList] at ends
    rw [ends, List.append_cons, dropEndWhile_append_of_all all, dropEndWhile_append_singleton,
      if_neg (by simpa using sign)]
    exact ⟨c, List.getLast?_concat, blank⟩
  · rintro ⟨c, last, blank⟩
    obtain ⟨front, chars⟩ := List.getLast?_eq_some_iff.1 last
    obtain ⟨slashes, whole, slash⟩ :=
      dropEndWhile_append_self (p := (· = '/')) (strip isBlank text.toList)
    refine ⟨front, c, slashes, ?_, blank, fun s hs => of_decide_eq_true (slash s hs)⟩
    rw [trim_toList, whole, chars, List.append_assoc, List.singleton_append]

instance : Decidable (BlankBeforeSlashes text) :=
  decidable_of_iff' _ (blankBeforeSlashes_iff text)

/-- **The base of a base.** -/
theorem baseOf_baseOf_iff : baseOf (baseOf text) = baseOf text ↔ ¬BlankBeforeSlashes text := by
  have once : dropEndWhile (· = '/') (baseOf text).toList = (baseOf text).toList := by
    rw [baseOf_toList]
    exact dropEndWhile_dropEndWhile _ _
  have again : (baseOf (baseOf text)).toList =
      dropEndWhile (· = '/') (dropEndWhile isBlank (baseOf text).toList) := by
    rw [baseOf_toList (baseOf text), strip, dropWhile_isBlank_baseOf]
  rw [blankBeforeSlashes_iff, Bool.not_eq_true, ← dropEndWhile_eq_self_iff, ← String.toList_inj,
    again]
  constructor
  · intro same
    -- what is left after the blanks is at least as long as what is left in the end
    refine (dropEndWhile_isPrefix _).eq_of_length_le ?_
    calc (baseOf text).toList.length
        = (dropEndWhile (· = '/') (dropEndWhile isBlank (baseOf text).toList)).length := by rw [same]
      _ ≤ _ := (dropEndWhile_isPrefix _).length_le
  · intro same
    rw [same, once]

end Net

/-! ### The check -/

namespace Config

/-- The URLs in use are those that were checked, and as the check wants them. -/
structure UsesChecked (c : Config) : Prop where
  core : c.core.base = c.coreUrl
  coreWeb : isWebUrl c.core.base
  /-- A preview of a relay asks at the base of the relay. -/
  relay (relay : String) : c.relayUrl = some relay → Net.baseOf relay = relay
  relayWeb (relay : String) : c.relayUrl = some relay → isWebUrl (Net.baseOf relay)

theorem webUrls_of_check {c : Config} (h : c.check = .ok ()) :
    isWebUrl c.coreUrl ∧ ∀ relay, c.relayUrl = some relay → isWebUrl relay := by
  unfold check fault? at h
  split at h
  · cases h
  · next sound =>
    split at sound
    · cases sound
    · next core =>
      split at sound
      · cases sound
      · next relays =>
        refine ⟨by simpa using core, fun relay own => ?_⟩
        rw [Option.filter_eq_none_iff] at relays
        simpa using relays relay own

/-- **The URLs in use are the checked ones** unless a variable has a blank before the slashes at its
end. -/
theorem checked_urls_used_iff {process : Environment} {file : Option String} {c : Config}
    (loaded : load process file = .ok c) (checked : c.check = .ok ()) :
    UsesChecked c ↔ ∀ name ∈ ["FEDI3_CORE_URL", "FEDI3_RELAY_URL"],
      ∀ text ∈ effective? process file name, ¬Net.BlankBeforeSlashes text := by
  have read : ReadFrom (effective? process file) c := load_eq_ok_iff.1 loaded
  obtain ⟨coreWeb, relayWeb⟩ := webUrls_of_check checked
  have core : c.core.base = c.coreUrl ↔
      ∀ text ∈ effective? process file "FEDI3_CORE_URL", ¬Net.BlankBeforeSlashes text := by
    have stored : c.core.base = Net.baseOf c.coreUrl := rfl
    rw [stored, read.coreUrl, Net.baseOf_baseOf_iff]
    cases effective? process file "FEDI3_CORE_URL" with
    | none => simpa using (by decide : ¬Net.BlankBeforeSlashes Core.defaultBase)
    | some text => simp
  have relay : (∀ relay, c.relayUrl = some relay → Net.baseOf relay = relay) ↔
      ∀ text ∈ effective? process file "FEDI3_RELAY_URL", ¬Net.BlankBeforeSlashes text := by
    constructor
    · intro same text given
      rw [← Net.baseOf_baseOf_iff]
      by_cases empty : Net.baseOf text = ""
      · rw [empty]
        decide
      · exact same _ ((read.relayUrl _).2 ⟨empty, text, given, rfl⟩)
    · intro checked relay own
      obtain ⟨-, text, given, rfl⟩ := (read.relayUrl relay).1 own
      exact (Net.baseOf_baseOf_iff text).2 (checked text given)
  rw [List.forall_mem_cons, List.forall_mem_singleton, ← core, ← relay]
  constructor
  · intro used
    exact ⟨used.core, used.relay⟩
  · rintro ⟨own, each⟩
    exact {
      core := own
      coreWeb := own ▸ coreWeb
      relay := each
      relayWeb := fun relay given => (each relay given).symm ▸ relayWeb relay given }

/-- Blanks around a URL do no harm, and neither do slashes at its end. -/
theorem padded_urls_used :
    ∃ c, load [("FEDI3_CORE_URL", " http://core.test// ")] (some "FEDI3_RELAY_URL=https://r.test/")
        = .ok c ∧ c.check = .ok () ∧ UsesChecked c :=
  ⟨_, rfl, rfl, (@checked_urls_used_iff [("FEDI3_CORE_URL", " http://core.test// ")]
    (some "FEDI3_RELAY_URL=https://r.test/") _ rfl rfl).2 (by decide)⟩

/-- Here the check lets pass what is no web address any more when it is used. -/
theorem blank_before_slash_slips_through :
    ∃ c, load [("FEDI3_CORE_URL", "http:// /")] none = .ok c ∧ c.check = .ok () ∧
      c.coreUrl = "http:// " ∧ c.core.base = "http:" ∧ isWebUrl c.core.base = false ∧
      c.core.statusUrl "bob" = "http:/_fedi3/social/status?actor=bob" ∧ ¬UsesChecked c := by
  refine ⟨_, rfl, rfl, by decide, by decide, by decide, by decide, ?_⟩
  intro used
  exact absurd used.core (by decide)

end Config

end FollowClient

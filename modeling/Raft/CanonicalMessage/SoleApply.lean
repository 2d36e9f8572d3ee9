import Raft.CanonicalMessage.SharedFact
import Raft.Foundation.JsonSchema

/-!
# The check before a sole apply

An envelope may be applied as the only authority when it has exactly the
canonical form.  Every shared fact that the pass over a legacy roster produces
has it, up to the limit on the number of reactions.
-/

namespace Raft.CanonicalMessage

open Raft.Foundation
open Raft.ReactionReadModels (ReactionActorRef ReactionViewerOverlaySnapshot)

def CANONICAL_MESSAGE_V2_SCHEMA_VERSION : Nat := 5

def CANONICAL_MESSAGE_V2_ENVELOPE_KIND : JsString := js "normalized-message-v2"

def CANONICAL_REACTION_PREVIEW_LIMIT : Nat := 3

def CANONICAL_REACTION_LIMIT : Nat := 30

def objectKeys : JsValue → List JsString
  | .object fields => fields.map Prod.fst
  | .array items => (List.range items.length).map decimalText
  | _ => []

def hasExactKeys (value : JsValue) (keys : List JsString) : Bool :=
  sortRows id (objectKeys value) = sortRows id keys

def isObject : JsValue → Bool
  | .object _ | .array _ => true
  | _ => false

def isTrimmedText : JsValue → Bool
  | .string text => text ≠ [] && text = trim text
  | _ => false

def isReactionActorRef (value : JsValue) : Bool :=
  isObject value && hasExactKeys value [js "displayName", js "id"] &&
    isTrimmedText (value.read (js "id")) && isTrimmedText (value.read (js "displayName"))

def isCanonicalReactionFact (value : JsValue) : Bool :=
  isObject value && hasExactKeys value [js "count", js "emoji", js "previewK"] &&
    isTrimmedText (value.read (js "emoji")) &&
    match value.read (js "count"), value.read (js "previewK") with
    | .number count, .array previewK =>
        count.isUnsignedSafeInteger && previewK.length ≤ CANONICAL_REACTION_PREVIEW_LIMIT &&
          (JsNumber.ofNat previewK.length).le count && previewK.all isReactionActorRef
    | _, _ => false

def isStrictlyIncreasing : List JsString → Bool
  | [] | [_] => true
  | first :: second :: rest => first < second && isStrictlyIncreasing (second :: rest)

def isVersion (value : JsValue) : Bool :=
  match value with
  | .number version => version.strictEq (.ofNat CANONICAL_MESSAGE_V2_SCHEMA_VERSION)
  | _ => false

def hasCanonicalReactions : JsValue → Bool
  | .array reactions =>
      reactions.length ≤ CANONICAL_REACTION_LIMIT && reactions.all isCanonicalReactionFact &&
        isStrictlyIncreasing (reactions.map fun reaction => (reaction.read (js "emoji")).text) &&
        reactions.all fun reaction => isStrictlyIncreasing
          ((reaction.read (js "previewK")).arrayItems.map fun actor => (actor.read (js "id")).text)
  | _ => false

def isCanonicalMessageV2SoleApplyEligible (value : JsValue) : Bool :=
  isObject value && hasExactKeys value [js "fact", js "kind", js "schemaVersion"] &&
    isVersion (value.read (js "schemaVersion")) &&
    (value.read (js "kind")).asString? = some CANONICAL_MESSAGE_V2_ENVELOPE_KIND &&
    isObject (value.read (js "fact")) &&
    hasExactKeys (value.read (js "fact")) [js "reactions"] &&
    hasCanonicalReactions ((value.read (js "fact")).read (js "reactions"))

/-! ## Envelopes of shared facts -/

def actorToJs (actor : ReactionActorRef) : JsValue :=
  .object [(js "id", .string actor.id), (js "displayName", .string actor.displayName)]

def CanonicalReactionFact.toJs (fact : CanonicalReactionFact) : JsValue :=
  .object [(js "emoji", .string fact.emoji), (js "count", .number fact.count),
    (js "previewK", .array (fact.previewK.map actorToJs))]

def factToJs (sharedFact : List CanonicalReactionFact) : JsValue :=
  .object [(js "reactions", .array (sharedFact.map (·.toJs)))]

/-- The fields of an envelope around a shared fact, in any order. -/
def Carries (value : JsValue) (sharedFact : List CanonicalReactionFact) : Prop :=
  ∃ fields : JsObject, value = .object fields ∧
    fields.Perm [(js "schemaVersion", .number (.ofNat CANONICAL_MESSAGE_V2_SCHEMA_VERSION)),
      (js "kind", .string CANONICAL_MESSAGE_V2_ENVELOPE_KIND), (js "fact", factToJs sharedFact)]

theorem isStrictlyIncreasing_iff (texts : List JsString) :
    isStrictlyIncreasing texts = true ↔ texts.Pairwise (· < ·) := by
  induction texts using isStrictlyIncreasing.induct with
  | case1 => simp [isStrictlyIncreasing]
  | case2 text => simp [isStrictlyIncreasing]
  | case3 first second rest ih =>
      rw [isStrictlyIncreasing, Bool.and_eq_true, decide_eq_true_eq, ih,
        List.pairwise_cons (a := first)]
      constructor
      · rintro ⟨hlt, hrest⟩
        refine ⟨?_, hrest⟩
        rw [List.forall_mem_cons]
        exact ⟨hlt, fun text htext => hlt.trans ((List.pairwise_cons.mp hrest).1 text htext)⟩
      · rintro ⟨hfirst, hrest⟩
        exact ⟨hfirst second List.mem_cons_self, hrest⟩

theorem safe_le_of_unsigned {count : JsNumber} (h : count.isUnsignedSafeInteger = true) :
    (JsNumber.ofNat 0).le count = true := by
  cases count with
  | finite value =>
      simp only [JsNumber.isUnsignedSafeInteger, Bool.and_eq_true, decide_eq_true_eq] at h
      have hvalue : (0 : ℚ) ≤ value := Rat.num_nonneg.mp h.1.2
      simp [JsNumber.le, JsNumber.compares, JsNumber.extended, JsNumber.ofNat, hvalue]
  | negativeZero => rfl
  | nan => cases h
  | infinity negative => cases h

/-- What the pass produces: trimmed emojis, counts in range and no preview. -/
structure CanonicalFact (fact : CanonicalReactionFact) : Prop where
  emoji_ne : fact.emoji ≠ []
  emoji_trim : fact.emoji = trim fact.emoji
  count_safe : fact.count.isUnsignedSafeInteger = true
  preview_nil : fact.previewK = []

theorem canonicalFact_sharedFact (input : NormalizeLegacyReactionRosterInput) :
    ∀ fact ∈ (normalizeLegacyReactionRoster input).sharedFact, CanonicalFact fact := by
  intro fact hfact
  rw [sharedFact_eq, mem_sortRows, factRows, List.mem_filterMap] at hfact
  obtain ⟨entry, -, hfact⟩ := hfact
  split at hfact
  · next hrow =>
      obtain rfl := Option.some_inj.mp hfact
      exact ⟨hrow.1, (trim_trim _).symm, hrow.2.2, rfl⟩
  · cases hfact

theorem isCanonicalReactionFact_toJs {fact : CanonicalReactionFact} (h : CanonicalFact fact) :
    isCanonicalReactionFact fact.toJs = true := by
  have hemoji : fact.toJs.read (js "emoji") = .string fact.emoji := rfl
  have hcount : fact.toJs.read (js "count") = .number fact.count := rfl
  have hpreview : fact.toJs.read (js "previewK") = .array [] := by
    have hread : fact.toJs.read (js "previewK") = .array (fact.previewK.map actorToJs) := rfl
    rw [hread, h.preview_nil, List.map_nil]
  have hkeys : hasExactKeys fact.toJs [js "count", js "emoji", js "previewK"] = true := by
    have hfields : objectKeys fact.toJs = [js "emoji", js "count", js "previewK"] := rfl
    rw [hasExactKeys, hfields]
    decide
  rw [isCanonicalReactionFact, hemoji, hcount, hpreview, hkeys]
  simp [isObject, CanonicalReactionFact.toJs, isTrimmedText, h.emoji_ne, ← h.emoji_trim,
    h.count_safe, safe_le_of_unsigned]

theorem hasCanonicalReactions_map {sharedFact : List CanonicalReactionFact}
    (hlength : sharedFact.length ≤ CANONICAL_REACTION_LIMIT)
    (hfacts : ∀ fact ∈ sharedFact, CanonicalFact fact)
    (hsorted : (sharedFact.map (·.emoji)).Pairwise (· < ·)) :
    hasCanonicalReactions (.array (sharedFact.map (·.toJs))) = true := by
  have hemojis : (sharedFact.map (·.toJs)).map (fun reaction => (reaction.read (js "emoji")).text) =
      sharedFact.map (·.emoji) := by
    rw [List.map_map]
    rfl
  simp only [hasCanonicalReactions, hemojis, Bool.and_eq_true, decide_eq_true_eq, List.length_map,
    List.all_map, List.all_eq_true, isStrictlyIncreasing_iff, Function.comp_apply]
  refine ⟨⟨⟨hlength, fun fact hfact => isCanonicalReactionFact_toJs (hfacts fact hfact)⟩, hsorted⟩,
    fun fact hfact => ?_⟩
  have hread : (fact.toJs.read (js "previewK")).arrayItems = fact.previewK.map actorToJs := rfl
  simp [hread, (hfacts fact hfact).preview_nil]

theorem eligible_of_carries (input : NormalizeLegacyReactionRosterInput) {value : JsValue}
    (hcarries : Carries value (normalizeLegacyReactionRoster input).sharedFact)
    (hlength : (normalizeLegacyReactionRoster input).sharedFact.length ≤ CANONICAL_REACTION_LIMIT) :
    isCanonicalMessageV2SoleApplyEligible value = true := by
  obtain ⟨fields, rfl, hperm⟩ := hcarries
  have hdistinct : (fields.map Prod.fst).Nodup :=
    (hperm.map Prod.fst).nodup_iff.mpr
      (show [js "schemaVersion", js "kind", js "fact"].Nodup by decide)
  have hversion : (JsValue.object fields).read (js "schemaVersion") =
      .number (.ofNat CANONICAL_MESSAGE_V2_SCHEMA_VERSION) :=
    JsonSchema.read_of_mem hdistinct (hperm.mem_iff.mpr (by simp))
  have hkind : (JsValue.object fields).read (js "kind") =
      .string CANONICAL_MESSAGE_V2_ENVELOPE_KIND :=
    JsonSchema.read_of_mem hdistinct (hperm.mem_iff.mpr (by simp))
  have hfact : (JsValue.object fields).read (js "fact") =
      factToJs (normalizeLegacyReactionRoster input).sharedFact :=
    JsonSchema.read_of_mem hdistinct (hperm.mem_iff.mpr (by simp))
  have hkeys : hasExactKeys (.object fields) [js "fact", js "kind", js "schemaVersion"] = true := by
    have hsorted : sortRows id (fields.map Prod.fst) =
        sortRows id [js "schemaVersion", js "kind", js "fact"] :=
      DistinctKeys.sortRows_eq (by simpa [DistinctKeys] using hdistinct) (hperm.map Prod.fst)
    rw [hasExactKeys, objectKeys, hsorted]
    decide
  have hreactions : (factToJs (normalizeLegacyReactionRoster input).sharedFact).read
      (js "reactions") = .array ((normalizeLegacyReactionRoster input).sharedFact.map (·.toJs)) :=
        rfl
  have hfactKeys : hasExactKeys (factToJs (normalizeLegacyReactionRoster input).sharedFact)
      [js "reactions"] = true := rfl
  have hsorted : ((normalizeLegacyReactionRoster input).sharedFact.map (·.emoji)).Pairwise (· <
    ·) := by
    rw [sharedFact_eq]
    exact (distinctKeys_factRows input).keys_sortRows
  rw [isCanonicalMessageV2SoleApplyEligible, hkeys, hversion, hkind, hfact, hfactKeys, hreactions,
    hasCanonicalReactions_map hlength (canonicalFact_sharedFact input) hsorted]
  rfl

/--
The order of the reactions and of the pairs in a roster leaves the outcome as it is; the shared
fact depends on the emojis and counts alone; a channel room never yields an overlay, and an
overlay lists in ascending order the emojis of the rosters with the viewer; and the shared fact
passes the check of a sole apply when it is not too long.
-/
theorem normalizeLegacyReactionRoster_blind (input : NormalizeLegacyReactionRosterInput) :
    (∀ reactions, Reshuffled input.reactions reactions →
      outcome (normalizeLegacyReactionRoster { input with reactions := reactions }) =
        outcome (normalizeLegacyReactionRoster input)) ∧
      (∀ other : NormalizeLegacyReactionRosterInput,
        (countedEmojis other.reactions).Perm (countedEmojis input.reactions) →
          (normalizeLegacyReactionRoster other).sharedFact =
            (normalizeLegacyReactionRoster input).sharedFact) ∧
      (input.source = .channel_room → (normalizeLegacyReactionRoster input).viewerOverlay = none) ∧
      (∀ overlay, (normalizeLegacyReactionRoster input).viewerOverlay = some overlay →
        overlay.reactedEmojis.Pairwise (· < ·) ∧
          ∀ emoji, emoji ∈ overlay.reactedEmojis ↔
            ∃ reaction ∈ input.reactions, trim reaction.emoji = emoji ∧
              ∃ viewerUserId ∈ input.viewerUserId, viewerUserId ∈ rosterIds reaction) ∧
      ∀ value, Carries value (normalizeLegacyReactionRoster input).sharedFact →
        (normalizeLegacyReactionRoster input).sharedFact.length ≤ CANONICAL_REACTION_LIMIT →
          isCanonicalMessageV2SoleApplyEligible value = true :=
  ⟨fun _ => outcome_reshuffled input, fun _ => sharedFact_congr, viewerOverlay_channel_room input,
    fun _ => viewerOverlay_exact input, fun _ => eligible_of_carries input⟩

section

private def hearts : LegacyReactionRosterDto :=
  ⟨js "heart", .ofNat 2, [js "u2", js " u1"], [js "Bo", js "Al"]⟩

private def waves : LegacyReactionRosterDto := ⟨js "wave", .ofNat 1, [js "u2"], [js "Bo"]⟩

private def reacted (reactions : List LegacyReactionRosterDto) :
    NormalizeLegacyReactionRosterInput where
  serverId := js "s"
  parentScopeKey := ⟨js "s", js "channel", js "c"⟩
  messageId := js "m"
  source := .receiver_private
  viewerUserId := some (js "u1")
  reactions := reactions

private def swapped : LegacyReactionRosterDto :=
  { hearts with reactorIds := [js " u1", js "u2"], reactorNames := [js "Al", js "Bo"] }

private def envelope : JsValue :=
  .object [(js "kind", .string (js "normalized-message-v2")),
    (js "fact", factToJs [⟨js "heart", .ofNat 2, []⟩, ⟨js "wave", .ofNat 1, []⟩]),
    (js "schemaVersion", .number (.ofNat 5))]

/-- Two reactions with the viewer in one roster. -/
theorem normalizeLegacyReactionRoster_blind_hearts :
    outcome (normalizeLegacyReactionRoster (reacted [waves, swapped])) =
        outcome (normalizeLegacyReactionRoster (reacted [hearts, waves])) ∧
      (normalizeLegacyReactionRoster
          { reacted [waves, hearts] with viewerUserId := some (js "u7") }).sharedFact =
        (normalizeLegacyReactionRoster (reacted [hearts, waves])).sharedFact ∧
      (normalizeLegacyReactionRoster
          { reacted [hearts] with source := .channel_room }).viewerOverlay = none ∧
      (js "heart" ∈ [js "heart"] ↔
        ∃ reaction ∈ [hearts, waves], trim reaction.emoji = js "heart" ∧
          ∃ viewerUserId ∈ some (js "u1"), viewerUserId ∈ rosterIds reaction) ∧
      isCanonicalMessageV2SoleApplyEligible envelope = true := by
  obtain ⟨hshuffle, hfact, -, hoverlay, hcheck⟩ :=
    normalizeLegacyReactionRoster_blind (reacted [hearts, waves])
  have hswapped : SameRoster hearts swapped :=
    ⟨rfl, rfl, .inr ⟨rfl, rfl, List.Perm.swap (js " u1", js "Al") (js "u2", js "Bo") []⟩⟩
  have hwaves : SameRoster waves waves := ⟨rfl, rfl, .inl rfl⟩
  have hsome : (normalizeLegacyReactionRoster (reacted [hearts, waves])).viewerOverlay =
      some ⟨js "s", js "m", [js "heart"]⟩ := by decide +kernel
  have hshared : (normalizeLegacyReactionRoster (reacted [hearts, waves])).sharedFact =
      [⟨js "heart", .ofNat 2, []⟩, ⟨js "wave", .ofNat 1, []⟩] := by decide +kernel
  refine ⟨?_, ?_, ?_, ?_, ?_⟩
  · exact hshuffle [waves, swapped]
      ⟨[waves, hearts], List.Perm.swap waves hearts [], .cons hwaves (.cons hswapped .nil)⟩
  · exact hfact { reacted [waves, hearts] with viewerUserId := some (js "u7") }
      (List.Perm.swap (js "heart", JsNumber.ofNat 2) (js "wave", JsNumber.ofNat 1) [])
  · exact (normalizeLegacyReactionRoster_blind
      { reacted [hearts] with source := .channel_room }).2.2.1 rfl
  · exact (hoverlay _ hsome).2 (js "heart")
  · refine hcheck envelope ⟨_, rfl, ?_⟩ (by rw [hshared]; decide)
    rw [hshared]
    exact @List.perm_append_comm _ [_, _] [_]

end

end Raft.CanonicalMessage

import Raft.Foundation.JsComparison
import Raft.Foundation.JsText
import Raft.Foundation.KeyedRows
import Raft.ReactionReadModels.Store

/-!
# Splitting a legacy reaction roster

The old wire form of a message's reactions names everybody who reacted.  One
pass over it yields the shared fact, the reactions of the receiving viewer and
the material for the actor cache, and records what is wrong with the roster.
-/

namespace Raft.CanonicalMessage

open Raft.Foundation
open Raft.ReactionReadModels (ReactionActorRef ReactionActorsReadCacheSeed
  ReactionNormalizationViolation ReactionNormalizationViolationKind ReactionViewerOverlaySnapshot
  SyncScopeKey)

structure LegacyReactionRosterDto where
  emoji : JsString
  count : JsNumber
  reactorIds : List JsString
  reactorNames : List JsString
  deriving DecidableEq

structure CanonicalReactionFact where
  emoji : JsString
  count : JsNumber
  previewK : List ReactionActorRef
  deriving DecidableEq

inductive LegacyReactionNormalizationSource where
  | channel_room
  | receiver_private
  deriving DecidableEq

structure NormalizeLegacyReactionRosterInput where
  serverId : JsString
  parentScopeKey : SyncScopeKey
  messageId : JsString
  source : LegacyReactionNormalizationSource
  viewerUserId : Option JsString
  reactions : List LegacyReactionRosterDto
  deriving DecidableEq

/-- The shared fact beside the parts that the read models stage. -/
structure NormalizeLegacyReactionRosterResult extends
    ReactionReadModels.NormalizeLegacyReactionRosterResult where
  sharedFact : List CanonicalReactionFact
  deriving DecidableEq

/-! ## Actors -/

structure RosterScan where
  violations : List ReactionNormalizationViolation
  actors : List ReactionActorRef
  deriving DecidableEq

def RosterScan.violated (scan : RosterScan) (kind : ReactionNormalizationViolationKind)
    (emoji : JsString) : RosterScan :=
  { scan with violations := ⟨kind, emoji⟩ :: scan.violations }

/-- The loop over the ids, with the ids met so far and the names from the present index on. -/
def scanRoster (emoji : JsString) :
    (actorIds reactorIds reactorNames : List JsString) → RosterScan
  | _, [], _ => ⟨[], []⟩
  | actorIds, reactorId :: reactorIds, reactorNames =>
      let id := trim reactorId
      if id = [] then
        (scanRoster emoji actorIds reactorIds reactorNames.tail).violated .emptyActorId emoji
      else if id ∈ actorIds then
        (scanRoster emoji actorIds reactorIds reactorNames.tail).violated .duplicateActorId emoji
      else
        let rest := scanRoster emoji (id :: actorIds) reactorIds reactorNames.tail
        let displayName := (reactorNames.head?.map trim).getD []
        if displayName = [] then rest.violated .emptyActorDisplayName emoji
        else { rest with actors := ⟨id, displayName⟩ :: rest.actors }

structure ActorValidation where
  actors : Option (List ReactionActorRef)
  violations : List ReactionNormalizationViolation
  deriving DecidableEq

def scanReaction (reaction : LegacyReactionRosterDto) : RosterScan :=
  scanRoster reaction.emoji [] reaction.reactorIds reaction.reactorNames

def rosterViolations (reaction : LegacyReactionRosterDto) : List ReactionNormalizationViolation :=
  (if reaction.reactorIds.length = reaction.reactorNames.length then []
    else [⟨.parallelRosterLengthMismatch, reaction.emoji⟩]) ++
  (scanReaction reaction).violations ++
  (if (JsNumber.ofNat (scanReaction reaction).actors.length).strictEq reaction.count then []
    else [⟨.actorCountMismatch, reaction.emoji⟩])

def validateActorRoster (reaction : LegacyReactionRosterDto) : ActorValidation :=
  if rosterViolations reaction = [] then
    ⟨some (sortRows ReactionActorRef.id (scanReaction reaction).actors), []⟩
  else ⟨none, rosterViolations reaction⟩

/-! ## Rows -/

def actorText (actor : ReactionActorRef) : JsString :=
  js "\x7b\"id\":" ++ jsonQuote actor.id ++ js ",\"displayName\":" ++ jsonQuote actor.displayName ++
    js "\x7d"

def previewText (previewK : List ReactionActorRef) : JsString := jsonArray (previewK.map actorText)

/-- A difference that is not a number sorts as an equal count. -/
def compareReactionFacts (first second : CanonicalReactionFact) : Ordering :=
  if first.emoji < second.emoji then .lt
  else if second.emoji < first.emoji then .gt
  else if ¬ first.count.strictEq second.count then
    if second.count.gt first.count then .lt
    else if first.count.gt second.count then .gt
    else .eq
  else if previewText first.previewK < previewText second.previewK then .lt
  else if previewText second.previewK < previewText first.previewK then .gt
  else .eq

structure ReactionRow where
  fact : CanonicalReactionFact
  viewerReacted : Bool
  readCache : Option ReactionActorsReadCacheSeed
  deriving DecidableEq

def emojisOf (reactions : List LegacyReactionRosterDto) : List JsString :=
  reactions.map fun reaction => trim reaction.emoji

/-- The row of a reaction whose emoji and count are in order. -/
def reactionRow (input : NormalizeLegacyReactionRosterInput) (reaction : LegacyReactionRosterDto) :
    ReactionRow where
  fact := ⟨reaction.emoji, reaction.count, []⟩
  viewerReacted :=
    match (validateActorRoster reaction).actors, input.viewerUserId with
    | some actors, some viewerUserId => viewerUserId ≠ [] && actors.any (·.id = viewerUserId)
    | _, _ => false
  readCache := (validateActorRoster reaction).actors.map fun actors =>
    ⟨input.parentScopeKey, input.messageId, reaction.emoji, actors⟩

/-- The rows of the remaining reactions, and all violations when the loop is over. -/
def collectRows (input : NormalizeLegacyReactionRosterInput) :
    (reactions : List LegacyReactionRosterDto) →
    (violations : List ReactionNormalizationViolation) →
      List ReactionRow × List ReactionNormalizationViolation
  | [], violations => ([], violations)
  | rawReaction :: reactions, violations =>
      let reaction := { rawReaction with emoji := trim rawReaction.emoji }
      if reaction.emoji = [] then
        collectRows input reactions (violations ++ [⟨.emptyEmoji, reaction.emoji⟩])
      else if (emojisOf input.reactions).count reaction.emoji ≠ 1 then
        collectRows input reactions
          (if ⟨.duplicateEmoji, reaction.emoji⟩ ∈ violations then violations
            else violations ++ [⟨.duplicateEmoji, reaction.emoji⟩])
      else if reaction.count.isUnsignedSafeInteger = false then
        collectRows input reactions (violations ++ [⟨.invalidCount, reaction.emoji⟩])
      else
        let rest := collectRows input reactions
          (violations ++ (validateActorRoster reaction).violations)
        (reactionRow input reaction :: rest.1, rest.2)

def normalizeLegacyReactionRoster (input : NormalizeLegacyReactionRosterInput) :
    NormalizeLegacyReactionRosterResult :=
  let collected := collectRows input input.reactions []
  let rows := collected.1.insertionSort fun first second =>
    compareReactionFacts first.fact second.fact ≠ .gt
  { sharedFact := rows.map (·.fact)
    viewerOverlay :=
      if input.source = .receiver_private ∧ input.viewerUserId.any (· ≠ []) ∧ collected.2 = [] then
        some ⟨input.serverId, input.messageId,
          (rows.filter (·.viewerReacted)).map fun row => row.fact.emoji⟩
      else none
    readCacheSeed := rows.filterMap (·.readCache)
    violations := collected.2 }

/-! ## Well-formed rosters -/

/-- What leaves a roster without violations. -/
structure WellFormedRoster (reaction : LegacyReactionRosterDto) : Prop where
  lengths : reaction.reactorIds.length = reaction.reactorNames.length
  ids_ne : ∀ reactorId ∈ reaction.reactorIds, trim reactorId ≠ []
  ids_nodup : (reaction.reactorIds.map trim).Nodup
  names_ne : ∀ name ∈ reaction.reactorNames, trim name ≠ []
  count_eq : (JsNumber.ofNat reaction.reactorIds.length).strictEq reaction.count = true

def rosterActors (reactorIds reactorNames : List JsString) : List ReactionActorRef :=
  List.zipWith (fun reactorId name => ⟨trim reactorId, trim name⟩) reactorIds reactorNames

@[simp] theorem violated_violations_ne (scan : RosterScan)
    (kind : ReactionNormalizationViolationKind)
    (emoji : JsString) : (scan.violated kind emoji).violations ≠ [] :=
  List.cons_ne_nil _ _

theorem scanRoster_good {emoji : JsString} {actorIds reactorIds reactorNames : List JsString}
    (hlength : reactorIds.length = reactorNames.length)
    (h : (scanRoster emoji actorIds reactorIds reactorNames).violations = []) :
    (∀ reactorId ∈ reactorIds, trim reactorId ≠ [] ∧ trim reactorId ∉ actorIds) ∧
      (reactorIds.map trim).Nodup ∧ ∀ name ∈ reactorNames, trim name ≠ [] := by
  induction reactorIds generalizing actorIds reactorNames with
  | nil =>
      rw [List.length_nil, eq_comm, List.length_eq_zero_iff] at hlength
      simp [hlength]
  | cons reactorId reactorIds ih =>
      obtain _ | ⟨name, reactorNames⟩ := reactorNames
      · cases hlength
      have hid : trim reactorId ≠ [] := fun hempty => by simp [scanRoster, hempty] at h
      have hseen : trim reactorId ∉ actorIds := fun hmem => by simp [scanRoster, hid, hmem] at h
      have hname : trim name ≠ [] := fun hempty => by simp [scanRoster, hid, hseen, hempty] at h
      simp only [scanRoster, hid, hseen, if_false, List.tail_cons, List.head?_cons, Option.map_some,
        Option.getD_some, hname] at h
      obtain ⟨hids, hnodup, hnames⟩ := ih (Nat.succ.inj hlength) h
      refine ⟨?_, ?_, ?_⟩
      · rw [List.forall_mem_cons]
        exact ⟨⟨hid, hseen⟩, fun other hother =>
          ⟨(hids other hother).1, fun hmem => (hids other hother).2 (List.mem_cons_of_mem _ hmem)⟩⟩
      · refine List.nodup_cons.mpr ⟨?_, hnodup⟩
        intro hmem
        obtain ⟨other, hother, heq⟩ := List.mem_map.mp hmem
        exact (hids other hother).2 (heq.symm ▸ List.mem_cons_self)
      · exact List.forall_mem_cons.mpr ⟨hname, hnames⟩

theorem scanRoster_of_good (emoji : JsString) {actorIds reactorIds reactorNames : List JsString}
    (hlength : reactorIds.length = reactorNames.length)
    (hids : ∀ reactorId ∈ reactorIds, trim reactorId ≠ [] ∧ trim reactorId ∉ actorIds)
    (hnodup : (reactorIds.map trim).Nodup) (hnames : ∀ name ∈ reactorNames, trim name ≠ []) :
    scanRoster emoji actorIds reactorIds reactorNames =
      ⟨[], rosterActors reactorIds reactorNames⟩ := by
  induction reactorIds generalizing actorIds reactorNames with
  | nil => rfl
  | cons reactorId reactorIds ih =>
      obtain _ | ⟨name, reactorNames⟩ := reactorNames
      · cases hlength
      obtain ⟨⟨hid, hseen⟩, hids⟩ := List.forall_mem_cons.mp hids
      obtain ⟨hname, hnames⟩ := List.forall_mem_cons.mp hnames
      obtain ⟨hfresh, hnodup⟩ := List.nodup_cons.mp hnodup
      have hrest := @ih (trim reactorId :: actorIds) _ (Nat.succ.inj hlength)
        (fun other hother => ⟨(hids other hother).1, fun hmem => ?_⟩) hnodup hnames
      · simp only [scanRoster, hid, hseen, if_false, List.tail_cons, hrest, List.head?_cons,
          Option.map_some, Option.getD_some, hname]
        rfl
      · obtain heq | hmem := List.mem_cons.mp hmem
        · exact hfresh (heq ▸ List.mem_map_of_mem hother)
        · exact (hids other hother).2 hmem

theorem scanReaction_wellFormed {reaction : LegacyReactionRosterDto}
    (h : WellFormedRoster reaction) :
    scanReaction reaction = ⟨[], rosterActors reaction.reactorIds reaction.reactorNames⟩ :=
  scanRoster_of_good reaction.emoji h.lengths
    (fun reactorId hmem => ⟨h.ids_ne reactorId hmem, List.not_mem_nil⟩) h.ids_nodup h.names_ne

theorem length_rosterActors {reaction : LegacyReactionRosterDto}
    (h : reaction.reactorIds.length = reaction.reactorNames.length) :
    (rosterActors reaction.reactorIds reaction.reactorNames).length =
      reaction.reactorIds.length := by
  simp [rosterActors, h]

theorem rosterViolations_eq_nil {reaction : LegacyReactionRosterDto} :
    rosterViolations reaction = [] ↔ WellFormedRoster reaction := by
  constructor
  · intro h
    simp only [rosterViolations, List.append_eq_nil_iff, ite_eq_left_iff, List.cons_ne_nil,
      imp_false, not_not] at h
    obtain ⟨⟨hlength, hscan⟩, hcount⟩ := h
    obtain ⟨hids, hnodup, hnames⟩ := scanRoster_good hlength hscan
    rw [scanReaction, scanRoster_of_good reaction.emoji hlength hids hnodup hnames,
      length_rosterActors hlength] at hcount
    exact ⟨hlength, fun id hid => (hids id hid).1, hnodup, hnames, hcount⟩
  · intro h
    simp [rosterViolations, scanReaction_wellFormed h, h.lengths.symm,
      length_rosterActors h.lengths, h.count_eq]

theorem validateActorRoster_wellFormed {reaction : LegacyReactionRosterDto}
    (h : WellFormedRoster reaction) :
    validateActorRoster reaction =
      ⟨some (sortRows ReactionActorRef.id
        (rosterActors reaction.reactorIds reaction.reactorNames)), []⟩ := by
  rw [validateActorRoster, if_pos (rosterViolations_eq_nil.mpr h), scanReaction_wellFormed h]

theorem validateActorRoster_violated {reaction : LegacyReactionRosterDto}
    (h : ¬ WellFormedRoster reaction) :
    validateActorRoster reaction = ⟨none, rosterViolations reaction⟩ := by
  rw [validateActorRoster, if_neg (mt rosterViolations_eq_nil.mp h)]

theorem validateActorRoster_violations {reaction : LegacyReactionRosterDto} :
    (validateActorRoster reaction).violations = [] ↔ WellFormedRoster reaction := by
  by_cases h : WellFormedRoster reaction
  · simp [validateActorRoster_wellFormed h, h]
  · simp [validateActorRoster_violated h, rosterViolations_eq_nil, h]

end Raft.CanonicalMessage

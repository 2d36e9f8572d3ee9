import Raft.CanonicalMessage.ReactionRoster

/-!
# What the shared fact depends on

The rows of a roster have distinct emojis, so their order is that of the emojis.
The shared fact is a function of the emojis and counts alone; the rosters only
decide which rows carry actors, and the order of a roster is lost there.
-/

namespace Raft.CanonicalMessage

open Raft.Foundation
open Raft.ReactionReadModels (ReactionActorRef ReactionActorsReadCacheSeed
  ReactionNormalizationViolation ReactionViewerOverlaySnapshot)

/-! ## Rosters in another order -/

/-- The pairs of an id and a name are the same up to their order. -/
def SameRoster (first second : LegacyReactionRosterDto) : Prop :=
  second.emoji = first.emoji ∧ second.count = first.count ∧
    (second = first ∨
      first.reactorIds.length = first.reactorNames.length ∧
        second.reactorIds.length = second.reactorNames.length ∧
        (first.reactorIds.zip first.reactorNames).Perm (second.reactorIds.zip second.reactorNames))

/-- Reactions and the pairs inside them may change places. -/
def Reshuffled (first second : List LegacyReactionRosterDto) : Prop :=
  ∃ between, first.Perm between ∧ List.Forall₂ SameRoster between second

section

variable {first second : LegacyReactionRosterDto}

theorem wellFormedRoster_of_perm
    (hperm : (first.reactorIds.zip first.reactorNames).Perm
      (second.reactorIds.zip second.reactorNames))
    (hsecond : second.reactorIds.length = second.reactorNames.length)
    (hcount : second.count = first.count) (h : WellFormedRoster first) :
    WellFormedRoster second := by
  have hids : first.reactorIds.Perm second.reactorIds := by
    have hmap := hperm.map Prod.fst
    rwa [List.map_fst_zip h.lengths.le, List.map_fst_zip hsecond.le] at hmap
  have hnames : first.reactorNames.Perm second.reactorNames := by
    have hmap := hperm.map Prod.snd
    rwa [List.map_snd_zip h.lengths.ge, List.map_snd_zip hsecond.ge] at hmap
  refine ⟨hsecond, fun id hid => h.ids_ne id (hids.mem_iff.mpr hid), ?_,
    fun name hname => h.names_ne name (hnames.mem_iff.mpr hname), ?_⟩
  · exact (hids.map trim).nodup_iff.mp h.ids_nodup
  · rw [← hids.length_eq, hcount]
    exact h.count_eq

theorem rosterActors_eq_map (reactorIds reactorNames : List JsString) :
    rosterActors reactorIds reactorNames =
      (reactorIds.zip reactorNames).map fun pair => ⟨trim pair.1, trim pair.2⟩ := by
  rw [rosterActors, List.zip, List.map_zipWith]

theorem ids_rosterActors {reaction : LegacyReactionRosterDto} (h : WellFormedRoster reaction) :
    (rosterActors reaction.reactorIds reaction.reactorNames).map ReactionActorRef.id =
      reaction.reactorIds.map trim := by
  rw [rosterActors_eq_map, List.map_map]
  calc
    _ = ((reaction.reactorIds.zip reaction.reactorNames).map Prod.fst).map trim := by
      rw [List.map_map]
      rfl
    _ = reaction.reactorIds.map trim := by rw [List.map_fst_zip h.lengths.le]

theorem distinctKeys_rosterActors {reaction : LegacyReactionRosterDto}
    (h : WellFormedRoster reaction) :
    DistinctKeys ReactionActorRef.id (rosterActors reaction.reactorIds reaction.reactorNames) := by
  rw [DistinctKeys, ids_rosterActors h]
  exact h.ids_nodup

theorem SameRoster.wellFormed_iff (h : SameRoster first second) :
    WellFormedRoster first ↔ WellFormedRoster second := by
  obtain ⟨-, hcount, rfl | ⟨hfirst, hsecond, hperm⟩⟩ := h
  · exact Iff.rfl
  · exact ⟨wellFormedRoster_of_perm hperm hsecond hcount,
      wellFormedRoster_of_perm hperm.symm hfirst hcount.symm⟩

theorem SameRoster.actors_eq (h : SameRoster first second) :
    (validateActorRoster first).actors = (validateActorRoster second).actors := by
  by_cases hgood : WellFormedRoster first
  · rw [validateActorRoster_wellFormed hgood, validateActorRoster_wellFormed
      (h.wellFormed_iff.mp hgood)]
    obtain ⟨-, -, rfl | ⟨-, -, hperm⟩⟩ := h
    · rfl
    · refine congrArg some ((distinctKeys_rosterActors hgood).sortRows_eq ?_)
      rw [rosterActors_eq_map, rosterActors_eq_map]
      exact hperm.map _
  · rw [validateActorRoster_violated hgood,
      validateActorRoster_violated (mt h.wellFormed_iff.mpr hgood)]

end

/-! ## Rows -/

def trimmed (reaction : LegacyReactionRosterDto) : LegacyReactionRosterDto :=
  { reaction with emoji := trim reaction.emoji }

/-- An emoji that no other reaction has, with a count in range. -/
def HasRow (emojis : List JsString) (emoji : JsString) (count : JsNumber) : Prop :=
  trim emoji ≠ [] ∧ emojis.count (trim emoji) = 1 ∧ count.isUnsignedSafeInteger = true

instance (emojis : List JsString) (emoji : JsString) (count : JsNumber) :
    Decidable (HasRow emojis emoji count) := inferInstanceAs (Decidable (_ ∧ _))

def rowOf (input : NormalizeLegacyReactionRosterInput) (emojis : List JsString)
    (reaction : LegacyReactionRosterDto) : Option ReactionRow :=
  if HasRow emojis reaction.emoji reaction.count then some (reactionRow input (trimmed reaction))
  else none

def rowsOf (input : NormalizeLegacyReactionRosterInput) : List ReactionRow :=
  input.reactions.filterMap (rowOf input (emojisOf input.reactions))

/-- A reaction that leaves no violation. -/
def Clean (emojis : List JsString) (reaction : LegacyReactionRosterDto) : Prop :=
  HasRow emojis reaction.emoji reaction.count ∧ WellFormedRoster (trimmed reaction)

theorem collectRows_spec (input : NormalizeLegacyReactionRosterInput)
    (reactions : List LegacyReactionRosterDto) (violations : List ReactionNormalizationViolation) :
    (collectRows input reactions violations).1 =
        reactions.filterMap (rowOf input (emojisOf input.reactions)) ∧
      ((collectRows input reactions violations).2 = [] ↔
        violations = [] ∧ ∀ reaction ∈ reactions, Clean (emojisOf input.reactions) reaction) := by
  induction reactions generalizing violations with
  | nil => simp [collectRows]
  | cons reaction reactions ih =>
      rw [List.filterMap_cons, List.forall_mem_cons]
      by_cases hrow : HasRow (emojisOf input.reactions) reaction.emoji reaction.count
      · obtain ⟨hrows, hnone⟩ :=
          ih (violations ++ (validateActorRoster (trimmed reaction)).violations)
        have hstep : collectRows input (reaction :: reactions) violations =
            (reactionRow input (trimmed reaction) ::
              (collectRows input reactions
                (violations ++ (validateActorRoster (trimmed reaction)).violations)).1,
              (collectRows input reactions
                (violations ++ (validateActorRoster (trimmed reaction)).violations)).2) := by
          obtain ⟨hemoji, hcount, hsafe⟩ := hrow
          simp [collectRows, hemoji, hcount, hsafe, trimmed]
        rw [hstep, rowOf, if_pos hrow]
        refine ⟨congrArg _ hrows, hnone.trans ?_⟩
        rw [List.append_eq_nil_iff, validateActorRoster_violations, Clean]
        simp [hrow, and_assoc]
      · have hskip : ∃ more, more ≠ [] ∧
            collectRows input (reaction :: reactions) violations =
              collectRows input reactions more := by
          rw [HasRow, not_and, not_and] at hrow
          by_cases hemoji : trim reaction.emoji = []
          · exact ⟨violations ++ [⟨.emptyEmoji, []⟩], by simp, by simp [collectRows, hemoji]⟩
          by_cases hcount : (emojisOf input.reactions).count (trim reaction.emoji) = 1
          · refine ⟨violations ++ [⟨.invalidCount, trim reaction.emoji⟩], by simp, ?_⟩
            simp [collectRows, hemoji, hcount, hrow hemoji hcount]
          · refine ⟨if ⟨.duplicateEmoji, trim reaction.emoji⟩ ∈ violations then violations
              else violations ++ [⟨.duplicateEmoji, trim reaction.emoji⟩], ?_, ?_⟩
            · split
              · next hmem => exact List.ne_nil_of_mem hmem
              · simp
            · simp [collectRows, hemoji, hcount]
        obtain ⟨more, hmore, hstep⟩ := hskip
        obtain ⟨hrows, hnone⟩ := ih more
        rw [hstep, rowOf, if_neg hrow]
        refine ⟨hrows, hnone.trans ?_⟩
        simp [hmore, Clean, hrow]

theorem emojis_rowsOf (input : NormalizeLegacyReactionRosterInput) (emojis : List JsString)
    (reactions : List LegacyReactionRosterDto) :
    ((reactions.filterMap (rowOf input emojis)).map fun row => row.fact.emoji).Sublist
      ((emojisOf reactions).filter fun emoji => emojis.count emoji = 1) := by
  induction reactions with
  | nil => exact List.Sublist.refl _
  | cons reaction reactions ih =>
      rw [List.filterMap_cons, emojisOf, List.map_cons, List.filter_cons]
      by_cases hrow : HasRow emojis reaction.emoji reaction.count
      · rw [rowOf, if_pos hrow, if_pos (by simpa using hrow.2.1)]
        exact ih.cons_cons _
      · rw [rowOf, if_neg hrow]
        dsimp only
        split
        · exact ih.cons _
        · exact ih

theorem distinctKeys_rowsOf (input : NormalizeLegacyReactionRosterInput) :
    DistinctKeys (fun row : ReactionRow => row.fact.emoji) (rowsOf input) := by
  refine (emojis_rowsOf input (emojisOf input.reactions) input.reactions).nodup ?_
  refine List.nodup_iff_count_le_one.mpr fun emoji => ?_
  by_cases hcount : (emojisOf input.reactions).count emoji = 1
  · exact (List.filter_sublist.count_le emoji).trans hcount.le
  · rw [List.count_eq_zero_of_not_mem (by simp [hcount])]
    exact Nat.zero_le 1

theorem gt_self (number : JsNumber) : number.gt number = false := by
  rw [JsNumber.gt, JsNumber.compares]
  split <;> simp_all

theorem compareReactionFacts_self (fact : CanonicalReactionFact) :
    compareReactionFacts fact fact = .eq := by
  simp [compareReactionFacts, gt_self]

theorem insertionSort_rowsOf (input : NormalizeLegacyReactionRosterInput) :
    ((rowsOf input).insertionSort fun first second =>
      compareReactionFacts first.fact second.fact ≠ .gt) =
        sortRows (fun row => row.fact.emoji) (rowsOf input) := by
  refine insertionSort_eq_sortRows _ fun first hfirst second hsecond => ?_
  obtain hlt | heq | hgt := lt_trichotomy first.fact.emoji second.fact.emoji
  · simp [compareReactionFacts, hlt, hlt.le]
  · have hsame : first = second := (distinctKeys_rowsOf input).eq_of_key hfirst hsecond heq
    simp [hsame, compareReactionFacts_self]
  · simp [compareReactionFacts, hgt, hgt.not_gt]

theorem normalizeLegacyReactionRoster_rows (input : NormalizeLegacyReactionRosterInput) :
    let rows := sortRows (fun row => row.fact.emoji) (rowsOf input)
    (normalizeLegacyReactionRoster input).sharedFact = rows.map (·.fact) ∧
      (normalizeLegacyReactionRoster input).readCacheSeed = rows.filterMap (·.readCache) ∧
      (normalizeLegacyReactionRoster input).viewerOverlay =
        if input.source = .receiver_private ∧ input.viewerUserId.any (· ≠ []) ∧
            (collectRows input input.reactions []).2 = [] then
          some ⟨input.serverId, input.messageId,
            (rows.filter (·.viewerReacted)).map fun row => row.fact.emoji⟩
        else none := by
  have hrows := (collectRows_spec input input.reactions []).1
  have hsorted := insertionSort_rowsOf input
  rw [rowsOf, ← hrows] at hsorted
  simp only [normalizeLegacyReactionRoster, rowsOf, ← hrows, hsorted, and_self]

/-! ## The shared fact -/

def factRows (counted : List (JsString × JsNumber)) : List CanonicalReactionFact :=
  counted.filterMap fun entry =>
    if HasRow (counted.map fun entry => trim entry.1) entry.1 entry.2 then
      some ⟨trim entry.1, entry.2, []⟩
    else none

def countedEmojis (reactions : List LegacyReactionRosterDto) : List (JsString × JsNumber) :=
  reactions.map fun reaction => (reaction.emoji, reaction.count)

theorem facts_rowsOf (input : NormalizeLegacyReactionRosterInput) :
    (rowsOf input).map (·.fact) = factRows (countedEmojis input.reactions) := by
  have hemojis : (countedEmojis input.reactions).map (fun entry => trim entry.1) =
      emojisOf input.reactions := by
    rw [countedEmojis, List.map_map]
    rfl
  rw [rowsOf, List.map_filterMap, factRows, hemojis, countedEmojis, List.filterMap_map]
  refine List.filterMap_congr fun reaction _ => ?_
  simp only [Function.comp_apply, rowOf]
  split <;> rfl

theorem sharedFact_eq (input : NormalizeLegacyReactionRosterInput) :
    (normalizeLegacyReactionRoster input).sharedFact =
      sortRows CanonicalReactionFact.emoji (factRows (countedEmojis input.reactions)) := by
  rw [(normalizeLegacyReactionRoster_rows input).1, ← facts_rowsOf, sortRows, sortRows]
  exact List.map_insertionSort _ _ _ _ fun _ _ _ _ => Iff.rfl

theorem distinctKeys_factRows (input : NormalizeLegacyReactionRosterInput) :
    DistinctKeys CanonicalReactionFact.emoji (factRows (countedEmojis input.reactions)) := by
  rw [← facts_rowsOf, DistinctKeys, List.map_map]
  exact distinctKeys_rowsOf input

theorem factRows_perm {first second : List (JsString × JsNumber)} (h : first.Perm second) :
    (factRows first).Perm (factRows second) := by
  have hrow : ∀ emoji count, HasRow (first.map fun entry => trim entry.1) emoji count ↔
      HasRow (second.map fun entry => trim entry.1) emoji count := by
    intro emoji count
    rw [HasRow, HasRow, (h.map _).count_eq]
  simp only [factRows, hrow]
  exact h.filterMap _

/-- Whoever views and whoever reacted, the same emojis and counts give one fact. -/
theorem sharedFact_congr {first second : NormalizeLegacyReactionRosterInput}
    (h : (countedEmojis first.reactions).Perm (countedEmojis second.reactions)) :
    (normalizeLegacyReactionRoster first).sharedFact =
      (normalizeLegacyReactionRoster second).sharedFact := by
  rw [sharedFact_eq, sharedFact_eq]
  exact (distinctKeys_factRows first).sortRows_eq (factRows_perm h)

/-! ## Reshuffled rosters -/

section

variable (input : NormalizeLegacyReactionRosterInput) {reactions : List LegacyReactionRosterDto}

theorem SameRoster.trimmed {first second : LegacyReactionRosterDto} (h : SameRoster first second) :
    SameRoster (trimmed first) (trimmed second) := by
  obtain ⟨hemoji, hcount, rfl | hpairs⟩ := h
  · exact ⟨rfl, rfl, .inl rfl⟩
  · exact ⟨congrArg trim hemoji, hcount, .inr hpairs⟩

theorem SameRoster.rowOf_eq {first second : LegacyReactionRosterDto} (h : SameRoster first second)
    (emojis : List JsString) : rowOf input emojis first = rowOf input emojis second := by
  have hactors := h.trimmed.actors_eq
  simp only [rowOf, h.1, h.2.1, reactionRow, CanonicalMessage.trimmed] at hactors ⊢
  rw [hactors]

theorem emojisOf_congr {first second : List LegacyReactionRosterDto}
    (h : List.Forall₂ SameRoster first second) : emojisOf first = emojisOf second := by
  induction h with
  | nil => rfl
  | cons hhead _ ih => exact congrArg₂ List.cons (congrArg trim hhead.1.symm) ih

theorem filterMap_rowOf_congr (emojis : List JsString) {first second : List LegacyReactionRosterDto}
    (h : List.Forall₂ SameRoster first second) :
    first.filterMap (rowOf input emojis) = second.filterMap (rowOf input emojis) := by
  induction h with
  | nil => rfl
  | cons hhead _ ih => rw [List.filterMap_cons, List.filterMap_cons, ih, hhead.rowOf_eq]

omit input in
theorem forall_clean_congr (emojis : List JsString) {first second : List LegacyReactionRosterDto}
    (h : List.Forall₂ SameRoster first second) :
    (∀ reaction ∈ first, Clean emojis reaction) ↔ ∀ reaction ∈ second, Clean emojis reaction := by
  induction h with
  | nil => simp
  | cons hhead _ ih =>
      rw [List.forall_mem_cons, List.forall_mem_cons, ih, Clean, Clean, hhead.1, hhead.2.1,
        hhead.trimmed.wellFormed_iff]

theorem rowsOf_congr (h : List.Forall₂ SameRoster input.reactions reactions) :
    rowsOf { input with reactions := reactions } = rowsOf input := by
  have hrow : ∀ emojis reaction, rowOf { input with reactions := reactions } emojis reaction =
      rowOf input emojis reaction := fun _ _ => rfl
  simp only [rowsOf, hrow, ← emojisOf_congr h]
  exact (filterMap_rowOf_congr input _ h).symm

theorem rowsOf_perm (h : input.reactions.Perm reactions) :
    (rowsOf input).Perm (rowsOf { input with reactions := reactions }) := by
  have hrow : ∀ reaction, rowOf { input with reactions := reactions } (emojisOf reactions)
    reaction =
      rowOf input (emojisOf input.reactions) reaction := by
    intro reaction
    simp only [rowOf, HasRow, emojisOf, (h.map fun reaction => trim reaction.emoji).count_eq]
    rfl
  simp only [rowsOf, hrow]
  exact h.filterMap _

theorem clean_congr (h : List.Forall₂ SameRoster input.reactions reactions) :
    (∀ reaction ∈ input.reactions, Clean (emojisOf input.reactions) reaction) ↔
      ∀ reaction ∈ reactions, Clean (emojisOf reactions) reaction := by
  rw [← emojisOf_congr h]
  exact forall_clean_congr _ h

theorem clean_perm (h : input.reactions.Perm reactions) :
    (∀ reaction ∈ input.reactions, Clean (emojisOf input.reactions) reaction) ↔
      ∀ reaction ∈ reactions, Clean (emojisOf reactions) reaction := by
  have hclean : ∀ reaction, Clean (emojisOf input.reactions) reaction ↔
      Clean (emojisOf reactions) reaction := by
    intro reaction
    simp only [Clean, HasRow, emojisOf, (h.map fun reaction => trim reaction.emoji).count_eq]
  simp only [hclean, h.mem_iff]

theorem violations_eq_nil :
    (collectRows input input.reactions []).2 = [] ↔
      ∀ reaction ∈ input.reactions, Clean (emojisOf input.reactions) reaction := by
  simpa using (collectRows_spec input input.reactions []).2

def outcome (result : NormalizeLegacyReactionRosterResult) :
    List CanonicalReactionFact × Option ReactionViewerOverlaySnapshot ×
      List ReactionActorsReadCacheSeed :=
  (result.sharedFact, result.viewerOverlay, result.readCacheSeed)

theorem outcome_congr
    (hrows : (rowsOf input).Perm (rowsOf { input with reactions := reactions }))
    (hclean : (∀ reaction ∈ input.reactions, Clean (emojisOf input.reactions) reaction) ↔
      ∀ reaction ∈ reactions, Clean (emojisOf reactions) reaction) :
    outcome (normalizeLegacyReactionRoster { input with reactions := reactions }) =
      outcome (normalizeLegacyReactionRoster input) := by
  obtain ⟨hfact, hseed, hoverlay⟩ := normalizeLegacyReactionRoster_rows input
  obtain ⟨hfact', hseed', hoverlay'⟩ :=
    normalizeLegacyReactionRoster_rows { input with reactions := reactions }
  have hsorted := (distinctKeys_rowsOf input).sortRows_eq hrows
  have hnone := (violations_eq_nil input).trans
    (hclean.trans (violations_eq_nil { input with reactions := reactions }).symm)
  rw [outcome, outcome, hfact, hseed, hoverlay, hfact', hseed', hoverlay', hsorted]
  simp only [hnone]

theorem outcome_reshuffled (h : Reshuffled input.reactions reactions) :
    outcome (normalizeLegacyReactionRoster { input with reactions := reactions }) =
      outcome (normalizeLegacyReactionRoster input) := by
  obtain ⟨between, hperm, hpairs⟩ := h
  have hbetween : outcome (normalizeLegacyReactionRoster { input with reactions := between }) =
      outcome (normalizeLegacyReactionRoster input) :=
    outcome_congr input (rowsOf_perm input hperm) (clean_perm input hperm)
  refine Eq.trans ?_ hbetween
  exact outcome_congr { input with reactions := between }
    (List.Perm.of_eq (rowsOf_congr { input with reactions := between } hpairs).symm)
    (clean_congr { input with reactions := between } hpairs)

end

/-! ## The viewer's reactions -/

section

variable (input : NormalizeLegacyReactionRosterInput)

def rosterIds (reaction : LegacyReactionRosterDto) : List JsString := reaction.reactorIds.map trim

theorem viewerReacted_iff {reaction : LegacyReactionRosterDto} (h : WellFormedRoster reaction) :
    (reactionRow input reaction).viewerReacted = true ↔
      ∃ viewerUserId ∈ input.viewerUserId, viewerUserId ≠ [] ∧
        viewerUserId ∈ rosterIds reaction := by
  rw [reactionRow, validateActorRoster_wellFormed h, rosterIds, ← ids_rosterActors h]
  cases input.viewerUserId with
  | none => simp
  | some viewerUserId =>
      simp only [Bool.and_eq_true, decide_eq_true_eq, List.any_eq_true, mem_sortRows,
        Option.mem_some_iff, exists_eq_left', List.mem_map]

theorem rowsOf_clean
    (hclean : ∀ reaction ∈ input.reactions, Clean (emojisOf input.reactions) reaction) :
    rowsOf input = input.reactions.map fun reaction => reactionRow input (trimmed reaction) := by
  rw [rowsOf, ← List.filterMap_eq_map]
  exact List.filterMap_congr fun reaction hmem =>
    by rw [rowOf, if_pos (hclean reaction hmem).1]; rfl

/-- A complete overlay lists the emojis of the rosters with the viewer in ascending order. -/
theorem viewerOverlay_exact {overlay : ReactionViewerOverlaySnapshot}
    (h : (normalizeLegacyReactionRoster input).viewerOverlay = some overlay) :
    overlay.reactedEmojis.Pairwise (· < ·) ∧
      ∀ emoji, emoji ∈ overlay.reactedEmojis ↔
        ∃ reaction ∈ input.reactions, trim reaction.emoji = emoji ∧
          ∃ viewerUserId ∈ input.viewerUserId, viewerUserId ∈ rosterIds reaction := by
  rw [(normalizeLegacyReactionRoster_rows input).2.2] at h
  split at h
  · next hready =>
      obtain ⟨-, hviewer, hnone⟩ := hready
      obtain rfl := Option.some_inj.mp h
      have hclean := (violations_eq_nil input).mp hnone
      refine ⟨?_, fun emoji => ?_⟩
      · exact (distinctKeys_rowsOf input).keys_sortRows.sublist (List.filter_sublist.map _)
      · simp only [List.mem_map, List.mem_filter, mem_sortRows, rowsOf_clean input hclean]
        constructor
        · rintro ⟨row, ⟨⟨reaction, hreaction, rfl⟩, hreacted⟩, rfl⟩
          obtain ⟨viewerUserId, hid, -, hmem⟩ :=
            (viewerReacted_iff input (hclean reaction hreaction).2).mp hreacted
          exact ⟨reaction, hreaction, rfl, viewerUserId, hid, hmem⟩
        · rintro ⟨reaction, hreaction, rfl, viewerUserId, hid, hmem⟩
          refine ⟨_, ⟨⟨reaction, hreaction, rfl⟩, ?_⟩, rfl⟩
          refine (viewerReacted_iff input (hclean reaction hreaction).2).mpr
            ⟨viewerUserId, hid, ?_, hmem⟩
          rw [Option.mem_def.mp hid] at hviewer
          simpa using hviewer
  · cases h

theorem viewerOverlay_channel_room (h : input.source = .channel_room) :
    (normalizeLegacyReactionRoster input).viewerOverlay = none := by
  rw [(normalizeLegacyReactionRoster_rows input).2.2, if_neg]
  simp [h]

end

end Raft.CanonicalMessage

import Raft.AgentActivityEvents.Register

/-!
# The trajectory log converges

Live rows carry the identity of their source and hydrated rows do not, so the
same fact may arrive as both.  Rows merged in any order and any batches give
the last of the rows that are left when each hydrated row with an identified
duplicate is dropped, unless a row with an identity has the very key of its
hydrated duplicate or the sequence numbers below zero confuse the order.
-/

namespace Raft.AgentActivityEvents

open Raft.Foundation

variable (texts : EntryTexts)

def identified (row : TrajectoryLogEntry) : Bool :=
  hasTrajectoryLogSourceIdentity row.toSourceIdentity

def trajectoryOrder (first second : TrajectoryLogEntry) : Prop :=
  logOrder (first.timestamp, first.serverSeq) (second.timestamp, second.serverSeq)

instance : DecidableRel trajectoryOrder := fun _ _ => inferInstanceAs (Decidable (logOrder _ _))

/-! ## What the log is for -/

def rowFields (row : TrajectoryLogEntry) : Int × SourceIdentity × JsString :=
  (row.timestamp, row.toSourceIdentity, texts.stableTrajectoryEntryKey row.entry)

def leftRows (rows : List TrajectoryLogEntry) : List TrajectoryLogEntry :=
  rows.filter fun row => identified row || !rows.any fun live =>
    identified live && trajectoryLogVisibleKey texts live = trajectoryLogVisibleKey texts row

def trajectoryLog (rows : List TrajectoryLogEntry) : List TrajectoryLogEntry :=
  keepLast maxTrajectoryEntries ((leftRows texts rows).insertionSort trajectoryOrder)

def mergeBatches (batches : List (List TrajectoryLogEntry)) : List TrajectoryLogEntry :=
  batches.foldl (fun log batch => (mergeTrajectoryLogs texts log batch).getD log) []

def hasProducerFact (row : TrajectoryLogEntry) : Bool :=
  row.entry.producerFactId.any fun factId => !factId.isEmpty

/-- A set of rows in which only duplicates share a timestamp and sequence number, and only a
hydrated row shares the visible key of a row with a producer fact. -/
structure Admissible (rows : List TrajectoryLogEntry) : Prop where
  nodup : (rows.map (rowFields texts)).Nodup
  ties : ∀ first ∈ rows, ∀ second ∈ rows, first ≠ second → first.timestamp = second.timestamp →
    first.serverSeq = second.serverSeq → shouldDedupeTrajectoryLogEntries texts first second = true
  facts : ∀ first ∈ rows, ∀ second ∈ rows, first ≠ second →
    hasProducerFact first = true → hasProducerFact second = true →
      identified first = true → identified second = true →
        trajectoryLogVisibleKey texts first ≠ trajectoryLogVisibleKey texts second

/-- The JSON text of an entry shows its producer fact. -/
def ShowsFacts (rows : List TrajectoryLogEntry) : Prop :=
  ∀ first ∈ rows, ∀ second ∈ rows,
    texts.stableTrajectoryEntryKey first.entry = texts.stableTrajectoryEntryKey second.entry →
      first.entry.producerFactId = second.entry.producerFactId

/-- Any order, batches and repetition give the one log, and rows it has change nothing. -/
structure Converges (rows : List TrajectoryLogEntry) : Prop where
  log : ∀ batches : List (List TrajectoryLogEntry), (∀ row, row ∈ batches.flatten ↔ row ∈ rows) →
    mergeBatches texts batches = trajectoryLog texts rows
  again : ∀ batches : List (List TrajectoryLogEntry), (∀ row, row ∈ batches.flatten ↔ row ∈ rows) →
    ∀ batch, (∀ row ∈ batch, row ∈ mergeBatches texts batches) →
      mergeTrajectoryLogs texts (mergeBatches texts batches) batch = none

/-- The rows that can stand in a log beside the row without sorting before it: those that have
no identified duplicate of which this holds, and the identified ones. -/
def rowsBeside (rows : List TrajectoryLogEntry) (row : TrajectoryLogEntry) :
    List TrajectoryLogEntry :=
  rows.filter fun other => trajectoryOrder row other && (identified other || !rows.any fun live =>
    identified live && trajectoryLogVisibleKey texts live = trajectoryLogVisibleKey texts other &&
      trajectoryOrder row live)

/-- The rows on which an identity tells a live row from its hydrated duplicate. -/
structure IdentitiesShow (rows : List TrajectoryLogEntry) : Prop where
  /-- No row of the log has the key of another row. -/
  keys : ∀ row ∈ trajectoryLog texts rows, ∀ other ∈ rows, other ≠ row →
    trajectoryLogKey texts other ≠ trajectoryLogKey texts row
  /-- No two rows of the log tie. -/
  untied : (trajectoryLog texts rows).Pairwise fun first second => ¬ trajectoryOrder second first
  /-- A hydrated row that sorts after its identified duplicate takes no row of the log's place. -/
  room : ∀ row ∈ trajectoryLog texts rows,
    (rowsBeside texts rows row).length ≤ maxTrajectoryEntries

/-! ## The order of rows -/

instance : Std.Total trajectoryOrder where
  total first second := by
    simp only [trajectoryOrder, logOrder]
    omega

instance : IsTrans TrajectoryLogEntry trajectoryOrder where
  trans first second third := by
    simp only [trajectoryOrder, logOrder]
    omega

/-! ## Keys -/

theorem mem_decimalText {n : Nat} {unit : CodeUnit} (h : unit ∈ decimalText n) :
    isDigit unit = true :=
  List.all_eq_true.mp (isCanonicalDecimal_all (isCanonicalDecimal_decimalText n)) unit h

theorem mem_numberText {number : Int} {unit : CodeUnit} (h : unit ∈ numberText number) :
    unit = 0x2D ∨ isDigit unit = true := by
  rw [numberText] at h
  split_ifs at h
  · obtain hminus | hdigit := List.mem_append.mp h
    · exact .inl (List.mem_singleton.mp hminus)
    · exact .inr (mem_decimalText hdigit)
  · exact .inr (mem_decimalText h)

theorem colon_notMem_numberText (number : Int) : (0x3A : CodeUnit) ∉ numberText number :=
  fun h => absurd (mem_numberText h) (by decide)

theorem minus_head_numberText_iff (number : Int) :
    (numberText number).head? = some 0x2D ↔ number < 0 := by
  rw [numberText]
  split_ifs with hneg
  · exact iff_of_true rfl hneg
  · refine iff_of_false (fun hhead => ?_) hneg
    exact absurd (mem_decimalText (List.mem_of_mem_head? hhead)) (by decide)

theorem numberText_injective : Function.Injective numberText := by
  intro first second h
  have hsign : first < 0 ↔ second < 0 := by
    rw [← minus_head_numberText_iff, h, minus_head_numberText_iff]
  by_cases hneg : second < 0
  · rw [numberText, numberText, if_pos (hsign.mpr hneg), if_pos hneg] at h
    have habs := decimalText_injective (List.append_cancel_left h)
    omega
  · rw [numberText, numberText, if_neg (hsign.not.mpr hneg), if_neg hneg] at h
    have habs := decimalText_injective h
    omega

theorem append_colon_inj {first second rest other : JsString} (hfirst : (0x3A : CodeUnit) ∉ first)
    (hsecond : (0x3A : CodeUnit) ∉ second) (h : first ++ 0x3A :: rest = second ++ 0x3A :: other) :
    first = second ∧ rest = other := by
  induction first generalizing second with
  | nil =>
      obtain _ | ⟨unit, second⟩ := second
      · exact ⟨rfl, (List.cons.inj h).2⟩
      · exact absurd (List.cons.inj h).1 (List.ne_of_not_mem_cons hsecond)
  | cons unit first ih =>
      obtain _ | ⟨unit', second⟩ := second
      · exact absurd (List.cons.inj h).1.symm (List.ne_of_not_mem_cons hfirst)
      · obtain ⟨rfl, hrest⟩ := List.cons.inj h
        obtain ⟨rfl, rfl⟩ := ih (List.not_mem_of_not_mem_cons hfirst)
          (List.not_mem_of_not_mem_cons hsecond) hrest
        exact ⟨rfl, rfl⟩

def seqText (serverSeq : Option Int) : JsString := (serverSeq.map numberText).getD (js "na")

theorem colon_notMem_seqText (serverSeq : Option Int) : (0x3A : CodeUnit) ∉ seqText serverSeq := by
  cases serverSeq with
  | none => decide
  | some number => exact colon_notMem_numberText number

theorem seqText_injective : Function.Injective seqText := by
  have hna : ∀ number, numberText number ≠ js "na" := by
    intro number h
    have hmem : (0x6E : CodeUnit) ∈ numberText number := by
      rw [h]
      decide
    exact absurd (mem_numberText hmem) (by decide)
  intro first second h
  cases first <;> cases second
  · rfl
  · exact absurd h.symm (hna _)
  · exact absurd h (hna _)
  · exact congrArg some (numberText_injective h)

theorem trajectoryLogKey_eq (row : TrajectoryLogEntry) :
    ∃ rest, trajectoryLogKey texts row =
      numberText row.timestamp ++ 0x3A :: (seqText row.serverSeq ++ 0x3A :: rest) := by
  refine ⟨joinTexts (row.launchId.getD [] :: (row.clientSeq.map numberText).getD [] ::
    row.probeId.getD [] :: [texts.stableTrajectoryEntryKey row.entry]), ?_⟩
  rfl

theorem fields_of_trajectoryLogKey {first second : TrajectoryLogEntry}
    (h : trajectoryLogKey texts first = trajectoryLogKey texts second) :
    first.timestamp = second.timestamp ∧ first.serverSeq = second.serverSeq := by
  obtain ⟨firstRest, hfirst⟩ := trajectoryLogKey_eq texts first
  obtain ⟨secondRest, hsecond⟩ := trajectoryLogKey_eq texts second
  rw [hfirst, hsecond] at h
  obtain ⟨htime, hrest⟩ := append_colon_inj (colon_notMem_numberText _)
    (colon_notMem_numberText _) h
  obtain ⟨hseq, -⟩ := append_colon_inj (colon_notMem_seqText _) (colon_notMem_seqText _) hrest
  exact ⟨numberText_injective htime, seqText_injective hseq⟩

theorem fields_of_visibleKey {first second : TrajectoryLogEntry}
    (h : trajectoryLogVisibleKey texts first = trajectoryLogVisibleKey texts second) :
    first.timestamp = second.timestamp ∧ texts.stableTrajectoryEntryKey first.entry =
      texts.stableTrajectoryEntryKey second.entry := by
  rw [trajectoryLogVisibleKey, trajectoryLogVisibleKey, List.append_assoc, List.append_assoc] at h
  obtain ⟨htime, hentry⟩ := append_colon_inj (colon_notMem_numberText _)
    (colon_notMem_numberText _) h
  exact ⟨numberText_injective htime, hentry⟩

/-! ## Duplicates -/

def Twins (first second : TrajectoryLogEntry) : Prop :=
  trajectoryLogVisibleKey texts first = trajectoryLogVisibleKey texts second ∧
    identified first ≠ identified second

variable {texts}

theorem Twins.symm {first second : TrajectoryLogEntry} (h : Twins texts first second) :
    Twins texts second first :=
  ⟨h.1.symm, h.2.symm⟩

theorem Twins.irrefl (row : TrajectoryLogEntry) : ¬ Twins texts row row := fun h => h.2 rfl

theorem Twins.prefersIncoming_eq {first second : TrajectoryLogEntry}
    (h : Twins texts first second) :
    prefersIncoming first second = identified second := by
  have hdiff := h.2
  rw [prefersIncoming, ← identified, ← identified]
  cases hleft : identified first <;> cases hright : identified second <;> simp_all

theorem Twins.identified_left {first second : TrajectoryLogEntry} (h : Twins texts first second)
    (hsecond : identified second = false) : identified first = true := by
  have hdiff := h.2
  rw [hsecond] at hdiff
  simpa using hdiff

theorem Twins.hydrated_left {first second : TrajectoryLogEntry} (h : Twins texts first second)
    (hsecond : identified second = true) : identified first = false := by
  have hdiff := h.2
  rw [hsecond] at hdiff
  simpa using hdiff

theorem apart_insert {log others : List TrajectoryLogEntry} {item : TrajectoryLogEntry}
    (hmem : ∀ row ∈ log, row = item ∨ row ∈ others)
    (hitem : ∀ row ∈ others, ¬ Twins texts row item)
    (hothers : ∀ first ∈ others, ∀ second ∈ others, ¬ Twins texts first second) :
    ∀ first ∈ log, ∀ second ∈ log, ¬ Twins texts first second := by
  intro first hfirst second hsecond htwins
  obtain rfl | hfirst := hmem first hfirst <;> obtain rfl | hsecond := hmem second hsecond
  · exact Twins.irrefl _ htwins
  · exact hitem second hsecond htwins.symm
  · exact hitem first hfirst htwins
  · exact hothers first hfirst second hsecond htwins

section Rows

variable {rows : List TrajectoryLogEntry} (hrows : Admissible texts rows)
include hrows

theorem Admissible.rows_nodup : rows.Nodup := List.Nodup.of_map _ hrows.nodup

theorem Admissible.hydrated_unique {first second : TrajectoryLogEntry} (hfirst : first ∈ rows)
    (hsecond : second ∈ rows) (hbare : identified first = false)
    (hbare' : identified second = false)
    (h : trajectoryLogVisibleKey texts first = trajectoryLogVisibleKey texts second) :
    first = second := by
  obtain ⟨htime, hentry⟩ := fields_of_visibleKey texts h
  have hsource : ∀ {row : TrajectoryLogEntry}, identified row = false →
      row.toSourceIdentity = ⟨none, none, none, none⟩ := by
    rintro ⟨⟨seq, launch, client, probe⟩, time, entry⟩ hrow
    simp only [identified, hasTrajectoryLogSourceIdentity, Bool.or_eq_false_iff,
      Option.isSome_eq_false_iff, Option.isNone_iff_eq_none] at hrow
    obtain ⟨⟨⟨rfl, rfl⟩, rfl⟩, rfl⟩ := hrow
    rfl
  refine List.inj_on_of_nodup_map hrows.nodup hfirst hsecond ?_
  rw [rowFields, rowFields, htime, hentry, hsource hbare, hsource hbare']

variable (hfacts : ShowsFacts texts rows)
include hfacts

theorem Admissible.dedupe_iff {first second : TrajectoryLogEntry} (hfirst : first ∈ rows)
    (hsecond : second ∈ rows) (hne : first ≠ second) :
    shouldDedupeTrajectoryLogEntries texts first second = true ↔ Twins texts first second := by
  rw [shouldDedupeTrajectoryLogEntries, Bool.and_eq_true, decide_eq_true_eq, Twins]
  refine and_congr_right fun hkey => ?_
  have hfact := hfacts first hfirst second hsecond (fields_of_visibleKey texts hkey).2
  have hunique := hrows.hydrated_unique hfirst hsecond
  have hshared := hrows.facts first hfirst second hsecond hne
  simp only [hasProducerFact, hfact] at hshared
  have hlive : ∀ row : TrajectoryLogEntry,
      hasTrajectoryLogSourceIdentity row.toSourceIdentity = identified row := fun _ => rfl
  simp only [Bool.or_eq_true, Bool.not_eq_true', hfact, hlive]
  cases hleft : identified first <;> cases hright : identified second
  · exact absurd (hunique hleft hright hkey) hne
  · simp
  · simp
  · simp only [Bool.true_eq_false, or_false, ne_eq, not_true_eq_false, iff_false]
    intro hfactTrue
    exact hshared hfactTrue hfactTrue hleft hright hkey

theorem Admissible.twins_of_key {first second : TrajectoryLogEntry} (hfirst : first ∈ rows)
    (hsecond : second ∈ rows) (hne : first ≠ second)
    (h : trajectoryLogKey texts first = trajectoryLogKey texts second) :
    Twins texts first second := by
  obtain ⟨htime, hseq⟩ := fields_of_trajectoryLogKey texts h
  exact (hrows.dedupe_iff hfacts hfirst hsecond hne).mp
    (hrows.ties first hfirst second hsecond hne htime hseq)

end Rows

/-! ## One row -/

variable (texts) in
theorem mergeTrajectoryItem_cases (changed : Bool) (log : List TrajectoryLogEntry)
    (item : TrajectoryLogEntry) :
    (mergeTrajectoryItem texts (changed, log) item = (changed, log) ∧
      ((∃ row ∈ log, trajectoryLogKey texts row = trajectoryLogKey texts item) ∨
        ∃ row ∈ log, trajectoryLogKey texts row ≠ trajectoryLogKey texts item ∧
          shouldDedupeTrajectoryLogEntries texts row item = true ∧
            prefersIncoming row item = false)) ∨
    (∃ before row after, log = before ++ row :: after ∧
      trajectoryLogKey texts row ≠ trajectoryLogKey texts item ∧
      shouldDedupeTrajectoryLogEntries texts row item = true ∧ prefersIncoming row item = true ∧
      mergeTrajectoryItem texts (changed, log) item = (true, before ++ item :: after)) ∨
    ((∀ row ∈ log, trajectoryLogKey texts row ≠ trajectoryLogKey texts item ∧
        shouldDedupeTrajectoryLogEntries texts row item = false) ∧
      mergeTrajectoryItem texts (changed, log) item = (true, log ++ [item])) := by
  rw [mergeTrajectoryItem]
  dsimp only
  split_ifs with hkey
  · exact .inl ⟨rfl, .inl (by simpa using hkey)⟩
  · have hkeys : ∀ row ∈ log, trajectoryLogKey texts row ≠ trajectoryLogKey texts item := by
      simpa using hkey
    cases hfind : log.findIdx? fun row => shouldDedupeTrajectoryLogEntries texts row item with
    | none =>
        have hnone := List.findIdx?_eq_none_iff.mp hfind
        exact .inr (.inr ⟨fun row hrow => ⟨hkeys row hrow, hnone row hrow⟩, rfl⟩)
    | some index =>
        obtain ⟨hlt, hdedupe, -⟩ := List.findIdx?_eq_some_iff_getElem.mp hfind
        have hmem : log[index] ∈ log := List.getElem_mem hlt
        simp only [List.getElem?_eq_getElem hlt, Option.any_some]
        split_ifs with hprefer
        · refine .inr (.inl ⟨log.take index, log[index], log.drop (index + 1), ?_, hkeys _ hmem,
            hdedupe, hprefer, ?_⟩)
          · rw [List.cons_getElem_drop_succ, List.take_append_drop]
          · rw [List.set_eq_take_append_cons_drop, if_pos hlt]
        · exact .inl ⟨rfl, .inr ⟨log[index], hmem, hkeys _ hmem, hdedupe, by simpa using hprefer⟩⟩

variable (texts) in
/-- A log of rows that have arrived, without duplicates, and with all rows of the final log. -/
structure Covers (rows seen log : List TrajectoryLogEntry) : Prop where
  arrived : ∀ row ∈ log, row ∈ seen
  nodup : log.Nodup
  apart : ∀ first ∈ log, ∀ second ∈ log, ¬ Twins texts first second
  kept : ∀ row ∈ trajectoryLog texts rows, row ∈ seen → row ∈ log

theorem mem_leftRows {rows : List TrajectoryLogEntry} {row : TrajectoryLogEntry} :
    row ∈ leftRows texts rows ↔ row ∈ rows ∧
      ∀ live ∈ rows, identified live = true → ¬ Twins texts live row := by
  rw [leftRows, List.mem_filter]
  refine and_congr_right fun hrow => ?_
  cases hlive : identified row with
  | true => simp +contextual [Twins, hlive]
  | false => simp +contextual [Twins, hlive]

theorem mem_trajectoryLog {rows : List TrajectoryLogEntry} {row : TrajectoryLogEntry}
    (h : row ∈ trajectoryLog texts rows) : row ∈ leftRows texts rows :=
  (List.mem_insertionSort _).mp (List.mem_of_mem_drop h)

theorem notMem_trajectoryLog_of_twins {rows : List TrajectoryLogEntry}
    {live row : TrajectoryLogEntry} (hlive : live ∈ rows) (hidentified : identified live = true)
    (h : Twins texts live row) : row ∉ trajectoryLog texts rows :=
  fun hrow => (mem_leftRows.mp (mem_trajectoryLog hrow)).2 live hlive hidentified h

section Covers

variable {rows seen : List TrajectoryLogEntry} (hrows : Admissible texts rows)

theorem Covers.push {log : List TrajectoryLogEntry} (h : Covers texts rows seen log)
    {item : TrajectoryLogEntry} (hfresh : item ∉ log)
    (hapart : ∀ row ∈ log, ¬ Twins texts row item) :
    Covers texts rows (seen ++ [item]) (log ++ [item]) := by
  have hmem : ∀ other, other ∈ log ++ [item] ↔ other = item ∨ other ∈ log := by
    intro other
    rw [List.mem_append, List.mem_singleton, or_comm]
  refine ⟨fun other hother => ?_, ?_, ?_, fun kept hkept hin => ?_⟩
  · obtain rfl | hother := (hmem other).mp hother
    · exact List.mem_append_right _ List.mem_cons_self
    · exact List.mem_append_left _ (h.arrived other hother)
  · rw [← List.concat_eq_append]
    exact h.nodup.concat hfresh
  · exact apart_insert (fun other hother => (hmem other).mp hother) hapart h.apart
  · obtain hin | hin := List.mem_append.mp hin
    · exact (hmem kept).mpr (.inr (h.kept kept hkept hin))
    · exact (hmem kept).mpr (.inl (List.mem_singleton.mp hin))

include hrows

theorem Covers.takeOver {before after : List TrajectoryLogEntry} {row item : TrajectoryLogEntry}
    (h : Covers texts rows seen (before ++ row :: after)) (hseen : seen ⊆ rows)
    (hitem : item ∈ rows)
    (htwins : Twins texts row item) (hidentified : identified item = true) :
    Covers texts rows (seen ++ [item]) (before ++ item :: after) := by
  have hnodup := List.nodup_middle.mp h.nodup
  have hold : ∀ other, other ∈ before ++ row :: after ↔ other = row ∨ other ∈ before ++ after :=
    fun other => List.perm_middle.mem_iff.trans List.mem_cons
  have hmem : ∀ other, other ∈ before ++ item :: after ↔ other = item ∨ other ∈ before ++ after :=
    fun other => List.perm_middle.mem_iff.trans List.mem_cons
  have hothers : ∀ other ∈ before ++ after, other ∈ before ++ row :: after :=
    fun other hother => (hold other).mpr (.inr hother)
  have hrow : row ∈ before ++ row :: after := (hold row).mpr (.inl rfl)
  have hfresh : ∀ other ∈ before ++ after, ¬ Twins texts other item := by
    intro other hother hother'
    have hsame := hrows.hydrated_unique (hseen (h.arrived other (hothers other hother)))
      (hseen (h.arrived row hrow)) (hother'.hydrated_left hidentified)
      (htwins.hydrated_left hidentified) (hother'.1.trans htwins.1.symm)
    exact (List.nodup_cons.mp hnodup).1 (hsame ▸ hother)
  refine ⟨fun other hother => ?_, ?_, ?_, fun kept hkept hin => ?_⟩
  · obtain rfl | hother := (hmem other).mp hother
    · exact List.mem_append_right _ List.mem_cons_self
    · exact List.mem_append_left _ (h.arrived other (hothers other hother))
  · refine List.nodup_middle.mpr
      (List.nodup_cons.mpr ⟨fun hin => ?_, (List.nodup_cons.mp hnodup).2⟩)
    exact h.apart row hrow item (hothers item hin) htwins
  · exact apart_insert (fun other hother => (hmem other).mp hother) hfresh
      fun first hfirst second hsecond =>
        h.apart first (hothers first hfirst) second (hothers second hsecond)
  · obtain hin | hin := List.mem_append.mp hin
    · obtain rfl | hother := (hold kept).mp (h.kept kept hkept hin)
      · exact absurd hkept (notMem_trajectoryLog_of_twins hitem hidentified htwins.symm)
      · exact (hmem kept).mpr (.inr hother)
    · exact (hmem kept).mpr (.inl (List.mem_singleton.mp hin))

variable (hfacts : ShowsFacts texts rows) (hkeys : ∀ row ∈ trajectoryLog texts rows,
  ∀ other ∈ rows, other ≠ row → trajectoryLogKey texts other ≠ trajectoryLogKey texts row)
include hfacts hkeys

theorem Covers.step {log : List TrajectoryLogEntry} (h : Covers texts rows seen log)
    (hseen : seen ⊆ rows) {item : TrajectoryLogEntry} (hitem : item ∈ rows) (changed : Bool) :
    Covers texts rows (seen ++ [item]) (mergeTrajectoryItem texts (changed, log) item).2 := by
  have hlog : ∀ row ∈ log, row ∈ rows := fun row hrow => hseen (h.arrived row hrow)
  obtain ⟨heq, hsame⟩ | ⟨before, row, after, rfl, hkey, hdedupe, hprefer, heq⟩ | ⟨hnew, heq⟩ :=
    mergeTrajectoryItem_cases texts changed log item
  · rw [heq]
    refine ⟨fun row hrow => List.mem_append_left _ (h.arrived row hrow), h.nodup, h.apart,
      fun kept hkept hin => ?_⟩
    obtain hin | hin := List.mem_append.mp hin
    · exact h.kept kept hkept hin
    obtain rfl := List.mem_singleton.mp hin
    obtain ⟨row, hrow, hkey⟩ | ⟨row, hrow, hkey, hdedupe, hprefer⟩ := hsame
    · by_contra hnot
      exact hkeys kept hkept row (hlog row hrow) (fun heq => hnot (heq ▸ hrow)) hkey
    · have hne : row ≠ kept := fun heq => hkey (heq ▸ rfl)
      have htwins := (hrows.dedupe_iff hfacts (hlog row hrow) hitem hne).mp hdedupe
      rw [htwins.prefersIncoming_eq] at hprefer
      exact absurd hkept (notMem_trajectoryLog_of_twins (hlog row hrow)
        (htwins.identified_left hprefer) htwins)
  · rw [heq]
    have hne : row ≠ item := fun heq => hkey (heq ▸ rfl)
    have htwins := (hrows.dedupe_iff hfacts (hlog row (by simp)) hitem hne).mp hdedupe
    rw [htwins.prefersIncoming_eq] at hprefer
    exact h.takeOver hrows hseen hitem htwins hprefer
  · rw [heq]
    have hfresh : item ∉ log := fun hin => (hnew item hin).1 rfl
    refine h.push hfresh fun row hrow htwins => ?_
    have hne : row ≠ item := fun heq => hfresh (heq ▸ hrow)
    have hdedupe := (hrows.dedupe_iff hfacts (hlog row hrow) hitem hne).mpr htwins
    rw [(hnew row hrow).2] at hdedupe
    cases hdedupe

theorem Covers.foldl {items : List TrajectoryLogEntry} (hitems : items ⊆ rows) {seen log}
    (h : Covers texts rows seen log) (hseen : seen ⊆ rows) (changed : Bool) :
    Covers texts rows (seen ++ items) (items.foldl (mergeTrajectoryItem texts)
      (changed, log)).2 := by
  induction items generalizing seen log changed with
  | nil => simpa using h
  | cons item items ih =>
      obtain ⟨hitem, hitems⟩ := List.cons_subset.mp hitems
      have hstep := h.step hrows hfacts hkeys hseen hitem changed
      have hseen' : seen ++ [item] ⊆ rows :=
        List.append_subset.mpr ⟨hseen, List.cons_subset.mpr ⟨hitem, List.nil_subset _⟩⟩
      have hrest := ih hitems hstep hseen' (mergeTrajectoryItem texts (changed, log) item).1
      rwa [List.append_assoc, List.singleton_append] at hrest

end Covers

theorem mem_rowsBeside {rows : List TrajectoryLogEntry} {row other : TrajectoryLogEntry} :
    other ∈ rowsBeside texts rows row ↔ other ∈ rows ∧ trajectoryOrder row other ∧
      ∀ live ∈ rows, identified live = true → trajectoryOrder row live →
        ¬ Twins texts live other := by
  rw [rowsBeside, List.mem_filter, Bool.and_eq_true, decide_eq_true_eq]
  refine and_congr_right fun _ => and_congr_right fun _ => ?_
  cases hlive : identified other with
  | true => simp +contextual [Twins, hlive]
  | false =>
      simp only [Twins, hlive, Bool.false_or, Bool.not_eq_true', List.any_eq_false,
        Bool.and_eq_true,
        decide_eq_true_eq, not_and]
      exact forall₂_congr fun live _ =>
        ⟨fun h hidentified horder hkey => absurd horder (h ⟨hidentified, hkey⟩),
          fun h ⟨hidentified, hkey⟩ horder =>
            h hidentified horder hkey (by rw [hidentified]; decide)⟩

section Cut

variable {rows seen log : List TrajectoryLogEntry} (hrows : Admissible texts rows)
include hrows

theorem Covers.countP_le (h : Covers texts rows seen log) (hseen : seen ⊆ rows)
    (row : TrajectoryLogEntry) :
    log.countP (trajectoryOrder row ·) ≤ (rowsBeside texts rows row).length := by
  -- Each row of the log is beside the row itself, or an identified duplicate of it is.
  have hstand : ∀ other ∈ log.filter (trajectoryOrder row ·), ∃ stand ∈ rowsBeside texts rows row,
      stand = other ∨ stand ∉ log ∧ identified other = false ∧
        trajectoryLogVisibleKey texts stand = trajectoryLogVisibleKey texts other := by
    intro other hother
    obtain ⟨hother, horder⟩ := List.mem_filter.mp hother
    have hin := hseen (h.arrived other hother)
    by_cases hbeside : other ∈ rowsBeside texts rows row
    · exact ⟨other, hbeside, .inl rfl⟩
    · rw [mem_rowsBeside] at hbeside
      push Not at hbeside
      obtain ⟨live, hlive, hidentified, habove, htwins⟩ := hbeside hin (of_decide_eq_true horder)
      refine ⟨live, mem_rowsBeside.mpr ⟨hlive, habove, fun second _ hsecond _ htwins' => ?_⟩,
        .inr ⟨fun hlog => h.apart live hlog other hother htwins,
          htwins.symm.hydrated_left hidentified, htwins.1⟩⟩
      exact htwins'.2 (hsecond.trans hidentified.symm)
  have : Nonempty TrajectoryLogEntry := ⟨row⟩
  choose! stand hbeside hcase using hstand
  have hnodup : ((log.filter (trajectoryOrder row ·)).map stand).Nodup := by
    refine List.Nodup.map_on (fun first hfirst second hsecond heq => ?_) (h.nodup.filter _)
    have hfirstLog := List.mem_of_mem_filter hfirst
    have hsecondLog := List.mem_of_mem_filter hsecond
    obtain hone | ⟨hone, hbare, hkey⟩ := hcase first hfirst <;>
      obtain htwo | ⟨htwo, hbare', hkey'⟩ := hcase second hsecond
    · rw [← hone, ← htwo, heq]
    · rw [← heq, hone] at htwo
      exact absurd hfirstLog htwo
    · rw [heq, htwo] at hone
      exact absurd hsecondLog hone
    · exact hrows.hydrated_unique (hseen (h.arrived first hfirstLog))
        (hseen (h.arrived second hsecondLog)) hbare hbare' (by rw [← hkey, ← hkey', heq])
  have hsubset : (log.filter (trajectoryOrder row ·)).map stand ⊆ rowsBeside texts rows row := by
    intro other hother
    obtain ⟨first, hfirst, rfl⟩ := List.mem_map.mp hother
    exact hbeside first hfirst
  have hle := (List.subperm_of_subset hnodup hsubset).length_le
  rwa [List.length_map, ← List.countP_eq_length_filter] at hle

theorem Covers.cut (h : Covers texts rows seen log) (hseen : seen ⊆ rows)
    (hroom : ∀ row ∈ trajectoryLog texts rows,
      (rowsBeside texts rows row).length ≤ maxTrajectoryEntries) :
    Covers texts rows seen
      (keepLast maxTrajectoryEntries (log.insertionSort trajectoryOrder)) := by
  have hsub : ∀ row ∈ keepLast maxTrajectoryEntries (log.insertionSort trajectoryOrder),
    row ∈ log :=
    fun row hrow => (List.mem_insertionSort _).mp (List.mem_of_mem_drop hrow)
  refine ⟨fun row hrow => h.arrived row (hsub row hrow), ?_, fun first hfirst second hsecond =>
    h.apart first (hsub first hfirst) second (hsub second hsecond), fun row hrow hin => ?_⟩
  · exact ((List.perm_insertionSort _ _).nodup_iff.mpr h.nodup).sublist (List.drop_sublist _ _)
  · exact mem_keepLast_insertionSort (h.kept row hrow hin)
      ((h.countP_le hrows hseen row).trans (hroom row hrow))

end Cut

/-! ## Batches -/

theorem foldl_unchanged {items : List TrajectoryLogEntry} {merged : Bool × List TrajectoryLogEntry}
    (h : (items.foldl (mergeTrajectoryItem texts) merged).1 = false) :
    items.foldl (mergeTrajectoryItem texts) merged = merged := by
  induction items generalizing merged with
  | nil => rfl
  | cons item items ih =>
      obtain ⟨changed, log⟩ := merged
      rw [List.foldl_cons] at h ⊢
      have hrest := ih h
      rw [hrest] at h ⊢
      obtain ⟨heq, -⟩ | ⟨before, row, after, -, -, -, -, heq⟩ | ⟨-, heq⟩ :=
        mergeTrajectoryItem_cases texts changed log item
      · exact heq
      · rw [heq] at h
        cases h
      · rw [heq] at h
        cases h

theorem mergeTrajectoryLogs_getD (log batch : List TrajectoryLogEntry) :
    (mergeTrajectoryLogs texts log batch).getD log =
      if (batch.foldl (mergeTrajectoryItem texts) (false, log)).1 then
        keepLast maxTrajectoryEntries
          ((batch.foldl (mergeTrajectoryItem texts) (false, log)).2.insertionSort trajectoryOrder)
      else log := by
  have hsort : ∀ merged : List TrajectoryLogEntry, merged.insertionSort (fun first second =>
      logOrder (first.timestamp, first.serverSeq) (second.timestamp, second.serverSeq)) =
        merged.insertionSort trajectoryOrder := fun _ => rfl
  simp only [mergeTrajectoryLogs, hsort]
  split_ifs
  · exact Option.getD_some
  · exact Option.getD_none

theorem mergeTrajectoryLogs_of_mem {log batch : List TrajectoryLogEntry}
    (h : ∀ row ∈ batch, row ∈ log) : mergeTrajectoryLogs texts log batch = none := by
  have hfold : batch.foldl (mergeTrajectoryItem texts) (false, log) = (false, log) := by
    induction batch with
    | nil => rfl
    | cons item batch ih =>
        obtain ⟨hitem, hbatch⟩ := List.forall_mem_cons.mp h
        have hsame : log.any (fun row => trajectoryLogKey texts row = trajectoryLogKey texts item) =
            true :=
          List.any_eq_true.mpr ⟨item, hitem, by simp⟩
        rw [List.foldl_cons, mergeTrajectoryItem, if_pos hsame, ih hbatch]
  rw [mergeTrajectoryLogs, hfold]
  rfl

variable (texts) in
structure Settled (rows seen log : List TrajectoryLogEntry) : Prop extends
    Covers texts rows seen log where
  sorted : log.Pairwise trajectoryOrder
  length_le : log.length ≤ maxTrajectoryEntries

theorem Settled.eq_trajectoryLog {rows seen log : List TrajectoryLogEntry}
    (h : Settled texts rows seen log) (hshow : IdentitiesShow texts rows)
    (hseen : ∀ row, row ∈ seen ↔ row ∈ rows) : log = trajectoryLog texts rows := by
  have hsubset : trajectoryLog texts rows ⊆ log := fun row hrow =>
    h.kept row hrow ((hseen row).mpr (mem_leftRows.mp (mem_trajectoryLog hrow)).1)
  have hnodup : (trajectoryLog texts rows).Nodup :=
    hshow.untied.imp fun hlt heq => hlt (by rw [heq]; exact (Std.Total.total _ _).elim id id)
  have hle := (List.subperm_of_subset hnodup hsubset).length_le
  have hperm : List.Perm (trajectoryLog texts rows) log := by
    refine (List.subperm_of_subset hnodup hsubset).perm_of_length_le ?_
    by_cases hfull : maxTrajectoryEntries ≤ (trajectoryLog texts rows).length
    · exact h.length_le.trans hfull
    · -- Every row left is in the log, and none that was dropped.
      refine (List.subperm_of_subset h.nodup fun row hrow => ?_).length_le
      have hall : ∀ other ∈ leftRows texts rows, other ∈ trajectoryLog texts rows := by
        have hlength : ((leftRows texts rows).insertionSort trajectoryOrder).length ≤
            maxTrajectoryEntries := by
          rw [trajectoryLog, length_keepLast] at hfull
          omega
        intro other hother
        rw [trajectoryLog, keepLast_eq_self hlength, List.mem_insertionSort]
        exact hother
      have hin := (hseen row).mp (h.arrived row hrow)
      refine hall row (mem_leftRows.mpr ⟨hin, fun live hlive hidentified htwins => ?_⟩)
      have hliveLeft : live ∈ leftRows texts rows := by
        refine mem_leftRows.mpr ⟨hlive, fun other hother hidentified' htwins' => ?_⟩
        exact htwins'.2 (hidentified'.trans hidentified.symm)
      exact h.apart live (hsubset (hall live hliveLeft)) row hrow htwins
  refine (hperm.eq_of_pairwise (fun first second hfirst hsecond hle hge => ?_)
    ((List.pairwise_insertionSort _ _).sublist (List.drop_sublist _ _)) h.sorted).symm
  have hties : (trajectoryLog texts rows).Pairwise fun first second =>
      trajectoryOrder first second → trajectoryOrder second first → first = second :=
    hshow.untied.imp fun hlt _ hge => absurd hge hlt
  exact List.Pairwise.forall_of_forall_of_flip (fun _ _ _ _ => rfl) hties
    (hshow.untied.imp fun hlt hge _ => absurd hge hlt) hfirst (hperm.mem_iff.mpr hsecond) hle hge

section Run

variable {rows : List TrajectoryLogEntry} (hrows : Admissible texts rows)
  (hfacts : ShowsFacts texts rows) (hshow : IdentitiesShow texts rows)
include hrows hfacts hshow

theorem Settled.batch {seen log batch : List TrajectoryLogEntry} (h : Settled texts rows seen log)
    (hseen : seen ⊆ rows) (hbatch : batch ⊆ rows) :
    Settled texts rows (seen ++ batch) ((mergeTrajectoryLogs texts log batch).getD log) := by
  have hfold := h.toCovers.foldl hrows hfacts hshow.keys hbatch hseen false
  rw [mergeTrajectoryLogs_getD]
  split_ifs with hchanged
  · refine ⟨hfold.cut hrows (List.append_subset.mpr ⟨hseen, hbatch⟩) hshow.room,
      (List.pairwise_insertionSort _ _).sublist (List.drop_sublist _ _), ?_⟩
    rw [length_keepLast]
    exact min_le_left _ _
  · rw [foldl_unchanged (by simpa using hchanged)] at hfold
    exact ⟨hfold, h.sorted, h.length_le⟩

theorem Settled.batches {batches : List (List TrajectoryLogEntry)} {seen log}
    (h : Settled texts rows seen log) (hseen : seen ⊆ rows) (hbatches : batches.flatten ⊆ rows) :
    Settled texts rows (seen ++ batches.flatten)
      (batches.foldl (fun log batch => (mergeTrajectoryLogs texts log batch).getD log) log) := by
  induction batches generalizing seen log with
  | nil => simpa using h
  | cons batch batches ih =>
      rw [List.flatten_cons, List.append_subset] at hbatches
      have hrest := ih (h.batch hrows hfacts hshow hseen hbatches.1)
        (List.append_subset.mpr ⟨hseen, hbatches.1⟩) hbatches.2
      rwa [List.append_assoc] at hrest

theorem converges_of_identitiesShow : Converges texts rows := by
  refine ⟨fun batches hbatches => ?_, fun batches _ batch hbatch =>
    mergeTrajectoryLogs_of_mem hbatch⟩
  have hempty : Settled texts rows [] [] := {
    arrived := fun _ hrow => absurd hrow List.not_mem_nil
    nodup := List.nodup_nil
    apart := fun _ hrow => absurd hrow List.not_mem_nil
    kept := fun _ _ hrow => absurd hrow List.not_mem_nil
    sorted := List.Pairwise.nil
    length_le := Nat.zero_le _ }
  have hsettled := hempty.batches hrows hfacts hshow (List.nil_subset _)
    fun row hrow => (hbatches row).mp hrow
  rw [List.nil_append, ← mergeBatches] at hsettled
  exact hsettled.eq_trajectoryLog hshow hbatches

end Run

/-! ## Orders that lose a row -/

theorem mem_foldl {items : List TrajectoryLogEntry} {merged : Bool × List TrajectoryLogEntry}
    {row : TrajectoryLogEntry} (h : row ∈ (items.foldl (mergeTrajectoryItem texts) merged).2) :
    row ∈ merged.2 ∨ row ∈ items := by
  induction items generalizing merged with
  | nil => exact .inl h
  | cons item items ih =>
      obtain ⟨changed, log⟩ := merged
      rw [List.foldl_cons] at h
      obtain hlog | hitems := ih h
      · obtain ⟨heq, -⟩ | ⟨before, old, after, rfl, -, -, -, heq⟩ | ⟨-, heq⟩ :=
          mergeTrajectoryItem_cases texts changed log item
        · rw [heq] at hlog
          exact .inl hlog
        · rw [heq] at hlog
          simp only [List.mem_append, List.mem_cons] at hlog ⊢
          tauto
        · rw [heq] at hlog
          simp only [List.mem_append, List.mem_cons] at hlog ⊢
          tauto
      · exact .inr (List.mem_cons_of_mem _ hitems)

theorem mem_mergeTrajectoryLogs {log batch : List TrajectoryLogEntry} {row : TrajectoryLogEntry}
    (h : row ∈ (mergeTrajectoryLogs texts log batch).getD log) : row ∈ log ∨ row ∈ batch := by
  rw [mergeTrajectoryLogs_getD] at h
  split_ifs at h
  · exact mem_foldl ((List.mem_insertionSort _).mp (List.mem_of_mem_drop h))
  · exact .inl h

section Lost

variable {rows : List TrajectoryLogEntry} (hrows : Admissible texts rows)
  (hfacts : ShowsFacts texts rows)
include hrows hfacts

theorem mergeTrajectoryItem_push {log : List TrajectoryLogEntry} (hlog : log ⊆ rows)
    {item : TrajectoryLogEntry} (hitem : item ∈ rows) (hfresh : item ∉ log)
    (hapart : ∀ row ∈ log, ¬ Twins texts row item) (changed : Bool) :
    mergeTrajectoryItem texts (changed, log) item = (true, log ++ [item]) := by
  have hne : ∀ row ∈ log, row ≠ item := fun row hrow heq => hfresh (heq ▸ hrow)
  have hdedupe : ∀ row ∈ log, shouldDedupeTrajectoryLogEntries texts row item ≠ true :=
    fun row hrow h => hapart row hrow
      ((hrows.dedupe_iff hfacts (hlog hrow) hitem (hne row hrow)).mp h)
  obtain ⟨-, ⟨row, hrow, hkey⟩ | ⟨row, hrow, -, h, -⟩⟩ | ⟨before, row, after, heq, -, h, -, -⟩ |
      ⟨-, heq⟩ := mergeTrajectoryItem_cases texts changed log item
  · exact absurd (hrows.twins_of_key hfacts (hlog hrow) hitem (hne row hrow) hkey) (hapart row hrow)
  · exact absurd h (hdedupe row hrow)
  · exact absurd h (hdedupe row (by simp [heq]))
  · exact heq

theorem foldl_push {items log : List TrajectoryLogEntry} (hsub : log ++ items ⊆ rows)
    (hnodup : (log ++ items).Nodup)
    (hapart : ∀ first ∈ log ++ items, ∀ second ∈ log ++ items, ¬ Twins texts first second) :
    items.foldl (mergeTrajectoryItem texts) (true, log) = (true, log ++ items) := by
  induction items generalizing log with
  | nil => rw [List.append_nil, List.foldl_nil]
  | cons item items ih =>
      have hitem : item ∈ log ++ item :: items := by simp
      have hlog : ∀ row ∈ log, row ∈ log ++ item :: items := fun row => List.mem_append_left _
      have hfresh : item ∉ log := fun hin =>
        (List.nodup_append.mp hnodup).2.2 item hin item List.mem_cons_self rfl
      rw [List.foldl_cons, mergeTrajectoryItem_push hrows hfacts (fun row hrow =>
        hsub (hlog row hrow))
        (hsub hitem) hfresh fun row hrow => hapart row (hlog row hrow) item hitem]
      have hassoc : log ++ item :: items = log ++ [item] ++ items := by simp
      rw [hassoc] at hsub hnodup hapart ⊢
      exact ih hsub hnodup hapart

theorem foldl_push_nil {items : List TrajectoryLogEntry} (hsub : items ⊆ rows)
    (hnodup : items.Nodup)
    (hapart : ∀ first ∈ items, ∀ second ∈ items, ¬ Twins texts first second) (hne : items ≠ []) :
    items.foldl (mergeTrajectoryItem texts) (false, []) = (true, items) := by
  obtain ⟨item, items, rfl⟩ := List.exists_cons_of_ne_nil hne
  have hfirst : mergeTrajectoryItem texts (false, []) item = (true, [item]) := rfl
  rw [List.foldl_cons, hfirst]
  exact @foldl_push _ _ hrows hfacts items [item] hsub hnodup hapart

theorem foldl_dropped {items log : List TrajectoryLogEntry} (hlog : log ⊆ rows)
    (hitems : items ⊆ rows)
    (hdropped : ∀ item ∈ items, identified item = false ∧ ∃ live ∈ log, Twins texts live item)
    (changed : Bool) : items.foldl (mergeTrajectoryItem texts) (changed, log) = (changed, log) := by
  induction items with
  | nil => rfl
  | cons item items ih =>
      obtain ⟨⟨hbare, live, hlive, htwins⟩, hdropped⟩ := List.forall_mem_cons.mp hdropped
      obtain ⟨hitem, hitems⟩ := List.cons_subset.mp hitems
      have hsame : mergeTrajectoryItem texts (changed, log) item = (changed, log) := by
        obtain ⟨heq, -⟩ | ⟨before, row, after, heq, hkey, hdedupe, hprefer, -⟩ | ⟨hnew, -⟩ :=
          mergeTrajectoryItem_cases texts changed log item
        · exact heq
        · have hrow : row ∈ rows := hlog (by simp [heq])
          have hne : row ≠ item := fun heq => hkey (heq ▸ rfl)
          rw [((hrows.dedupe_iff hfacts hrow hitem hne).mp hdedupe).prefersIncoming_eq,
            hbare] at hprefer
          cases hprefer
        · have hne : live ≠ item := fun heq => Twins.irrefl _ (heq ▸ htwins)
          have hdedupe := (hrows.dedupe_iff hfacts (hlog hlive) hitem hne).mpr htwins
          rw [(hnew live hlive).2] at hdedupe
          cases hdedupe
      rw [List.foldl_cons, hsame, ih hitems hdropped]

omit hfacts in
theorem exists_split {row : TrajectoryLogEntry} (hrow : row ∈ rows) :
    ∃ before after, rows = before ++ row :: after ∧ row ∉ before ++ after := by
  obtain ⟨before, after, hsplit⟩ := List.append_of_mem hrow
  refine ⟨before, after, hsplit, ?_⟩
  have hnodup := hrows.rows_nodup
  rw [hsplit, List.nodup_middle] at hnodup
  exact (List.nodup_cons.mp hnodup).1

omit hfacts in
theorem Converges.keys (h : Converges texts rows) :
    ∀ row ∈ trajectoryLog texts rows, ∀ other ∈ rows, other ≠ row →
      trajectoryLogKey texts other ≠ trajectoryLogKey texts row := by
  intro row hrow other hother hne hkey
  obtain ⟨before, after, hsplit, hfresh⟩ :=
    exists_split hrows (mem_leftRows.mp (mem_trajectoryLog hrow)).1
  have hlog := h.log [other :: row :: (before ++ after)] fun candidate => by
    rw [List.flatten_cons, List.flatten_nil, List.append_nil, List.mem_cons,
      ← List.perm_middle.mem_iff, ← hsplit]
    exact ⟨fun hin => hin.elim (fun heq => heq ▸ hother) id, .inr⟩
  rw [← hlog, mergeBatches, List.foldl_cons, List.foldl_nil, mergeTrajectoryLogs_getD] at hrow
  have hskip : mergeTrajectoryItem texts (true, [other]) row = (true, [other]) := by
    rw [mergeTrajectoryItem, if_pos (by simp [hkey])]
  have hfirst : mergeTrajectoryItem texts (false, []) other = (true, [other]) := rfl
  rw [List.foldl_cons, List.foldl_cons, hfirst, hskip] at hrow
  have hin : row ∈ ((before ++ after).foldl (mergeTrajectoryItem texts) (true, [other])).2 := by
    split_ifs at hrow
    · exact (List.mem_insertionSort _).mp (List.mem_of_mem_drop hrow)
    · cases hrow
  obtain hin | hin := mem_foldl hin
  · exact hne (List.mem_singleton.mp hin).symm
  · exact hfresh hin

/-- A row is lost when more rows come with it than the log takes. -/
theorem Converges.room (h : Converges texts rows) :
    ∀ row ∈ trajectoryLog texts rows,
      (rowsBeside texts rows row).length ≤ maxTrajectoryEntries := by
  intro row hrow
  by_contra hover
  obtain ⟨hin, hleft⟩ := mem_leftRows.mp (mem_trajectoryLog hrow)
  have hsub : ∀ other ∈ rowsBeside texts rows row, other ∈ rows :=
    fun other hother => (mem_rowsBeside.mp hother).1
  have hself : row ∈ rowsBeside texts rows row :=
    mem_rowsBeside.mpr ⟨hin, (Std.Total.total row row).elim id id,
      fun live hlive hidentified _ => hleft live hlive hidentified⟩
  obtain ⟨first, last, hbeside⟩ := List.append_of_mem hself
  have hnodup : (row :: (first ++ last)).Nodup := by
    have hbesideNodup : (rowsBeside texts rows row).Nodup := hrows.rows_nodup.filter _
    rw [hbeside, List.nodup_middle] at hbesideNodup
    exact hbesideNodup
  have hmem : ∀ other, other ∈ row :: (first ++ last) ↔ other ∈ rowsBeside texts rows row := by
    intro other
    rw [hbeside]
    exact List.perm_middle.mem_iff.symm
  have hapart : ∀ one ∈ row :: (first ++ last), ∀ two ∈ row :: (first ++ last),
      ¬ Twins texts one two := by
    intro one hone two htwo htwins
    obtain ⟨honeIn, honeOrder, honeApart⟩ := mem_rowsBeside.mp ((hmem one).mp hone)
    obtain ⟨htwoIn, htwoOrder, htwoApart⟩ := mem_rowsBeside.mp ((hmem two).mp htwo)
    cases hlive : identified one with
    | true => exact htwoApart one honeIn hlive honeOrder htwins
    | false => exact honeApart two htwoIn (htwins.symm.identified_left hlive) htwoOrder htwins.symm
  have hfold : (row :: (first ++ last)).foldl (mergeTrajectoryItem texts) (false, []) =
      (true, row :: (first ++ last)) :=
    foldl_push_nil hrows hfacts (fun other hother => hsub other ((hmem other).mp hother)) hnodup
      hapart (List.cons_ne_nil _ _)
  obtain ⟨before, after, hsplit, hfresh⟩ := exists_split hrows hin
  have hlog := h.log [row :: (first ++ last), before ++ after] fun candidate => by
    have hall : candidate ∈ rows ↔ candidate = row ∨ candidate ∈ before ++ after := by
      rw [hsplit]
      exact List.perm_middle.mem_iff.trans List.mem_cons
    rw [List.flatten_cons, List.flatten_cons, List.flatten_nil, List.append_nil, List.mem_append,
      hmem, hall]
    constructor
    · rintro (hcandidate | hcandidate)
      · exact hall.mp (hsub candidate hcandidate)
      · exact .inr hcandidate
    · rintro (rfl | hcandidate)
      · exact .inl hself
      · exact .inr hcandidate
  rw [← hlog, mergeBatches, List.foldl_cons, List.foldl_cons, List.foldl_nil] at hrow
  obtain hrow | hrow := mem_mergeTrajectoryLogs hrow
  · rw [mergeTrajectoryLogs_getD, hfold, if_pos rfl] at hrow
    refine notMem_keepLast_insertionSort_cons (fun other hother => ?_) ?_
      (List.nodup_cons.mp hnodup).1 hrow
    · exact (mem_rowsBeside.mp ((hmem other).mp (List.mem_cons_of_mem _ hother))).2.1
    · rw [hbeside] at hover
      simp only [List.length_append, List.length_cons] at hover ⊢
      omega
  · exact hfresh hrow

omit hrows hfacts in
theorem getLast?_ne_head? {list : List TrajectoryLogEntry} (hnodup : list.Nodup)
    {first second : TrajectoryLogEntry} (hpair : [first, second].Sublist list) :
    list.getLast? ≠ list.head? := by
  intro h
  obtain _ | ⟨head, _ | ⟨next, tail⟩⟩ := list
  · cases hpair
  · exact absurd hpair.length_le (by simp)
  · rw [List.getLast?_cons_cons, List.head?_cons] at h
    exact (List.nodup_cons.mp hnodup).1 (List.mem_of_getLast? h)

theorem Converges.untied (h : Converges texts rows) :
    (trajectoryLog texts rows).Pairwise fun first second => ¬ trajectoryOrder second first := by
  rw [List.pairwise_iff_forall_sublist]
  intro first second hpair hback
  have hsorted : (trajectoryLog texts rows).Pairwise trajectoryOrder :=
    (List.pairwise_insertionSort _ _).sublist (List.drop_sublist _ _)
  have horder : trajectoryOrder first second := List.pairwise_iff_forall_sublist.mp hsorted hpair
  have hleftSub : leftRows texts rows ⊆ rows := fun row hrow => (mem_leftRows.mp hrow).1
  have hleftNodup : (leftRows texts rows).Nodup := hrows.rows_nodup.filter _
  have hleftApart : ∀ one ∈ leftRows texts rows, ∀ two ∈ leftRows texts rows,
      ¬ Twins texts one two := by
    intro one hone two htwo htwins
    obtain ⟨honeIn, honeLeft⟩ := mem_leftRows.mp hone
    obtain ⟨htwoIn, htwoLeft⟩ := mem_leftRows.mp htwo
    cases hlive : identified one with
    | true => exact htwoLeft one honeIn hlive htwins
    | false => exact honeLeft two htwoIn (htwins.symm.identified_left hlive) htwins.symm
  -- The rows left come in the opposite order, and then those that are dropped.
  classical
  have hbatch := h.log [(leftRows texts rows).reverse ++
      rows.filter fun row => row ∉ leftRows texts rows] fun row => by
    rw [List.flatten_cons, List.flatten_nil, List.append_nil, List.mem_append, List.mem_reverse,
      List.mem_filter, decide_eq_true_eq]
    exact ⟨fun hin => hin.elim (fun hleft => hleftSub hleft) And.left,
      fun hrow => (em (row ∈ leftRows texts rows)).imp id fun hnot => ⟨hrow, hnot⟩⟩
  have hleftNe : leftRows texts rows ≠ [] := by
    have hfirst := mem_trajectoryLog (hpair.subset (List.mem_cons_self ..))
    exact List.ne_nil_of_mem hfirst
  have hpush : (leftRows texts rows).reverse.foldl (mergeTrajectoryItem texts) (false, []) =
      (true, (leftRows texts rows).reverse) :=
    foldl_push_nil hrows hfacts (fun row hrow => hleftSub (List.mem_reverse.mp hrow))
      (List.nodup_reverse.mpr hleftNodup) (fun one hone two htwo =>
        hleftApart one (List.mem_reverse.mp hone) two (List.mem_reverse.mp htwo))
      (by simpa using hleftNe)
  have hskip : (rows.filter fun row => row ∉ leftRows texts rows).foldl (mergeTrajectoryItem texts)
      (true, (leftRows texts rows).reverse) = (true, (leftRows texts rows).reverse) := by
    refine foldl_dropped hrows hfacts (fun row hrow => hleftSub (List.mem_reverse.mp hrow))
      (List.filter_subset_self _) (fun row hrow => ?_) true
    rw [List.mem_filter, decide_eq_true_eq, mem_leftRows, not_and] at hrow
    have hlive := hrow.2 hrow.1
    push Not at hlive
    obtain ⟨live, hlive, hidentified, htwins⟩ := hlive
    refine ⟨htwins.symm.hydrated_left hidentified, live, List.mem_reverse.mpr ?_, htwins⟩
    exact mem_leftRows.mpr ⟨hlive, fun other _ hother htwins' =>
      htwins'.2 (hother.trans hidentified.symm)⟩
  rw [mergeBatches, List.foldl_cons, List.foldl_nil, mergeTrajectoryLogs_getD, List.foldl_append,
    hpush, hskip, if_pos rfl] at hbatch
  -- The last of the rows that tie would be the first of them.
  have htie : ∀ row ∈ [first, second], (trajectoryOrder first row && trajectoryOrder row first) =
    true := by
    have hself : trajectoryOrder first first := (Std.Total.total first first).elim id id
    simp [hself, horder, hback]
  have hclass := hpair.filter fun row => trajectoryOrder first row && trajectoryOrder row first
  rw [List.filter_eq_self.mpr htie] at hclass
  have hne := List.ne_nil_of_mem (hclass.subset (List.mem_cons_self ..))
  have hwhole := hclass.trans ((List.drop_sublist _ _).filter _)
  rw [filter_insertionSort] at hwhole
  have hlast : ((trajectoryLog texts rows).filter fun row =>
      trajectoryOrder first row && trajectoryOrder row first).getLast? =
        ((leftRows texts rows).filter fun row =>
          trajectoryOrder first row && trajectoryOrder row first).getLast? := by
    rw [trajectoryLog] at hne ⊢
    rw [getLast?_filter_keepLast hne, filter_insertionSort]
  have hhead : ((trajectoryLog texts rows).filter fun row =>
      trajectoryOrder first row && trajectoryOrder row first).getLast? =
        ((leftRows texts rows).filter fun row =>
          trajectoryOrder first row && trajectoryOrder row first).head? := by
    rw [← hbatch] at hne ⊢
    rw [getLast?_filter_keepLast hne, filter_insertionSort, List.filter_reverse,
      List.getLast?_reverse]
  exact getLast?_ne_head? (hleftNodup.filter _) hwhole (hlast.symm.trans hhead)

end Lost

/-! ## Every order -/

/-- Rows in any order, batches and repetition give the last of the rows left exactly when the
identities show: for those of the log no key repeats, none tie, and none is crowded out. -/
theorem mergeTrajectoryLogs_converges_iff {rows : List TrajectoryLogEntry}
    (hrows : Admissible texts rows) (hfacts : ShowsFacts texts rows) :
    Converges texts rows ↔ IdentitiesShow texts rows := by
  constructor
  · intro h
    exact ⟨h.keys hrows, h.untied hrows hfacts, h.room hrows hfacts⟩
  · exact converges_of_identitiesShow hrows hfacts

def thinkingEntry : TrajectoryEntry := ⟨.thinking (js "Reading"), none, []⟩

def hydratedRow : TrajectoryLogEntry := ⟨⟨none, none, none, none⟩, 1700, thinkingEntry⟩

def liveRow : TrajectoryLogEntry := ⟨⟨some 12, some (js "l-1"), some 3, none⟩, 1700, thinkingEntry⟩

theorem admissible_pair {live : TrajectoryLogEntry} (hlive : identified live = true)
    (hentry : live.entry = thinkingEntry) (htime : live.timestamp = 1700) :
    Admissible plainTexts [hydratedRow, live] ∧ ShowsFacts plainTexts [hydratedRow, live] := by
  have hkey : trajectoryLogVisibleKey plainTexts live =
      trajectoryLogVisibleKey plainTexts hydratedRow := by
    rw [trajectoryLogVisibleKey, trajectoryLogVisibleKey, hentry, htime]
    rfl
  have hsource : hasTrajectoryLogSourceIdentity live.toSourceIdentity = true := hlive
  have hbare : hasTrajectoryLogSourceIdentity hydratedRow.toSourceIdentity = false := rfl
  have hmem : ∀ row, row ∈ [hydratedRow, live] ↔ row = hydratedRow ∨ row = live := by simp
  have hentries : ∀ row ∈ [hydratedRow, live], row.entry = thinkingEntry := by
    intro row hrow
    obtain rfl | rfl := (hmem row).mp hrow
    · rfl
    · exact hentry
  refine ⟨⟨?_, ?_, ?_⟩, fun first hfirst second hsecond _ => by
    rw [hentries first hfirst, hentries second hsecond]⟩
  · rw [List.map_cons, List.map_cons, List.map_nil, List.nodup_cons]
    refine ⟨fun hin => ?_, List.nodup_singleton _⟩
    have hsame := congrArg (fun fields => hasTrajectoryLogSourceIdentity fields.2.1)
      (List.mem_singleton.mp hin)
    exact absurd (hsame.trans hlive) (by decide)
  · intro first hfirst second hsecond hne _ _
    obtain rfl | rfl := (hmem first).mp hfirst <;> obtain rfl | rfl := (hmem second).mp hsecond
    · exact absurd rfl hne
    · simp [shouldDedupeTrajectoryLogEntries, hkey, hbare]
    · simp [shouldDedupeTrajectoryLogEntries, hkey, hbare]
    · exact absurd rfl hne
  · intro first hfirst second hsecond hne hfact _ _ _
    rw [hasProducerFact, hentries first hfirst] at hfact
    cases hfact

theorem mergeTrajectoryLogs_converges_pair : Converges plainTexts [hydratedRow, liveRow] :=
  (mergeTrajectoryLogs_converges_iff (admissible_pair rfl rfl rfl).1
    (admissible_pair rfl rfl rfl).2).mpr (by
    have hkeys : trajectoryLogKey plainTexts hydratedRow ≠ trajectoryLogKey plainTexts liveRow := by
      decide +kernel
    refine ⟨fun row hrow other hother hne => ?_, ?_, fun row _ => ?_⟩
    · have hin := (mem_leftRows.mp (mem_trajectoryLog hrow)).1
      simp only [List.mem_cons, List.not_mem_nil, or_false] at hin hother
      obtain rfl | rfl := hin <;> obtain rfl | rfl := hother
      · exact absurd rfl hne
      · exact hkeys.symm
      · exact hkeys
      · exact absurd rfl hne
    · have hlength : (trajectoryLog plainTexts [hydratedRow, liveRow]).length = 1 := by
        decide +kernel
      obtain ⟨row, hlog⟩ := List.length_eq_one_iff.mp hlength
      rw [hlog]
      exact List.pairwise_singleton _ _
    · exact (List.length_filter_le _ _).trans (by decide))

def blankRow : TrajectoryLogEntry := ⟨⟨none, some [], none, none⟩, 1700, thinkingEntry⟩

/-- The hydrated row stays when it comes first, though the live row is to take its place. -/
theorem not_mergeTrajectoryLogs_converges_blank :
    Admissible plainTexts [hydratedRow, blankRow] ∧
      ShowsFacts plainTexts [hydratedRow, blankRow] ∧
      (mergeBatches plainTexts [[hydratedRow, blankRow]]).map identified = [false] ∧
      (mergeBatches plainTexts [[blankRow, hydratedRow]]).map identified = [true] ∧
      (trajectoryLog plainTexts [hydratedRow, blankRow]).map identified = [true] ∧
      ¬ Converges plainTexts [hydratedRow, blankRow] := by
  have hadmissible := @admissible_pair blankRow rfl rfl rfl
  have hmerged : (mergeBatches plainTexts [[hydratedRow, blankRow]]).map identified = [false] := by
    decide +kernel
  have hlog : (trajectoryLog plainTexts [hydratedRow, blankRow]).map identified = [true] := by
    decide +kernel
  refine ⟨hadmissible.1, hadmissible.2, hmerged, by decide +kernel, hlog, fun h => ?_⟩
  rw [h.log [[hydratedRow, blankRow]] fun row => by simp, hlog] at hmerged
  cases hmerged

end Raft.AgentActivityEvents

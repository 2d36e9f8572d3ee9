import Mathlib.Algebra.Order.Group.Multiset
import Mathlib.Data.Multiset.Count
import Raft.Outbox.Edits

/-!
# The frames that entries stand for

A normal entry stands for its own frame and a marker for the frames it counts.
Making room loses no frame but completed turns, and every marker counts frames
of its own epoch only.
-/

namespace Raft.Outbox

open Raft.Foundation AgentOutboxState

universe u

variable {φ : Type u} {crossId gapId : JsString} {state : AgentOutboxState φ}

def frameCount (kind : EntryKind) (frames : Multiset (NormalEntry φ)) : Nat :=
  frames.countP fun frame => frame.kind = kind

@[simp] theorem frameCount_zero (kind : EntryKind) :
    frameCount kind (0 : Multiset (NormalEntry φ)) = 0 := Multiset.countP_zero _

@[simp] theorem frameCount_add (kind : EntryKind) (first second : Multiset (NormalEntry φ)) :
    frameCount kind (first + second) = frameCount kind first + frameCount kind second :=
  Multiset.countP_add _ _ _

@[simp] theorem frameCount_singleton (kind : EntryKind) (frame : NormalEntry φ) :
    frameCount kind {frame} = if frame.kind = kind then 1 else 0 := by
  rw [← Multiset.cons_zero, frameCount, Multiset.countP_cons, Multiset.countP_zero]
  split <;> rfl

def StandsFor : OutboxEntry φ → Multiset (NormalEntry φ) → Prop
  | .normal entry, frames => frames = {entry}
  | .gap gap, frames =>
      (∀ kind, gap.counts.get kind = frameCount kind frames) ∧
        ∀ frame ∈ frames, frame.daemonInstanceId = gap.daemonInstanceId ∧
          frame.takeoverEpoch = gap.takeoverEpoch ∧
          gap.fromSeq ≤ frame.clientSeq ∧ frame.clientSeq ≤ gap.toSeq
  | .cross cross, frames =>
      (∀ kind, cross.counts.get kind = frameCount kind frames) ∧
        ∀ frame ∈ frames, frame.daemonInstanceId ∈ cross.instances ∧
          frame.takeoverEpoch = cross.takeoverEpoch

inductive Accounts : List (OutboxEntry φ) → Multiset (NormalEntry φ) → Prop
  | nil : Accounts [] 0
  | cons {entry : OutboxEntry φ} {rest : List (OutboxEntry φ)}
      {frames others : Multiset (NormalEntry φ)} (hentry : StandsFor entry frames)
      (hrest : Accounts rest others) : Accounts (entry :: rest) (frames + others)

theorem accounts_cons_iff {entry : OutboxEntry φ} {rest : List (OutboxEntry φ)}
    {frames : Multiset (NormalEntry φ)} :
    Accounts (entry :: rest) frames ↔
      ∃ own others, StandsFor entry own ∧ Accounts rest others ∧ frames = own + others := by
  constructor
  · rintro ⟨⟩
    exact ⟨_, _, ‹_›, ‹_›, rfl⟩
  · rintro ⟨own, others, hentry, hrest, rfl⟩
    exact .cons hentry hrest

theorem accounts_append_iff {first second : List (OutboxEntry φ)}
    {frames : Multiset (NormalEntry φ)} :
    Accounts (first ++ second) frames ↔
      ∃ own others, Accounts first own ∧ Accounts second others ∧ frames = own + others := by
  induction first generalizing frames with
  | nil =>
      constructor
      · exact fun h => ⟨0, frames, .nil, h, (zero_add _).symm⟩
      · rintro ⟨own, others, ⟨⟩, h, rfl⟩
        rwa [zero_add]
  | cons entry first ih =>
      rw [List.cons_append, accounts_cons_iff]
      constructor
      · rintro ⟨own, others, hentry, hrest, rfl⟩
        obtain ⟨left, right, hleft, hright, rfl⟩ := ih.mp hrest
        exact ⟨own + left, right, .cons hentry hleft, hright, (add_assoc _ _ _).symm⟩
      · rintro ⟨own, others, hfirst, hsecond, rfl⟩
        obtain ⟨frames, left, hentry, hleft, rfl⟩ := accounts_cons_iff.mp hfirst
        exact ⟨frames, left + others, hentry, ih.mpr ⟨left, others, hleft, hsecond, rfl⟩,
          add_assoc _ _ _⟩

theorem accounts_split_iff {before after : List (OutboxEntry φ)} {entry : OutboxEntry φ}
    {frames : Multiset (NormalEntry φ)} :
    Accounts (before ++ entry :: after) frames ↔
      ∃ own others, StandsFor entry own ∧ Accounts (before ++ after) others ∧
        frames = own + others := by
  rw [accounts_append_iff]
  constructor
  · rintro ⟨left, rest, hbefore, hrest, rfl⟩
    obtain ⟨own, right, hentry, hafter, rfl⟩ := accounts_cons_iff.mp hrest
    exact ⟨own, left + right, hentry, accounts_append_iff.mpr ⟨left, right, hbefore, hafter, rfl⟩,
      add_left_comm _ _ _⟩
  · rintro ⟨own, others, hentry, hrest, rfl⟩
    obtain ⟨left, right, hbefore, hafter, rfl⟩ := accounts_append_iff.mp hrest
    exact ⟨left, own + right, hbefore, .cons hentry hafter, add_left_comm _ _ _⟩

/-! ## Counting -/

def OutboxEntry.kindCount (kind : EntryKind) : OutboxEntry φ → Nat
  | .normal entry => if entry.kind = kind then 1 else 0
  | .gap marker => marker.counts.get kind
  | .cross marker => marker.counts.get kind

theorem StandsFor.kindCount {entry : OutboxEntry φ} {frames : Multiset (NormalEntry φ)}
    (h : StandsFor entry frames) (kind : EntryKind) :
    entry.kindCount kind = frameCount kind frames := by
  cases entry with
  | normal entry =>
      obtain rfl : frames = {entry} := h
      exact (frameCount_singleton kind entry).symm
  | gap gap => exact h.1 kind
  | cross cross => exact h.1 kind

def heldCount (kind : EntryKind) (entries : List (OutboxEntry φ)) : Nat :=
  (entries.map (OutboxEntry.kindCount kind)).sum

theorem Accounts.heldCount {entries : List (OutboxEntry φ)} {frames : Multiset (NormalEntry φ)}
    (h : Accounts entries frames) (kind : EntryKind) :
    heldCount kind entries = frameCount kind frames := by
  induction h with
  | nil => rfl
  | cons hentry hrest ih =>
      rw [Outbox.heldCount, List.map_cons, List.sum_cons, hentry.kindCount, ← Outbox.heldCount, ih,
        frameCount_add]

/-! ## Markers -/

theorem standsFor_count {gap : GapEntry} {entry : NormalEntry φ}
    {frames : Multiset (NormalEntry φ)} (h : StandsFor (.gap gap) frames)
    (hinstance : gap.daemonInstanceId = entry.daemonInstanceId)
    (hepoch : entry.takeoverEpoch = gap.takeoverEpoch) :
    StandsFor (.gap (gap.count entry)) (frames + {entry}) := by
  refine ⟨fun kind => ?_, fun frame hframe => ?_⟩
  · rw [GapEntry.count, GapCounts.get_bump, h.1 kind, frameCount_add, frameCount_singleton]
  · rcases Multiset.mem_add.mp hframe with hold | hnew
    · obtain ⟨hown, hsame, hfrom, hto⟩ := h.2 frame hold
      exact ⟨hown, hsame, (min_le_left _ _).trans hfrom, hto.trans (le_max_left _ _)⟩
    · obtain rfl := Multiset.mem_singleton.mp hnew
      exact ⟨hinstance.symm, hepoch, min_le_right _ _, le_max_right _ _⟩

theorem standsFor_absorb {cross : CrossEntry} {daemonInstanceId : JsString} {counts : GapCounts}
    {frames absorbed : Multiset (NormalEntry φ)} (h : StandsFor (.cross cross) frames)
    (hcounts : ∀ kind, counts.get kind = frameCount kind absorbed)
    (habsorbed : ∀ frame ∈ absorbed, frame.daemonInstanceId = daemonInstanceId ∧
      frame.takeoverEpoch = cross.takeoverEpoch) :
    StandsFor (.cross (cross.absorb daemonInstanceId counts)) (frames + absorbed) := by
  refine ⟨fun kind => ?_, fun frame hframe => ?_⟩
  · rw [CrossEntry.absorb, GapCounts.get_addCounts, h.1 kind, hcounts kind, frameCount_add]
  · have hinstances : ∀ id, id ∈ cross.instances ∨ id = daemonInstanceId →
        id ∈ (cross.absorb daemonInstanceId counts).instances := by
      intro id hid
      rw [CrossEntry.absorb]
      split
      · next hmem =>
          rcases hid with hid | rfl
          · exact hid
          · exact hmem
      · simpa using hid
    rcases Multiset.mem_add.mp hframe with hold | hnew
    · exact ⟨hinstances _ (.inl (h.2 frame hold).1), (h.2 frame hold).2⟩
    · exact ⟨hinstances _ (.inr (habsorbed frame hnew).1), (habsorbed frame hnew).2⟩

theorem standsFor_newCross (crossId : JsString) :
    StandsFor (.cross (state.newCross crossId) : OutboxEntry φ) 0 :=
  ⟨fun kind => by simp [newCross], fun _ h => absurd h (Multiset.notMem_zero _)⟩

theorem StandsFor.sealed {entry : OutboxEntry φ} {frames : Multiset (NormalEntry φ)}
    (h : StandsFor entry frames) : StandsFor entry.sealed frames := by
  cases entry <;> exact h

theorem get_bump_zeroCounts (entry : NormalEntry φ) (kind : EntryKind) :
    (GapCounts.zeroCounts.bump entry.kind).get kind = frameCount kind {entry} := by
  rw [GapCounts.get_bump, GapCounts.get_zeroCounts, frameCount_singleton, Nat.zero_add]

/-! ## Making room -/

theorem accounts_withWaiting {entries : List (OutboxEntry φ)}
    {frames waitingFrames : Multiset (NormalEntry φ)} (h : Accounts state.flight frames)
    (hwaiting : Accounts entries waitingFrames) :
    Accounts (state.withWaiting entries).entries (frames + waitingFrames) :=
  accounts_append_iff.mpr ⟨_, _, h, hwaiting, rfl⟩

theorem accounts_entries {frames : Multiset (NormalEntry φ)}
    (h : Accounts state.entries frames) :
    ∃ flying waits, Accounts state.flight flying ∧ Accounts state.waiting waits ∧
      frames = flying + waits := by
  rw [← flight_append_waiting] at h
  exact accounts_append_iff.mp h

theorem Accounts.consume {entry : NormalEntry φ} {next : AgentOutboxState φ}
    {frames : Multiset (NormalEntry φ)} (h : Accounts state.entries frames)
    (hconsume : Consume crossId gapId state entry next) :
    ∃ kept dropped, Accounts next.entries kept ∧ frames = kept + dropped ∧
      ∀ frame ∈ dropped, frame.kind = .turnCompleted := by
  obtain ⟨flying, waits, hflying, hwaits, rfl⟩ := accounts_entries h
  have hkept : ∀ {entries kept}, Accounts entries kept → waits = kept →
      ∃ all dropped, Accounts (state.withWaiting entries).entries all ∧
        flying + waits = all + dropped ∧ ∀ frame ∈ dropped, frame.kind = .turnCompleted := by
    rintro entries kept hentries rfl
    exact ⟨_, 0, accounts_withWaiting hflying hentries, (add_zero _).symm,
      fun _ h => absurd h (Multiset.notMem_zero _)⟩
  cases hconsume with
  | countInGap hwaiting hothers hepoch hgap hopen =>
      rw [hwaiting] at hwaits
      obtain ⟨own, rest, rfl, hrest, rfl⟩ := accounts_split_iff.mp hwaits
      rw [hothers] at hrest
      obtain ⟨counted, others, hcounted, hkeeps, rfl⟩ := accounts_split_iff.mp hrest
      rw [GapEntry.isOpen, Bool.and_eq_true, decide_eq_true_eq] at hopen
      have hmarker := standsFor_count hcounted hgap (hepoch.trans hopen.2.symm)
      exact hkept (accounts_split_iff.mpr ⟨_, _, hmarker, hkeeps, rfl⟩)
        ((add_left_comm _ _ _).trans (add_assoc _ _ _).symm)
  | newGap hwaiting hepoch hgaps hinstances =>
      rw [hwaiting] at hwaits
      obtain ⟨own, rest, rfl, hrest, rfl⟩ := accounts_split_iff.mp hwaits
      have hempty : StandsFor (.gap ⟨gapId, entry.daemonInstanceId, state.takeoverEpoch,
          entry.clientSeq, entry.clientSeq, .zeroCounts, false⟩ : OutboxEntry φ) 0 :=
        ⟨fun kind => by simp, fun _ h => absurd h (Multiset.notMem_zero _)⟩
      have hmarker := standsFor_count hempty rfl hepoch
      rw [zero_add] at hmarker
      exact hkept (accounts_split_iff.mpr ⟨_, _, hmarker, hrest, rfl⟩) rfl
  | countInCross hwaiting hothers hepoch hopen =>
      rw [hwaiting] at hwaits
      obtain ⟨own, rest, rfl, hrest, rfl⟩ := accounts_split_iff.mp hwaits
      rw [hothers] at hrest
      obtain ⟨counted, others, hcounted, hkeeps, rfl⟩ := accounts_split_iff.mp hrest
      rw [CrossEntry.isOpen, Bool.and_eq_true, decide_eq_true_eq] at hopen
      have hmarker := standsFor_absorb hcounted (get_bump_zeroCounts entry) fun frame hframe => by
        obtain rfl := Multiset.mem_singleton.mp hframe
        exact ⟨rfl, hepoch.trans hopen.2.symm⟩
      exact hkept (accounts_split_iff.mpr ⟨_, _, hmarker, hkeeps, rfl⟩)
        ((add_left_comm _ _ _).trans (add_assoc _ _ _).symm)
  | newCross hwaiting hepoch hclosed hcross =>
      rw [hwaiting] at hwaits
      obtain ⟨own, rest, rfl, hrest, rfl⟩ := accounts_split_iff.mp hwaits
      have hnew : StandsFor (.cross (state.newCross crossId) : OutboxEntry φ) 0 :=
        standsFor_newCross crossId
      have hmarker := standsFor_absorb hnew
        (get_bump_zeroCounts entry) fun frame hframe => by
          obtain rfl := Multiset.mem_singleton.mp hframe
          exact ⟨rfl, hepoch⟩
      rw [zero_add] at hmarker
      exact hkept (accounts_split_iff.mpr ⟨_, _, hmarker, hrest, rfl⟩) rfl
  | dropCompleted hwaiting hkind =>
      rw [hwaiting] at hwaits
      obtain ⟨own, rest, rfl, hrest, rfl⟩ := accounts_split_iff.mp hwaits
      refine ⟨_, {entry}, accounts_withWaiting hflying hrest, ?_, fun frame hframe => ?_⟩
      · rw [add_comm {entry} rest, add_assoc]
      · obtain rfl := Multiset.mem_singleton.mp hframe
        exact hkind

theorem get_totalCounts (gaps : List GapEntry) (kind : EntryKind) :
    (totalCounts gaps).get kind = (gaps.map fun gap => gap.counts.get kind).sum := by
  have hfold : ∀ (gaps : List GapEntry) (start : GapCounts),
      (gaps.foldl (fun counts gap => counts.addCounts gap.counts) start).get kind =
        start.get kind + (gaps.map fun gap => gap.counts.get kind).sum := by
    intro gaps
    induction gaps with
    | nil => simp
    | cons gap gaps ih =>
        intro start
        rw [List.foldl_cons, ih, GapCounts.get_addCounts, List.map_cons, List.sum_cons, add_assoc]
  rw [totalCounts, hfold, GapCounts.get_zeroCounts, zero_add]

theorem Accounts.filter_keepsGap {entries : List (OutboxEntry φ)}
    {frames : Multiset (NormalEntry φ)} (h : Accounts entries frames)
    (daemonInstanceId : JsString) :
    ∃ kept merged, Accounts (entries.filter (keepsGap daemonInstanceId)) kept ∧
      frames = kept + merged ∧
      (∀ kind, ((entries.filterMap (OutboxEntry.gapOf daemonInstanceId)).map
        fun gap => gap.counts.get kind).sum = frameCount kind merged) ∧
      ∀ frame ∈ merged, frame.daemonInstanceId = daemonInstanceId ∧
        ∃ gap ∈ entries.filterMap (OutboxEntry.gapOf daemonInstanceId),
          frame.takeoverEpoch = gap.takeoverEpoch := by
  induction h with
  | nil => exact ⟨0, 0, .nil, rfl, fun _ => rfl, fun _ h => absurd h (Multiset.notMem_zero _)⟩
  | @cons entry rest own others hentry hrest ih =>
      obtain ⟨kept, merged, hkept, rfl, hcounts, hmerged⟩ := ih
      cases hgap : entry.gapOf daemonInstanceId with
      | none =>
          refine ⟨own + kept, merged, ?_, (add_assoc _ _ _).symm, ?_, ?_⟩
          · rw [List.filter_cons_of_pos (by simp [keepsGap, hgap])]
            exact .cons hentry hkept
          · simpa [hgap] using hcounts
          · simpa [hgap] using hmerged
      | some gap =>
          obtain ⟨rfl, hinstance⟩ := gapOf_eq_some.mp hgap
          refine ⟨kept, own + merged, ?_, add_left_comm _ _ _, fun kind => ?_,
            fun frame hframe => ?_⟩
          · rwa [List.filter_cons_of_neg (by simp [keepsGap, hgap])]
          · rw [List.filterMap_cons_some hgap, List.map_cons, List.sum_cons, hcounts,
              frameCount_add, hentry.1 kind]
          · rw [List.filterMap_cons_some hgap]
            rcases Multiset.mem_add.mp hframe with hown | hother
            · obtain ⟨hsame, hepoch, -⟩ := hentry.2 frame hown
              exact ⟨hsame.trans hinstance, gap, List.mem_cons_self, hepoch⟩
            · obtain ⟨hsame, other, hother, hepoch⟩ := hmerged frame hother
              exact ⟨hsame, other, List.mem_cons_of_mem _ hother, hepoch⟩

theorem gapsOf_eq_waiting (hsettled : state.FlightSettled) {daemonInstanceId : JsString}
    (hgaps : ∀ gap ∈ state.gapsOf daemonInstanceId, gap.isOpen state.takeoverEpoch = true) :
    state.gapsOf daemonInstanceId =
      state.waiting.filterMap (OutboxEntry.gapOf daemonInstanceId) := by
  have hflight : state.flight.filterMap (OutboxEntry.gapOf daemonInstanceId) = [] := by
    refine List.filterMap_eq_nil_iff.mpr fun entry hentry => ?_
    have hkept := List.filter_eq_self.mp (filter_flight hsettled hgaps) entry hentry
    simpa [keepsGap] using hkept
  rw [gapsOf, ← flight_append_waiting, List.filterMap_append, hflight, List.nil_append]

theorem Accounts.merge {next : AgentOutboxState φ} {frames : Multiset (NormalEntry φ)}
    (h : Accounts state.entries frames) (hsettled : state.FlightSettled)
    (hmerge : Merge crossId state next) : Accounts next.entries frames := by
  obtain ⟨flying, waits, hflying, hwaits, rfl⟩ := accounts_entries h
  have habsorbed : ∀ {daemonInstanceId : JsString} {before after cross own others},
      (∀ gap ∈ state.gapsOf daemonInstanceId, gap.isOpen state.takeoverEpoch = true) →
      StandsFor (.cross cross : OutboxEntry φ) own → Accounts (before ++ after) others →
      state.waiting.filterMap (OutboxEntry.gapOf daemonInstanceId) =
        (before ++ after).filterMap (OutboxEntry.gapOf daemonInstanceId) →
      cross.takeoverEpoch = state.takeoverEpoch →
      Accounts ((before ++ .cross (cross.absorb daemonInstanceId
        (totalCounts (state.gapsOf daemonInstanceId))) :: after).filter
          (keepsGap daemonInstanceId)) (own + others) := by
    intro daemonInstanceId before after cross own others hgaps hcross hothers hwaiting hepoch
    obtain ⟨kept, merged, hkept, rfl, hcounts, hmerged⟩ := hothers.filter_keepsGap daemonInstanceId
    have hgapsOf := (gapsOf_eq_waiting hsettled hgaps).trans hwaiting
    have htotal : ∀ kind, (totalCounts (state.gapsOf daemonInstanceId)).get kind =
        frameCount kind merged := fun kind => by rw [get_totalCounts, hgapsOf, hcounts]
    have hmarker := standsFor_absorb hcross htotal fun frame hframe => by
        obtain ⟨hinstance, gap, hgap, hsame⟩ := hmerged frame hframe
        have hopen := hgaps gap (hgapsOf ▸ hgap)
        rw [GapEntry.isOpen, Bool.and_eq_true, decide_eq_true_eq] at hopen
        exact ⟨hinstance, (hsame.trans hopen.2).trans hepoch.symm⟩
    rw [List.filter_append, List.filter_cons_of_pos (by simp [keepsGap, OutboxEntry.gapOf])]
    rw [List.filter_append] at hkept
    exact accounts_split_iff.mpr ⟨_, _, hmarker, hkept, by rw [add_comm kept, add_assoc]⟩
  cases hmerge with
  | intoCross hwaiting hopen hsome hgaps =>
      rw [hwaiting] at hwaits
      obtain ⟨own, others, hcross, hothers, rfl⟩ := accounts_split_iff.mp hwaits
      rw [CrossEntry.isOpen, Bool.and_eq_true, decide_eq_true_eq] at hopen
      exact accounts_withWaiting hflying (habsorbed hgaps hcross hothers
        (by rw [hwaiting, List.filterMap_append, List.filterMap_append,
          List.filterMap_cons_none rfl]) hopen.2)
  | intoNewCross hwaiting hepoch hsome hcross hgaps =>
      rw [hwaiting] at hwaits
      have hnew : StandsFor (.cross (state.newCross crossId) : OutboxEntry φ) 0 :=
        standsFor_newCross crossId
      have hmerged := habsorbed hgaps hnew hwaits
        (by rw [hwaiting]) rfl
      rw [zero_add] at hmerged
      exact accounts_withWaiting hflying hmerged

end Raft.Outbox

import Mathlib.Data.List.Sort
import Raft.Foundation.JsString
import Raft.Foundation.Regex

/-!
# The walk outside Markdown code

Code spans are found by two scanners, the inline one only in the gaps between
fenced blocks.  Two consumers walk over what is left: one replaces the prose,
the other visits it.  Both receive the same chunks, which together with the
spans are the whole source.
-/

namespace Raft.RaftRefs

open Raft.Foundation Pattern

structure MarkdownCodeSpan where
  start : Nat
  stop : Nat
  deriving DecidableEq

namespace MarkdownCodeSpan

def Before (first second : MarkdownCodeSpan) : Prop := first.stop ≤ second.start

def Apart (first second : MarkdownCodeSpan) : Prop :=
  first.Before second ∨ second.Before first

def Within (span : MarkdownCodeSpan) (lower upper : Nat) : Prop :=
  lower ≤ span.start ∧ span.start < span.stop ∧ span.stop ≤ upper

def contains (span : MarkdownCodeSpan) (place : Nat) : Bool :=
  decide (span.start ≤ place) && decide (place < span.stop)

theorem Apart.symm {first second : MarkdownCodeSpan} (h : first.Apart second) :
    second.Apart first := Or.symm h

end MarkdownCodeSpan

open MarkdownCodeSpan

/-! ## Spans -/

def isBacktick (unit : CodeUnit) : Bool := unit = 0x60

def unticked : Pattern CodeUnit := rep (symbol fun unit => !isBacktick unit) 1 none

/-- A fenced block: the shortest text between two runs of three backticks. -/
def fenced : Pattern CodeUnit :=
  seq (word [isBacktick, isBacktick, isBacktick])
    (seq (lazy fun _ => true) (word [isBacktick, isBacktick, isBacktick]))

/-- Text without backticks between two of them on either side, or else between one. -/
def inlineCode : Pattern CodeUnit :=
  alt (seq (word [isBacktick, isBacktick]) (seq unticked (word [isBacktick, isBacktick])))
    (seq (word [isBacktick]) (seq unticked (word [isBacktick])))

def slice (source : JsString) (start stop : Nat) : JsString := (source.take stop).drop start

def fencedSpans (source : JsString) : List MarkdownCodeSpan :=
  (fenced.matchAll source).map fun place => ⟨place.1, place.2⟩

def scanInline (source : JsString) (start stop : Nat) : List MarkdownCodeSpan :=
  if stop ≤ start then []
  else (inlineCode.matchAll (slice source start stop)).map fun place =>
    ⟨start + place.1, start + place.2⟩

/-- The inline spans from the cursor on, in the gaps that the fences leave. -/
def inlineSpans (source : JsString) : (cursor : Nat) → (fences : List MarkdownCodeSpan) →
    List MarkdownCodeSpan
  | cursor, [] => scanInline source cursor source.length
  | cursor, fence :: fences =>
      scanInline source cursor fence.start ++ inlineSpans source fence.stop fences

def markdownCodeSpans (source : JsString) : List MarkdownCodeSpan :=
  (fencedSpans source ++ inlineSpans source 0 (fencedSpans source)).insertionSort
    fun first second => first.start ≤ second.start

theorem length_slice {source : JsString} {start stop : Nat} (h : stop ≤ source.length) :
    (slice source start stop).length = stop - start := by
  rw [slice, List.length_drop, List.length_take, Nat.min_eq_left h]

theorem fencedSpans_ascending (source : JsString) :
    (fencedSpans source).Pairwise Before ∧
      ∀ fence ∈ fencedSpans source, fence.Within 0 source.length := by
  obtain ⟨hpairwise, hplaces⟩ :=
    @matchesFrom_ascending _ fenced (by decide) 0 0 source
  refine ⟨List.pairwise_map.mpr hpairwise, fun fence hfence => ?_⟩
  obtain ⟨place, hplace, rfl⟩ := List.mem_map.mp hfence
  simpa [Within] using hplaces place hplace

theorem scanInline_ascending {source : JsString} (start : Nat) {stop : Nat}
    (hstop : stop ≤ source.length) :
    (scanInline source start stop).Pairwise Before ∧
      ∀ span ∈ scanInline source start stop, span.Within start stop := by
  rw [scanInline]
  split
  · simp
  · next hgap =>
      obtain ⟨hpairwise, hplaces⟩ :=
        @matchesFrom_ascending _ inlineCode (by decide) 0 0 (slice source start stop)
      rw [length_slice hstop] at hplaces
      constructor
      · rw [List.pairwise_map]
        exact hpairwise.imp fun hplace => Nat.add_le_add_left hplace start
      · intro span hspan
        obtain ⟨place, hplace, rfl⟩ := List.mem_map.mp hspan
        have hbounds := hplaces place hplace
        simp only [Within]
        omega

theorem inlineSpans_ascending {source : JsString} {fences : List MarkdownCodeSpan}
    (hfences : fences.Pairwise Before) {cursor : Nat}
    (hwithin : ∀ fence ∈ fences, fence.Within cursor source.length) :
    (inlineSpans source cursor fences).Pairwise Before ∧
      ∀ span ∈ inlineSpans source cursor fences, span.Within cursor source.length ∧
        ∀ fence ∈ fences, fence.Apart span := by
  induction fences generalizing cursor with
  | nil =>
      obtain ⟨hpairwise, hspans⟩ := scanInline_ascending cursor (Nat.le_refl source.length)
      exact ⟨hpairwise, fun span hspan => ⟨hspans span hspan, by simp⟩⟩
  | cons fence fences ih =>
      obtain ⟨hbefore, hrest⟩ := List.pairwise_cons.mp hfences
      obtain ⟨hfence, hothers⟩ := List.forall_mem_cons.mp hwithin
      obtain ⟨hlower, hproper, hupper⟩ := hfence
      obtain ⟨hgap, hgapspans⟩ := @scanInline_ascending source cursor _
        (Nat.le_trans (Nat.le_of_lt hproper) hupper)
      obtain ⟨hlater, hlaterspans⟩ := @ih hrest fence.stop fun other hother =>
        ⟨hbefore other hother, (hothers other hother).2⟩
      constructor
      · refine List.pairwise_append.mpr ⟨hgap, hlater, fun span hspan later hmem => ?_⟩
        have hspanstop := (hgapspans span hspan).2.2
        have hlaterstart := (hlaterspans later hmem).1.1
        simp only [Before]
        omega
      · intro span hspan
        rcases List.mem_append.mp hspan with hspan | hspan
        · obtain ⟨hstart, hspanproper, hstop⟩ := hgapspans span hspan
          refine ⟨⟨hstart, hspanproper, by omega⟩, fun other hother => .inr ?_⟩
          rcases List.mem_cons.mp hother with rfl | hother
          · exact hstop
          · have hotherstart := hbefore other hother
            simp only [Before] at hotherstart ⊢
            omega
        · obtain ⟨⟨hstart, hspanproper, hstop⟩, hapart⟩ := hlaterspans span hspan
          exact ⟨⟨by omega, hspanproper, hstop⟩, List.forall_mem_cons.mpr ⟨.inl hstart, hapart⟩⟩

theorem markdownCodeSpans_within (source : JsString) :
    ∀ span ∈ markdownCodeSpans source, span.Within 0 source.length := by
  obtain ⟨hfences, hwithin⟩ := fencedSpans_ascending source
  intro span hspan
  rw [markdownCodeSpans, List.mem_insertionSort, List.mem_append] at hspan
  rcases hspan with hspan | hspan
  · exact hwithin span hspan
  · exact ((inlineSpans_ascending hfences hwithin).2 span hspan).1

theorem markdownCodeSpans_ascending (source : JsString) :
    (markdownCodeSpans source).Pairwise Before := by
  obtain ⟨hfences, hwithin⟩ := fencedSpans_ascending source
  obtain ⟨hinline, hspans⟩ := inlineSpans_ascending hfences hwithin
  have hunsorted : (fencedSpans source ++
      inlineSpans source 0 (fencedSpans source)).Pairwise Apart :=
    List.pairwise_append.mpr ⟨hfences.imp .inl, hinline.imp .inl,
      fun fence hfence span hspan => (hspans span hspan).2 fence hfence⟩
  have hapart : (markdownCodeSpans source).Pairwise Apart :=
    ((List.perm_insertionSort _ _).pairwise_iff fun h => h.symm).mpr hunsorted
  have hsorted : (markdownCodeSpans source).Pairwise fun first second =>
      first.start ≤ second.start := List.pairwise_insertionSort _ _
  refine (hapart.and hsorted).imp_of_mem fun hfirst hsecond h => ?_
  -- Of two spans that are apart the one that starts first ends first.
  obtain ⟨happart | happart, hstart⟩ := h
  · exact happart
  · have hproper := (markdownCodeSpans_within source _ hsecond).2.1
    simp only [Before] at happart ⊢
    omega

/-- The backtick that closes a fence does not pair with the one that opens a wrapped name. -/
example : markdownCodeSpans (js "```x```-`y`") = [⟨0, 7⟩, ⟨8, 11⟩] := by decide

/-! ## The two consumers -/

section

variable {S : Type}

/-- The rest of the walk; `output` is what was written before the cursor. -/
def replaceFrom (source : JsString) (replacer : JsString → S → JsString × S) :
    List MarkdownCodeSpan → (cursor : Nat) → (output : JsString) → S → JsString × S
  | [], cursor, output, state =>
      if cursor < source.length then
        let (text, state) := replacer (source.drop cursor) state
        (output ++ text, state)
      else (output, state)
  | span :: spans, cursor, output, state =>
      if span.stop ≤ cursor then replaceFrom source replacer spans cursor output state
      else
        let start := if cursor < span.start then span.start else cursor
        let (output, state) :=
          if cursor < start then
            let (text, state) := replacer (slice source cursor start) state
            (output ++ text, state)
          else (output, state)
        replaceFrom source replacer spans span.stop (output ++ slice source start span.stop) state

/-- The replacer may keep a state of its own from one chunk to the next. -/
def replaceOutsideMarkdownCode (source : JsString) (replacer : JsString → S → JsString × S)
    (state : S) : JsString × S :=
  let spans := markdownCodeSpans source
  if spans.isEmpty then replacer source state
  else replaceFrom source replacer spans 0 [] state

def visitFrom (source : JsString) (visitor : JsString → Nat → S → S) :
    List MarkdownCodeSpan → (cursor : Nat) → S → S
  | [], cursor, state =>
      if cursor < source.length then visitor (source.drop cursor) cursor state else state
  | span :: spans, cursor, state =>
      if span.stop ≤ cursor then visitFrom source visitor spans cursor state
      else
        let start := if cursor < span.start then span.start else cursor
        let state := if cursor < start then visitor (slice source cursor start) cursor state
          else state
        visitFrom source visitor spans span.stop state

def visitMarkdownProseChunks (source : JsString) (visitor : JsString → Nat → S → S)
    (state : S) : S :=
  let spans := markdownCodeSpans source
  if spans.isEmpty then visitor source 0 state
  else visitFrom source visitor spans 0 state

end

def visitedChunks (source : JsString) : List (JsString × Nat) :=
  visitMarkdownProseChunks source (fun chunk offset visited => visited ++ [(chunk, offset)]) []

def noting {S : Type} (replacer : JsString → S → JsString × S) (chunk : JsString) :
    S × List JsString → JsString × S × List JsString :=
  fun (state, received) =>
    ((replacer chunk state).1, (replacer chunk state).2, received ++ [chunk])

/-! ## The chunks of a walk -/

/-- What is between the spans, in a walk over ascending spans from the cursor on. -/
def proseFrom (source : JsString) : List MarkdownCodeSpan → (cursor : Nat) →
    List (JsString × Nat)
  | [], cursor => if cursor < source.length then [(source.drop cursor, cursor)] else []
  | span :: spans, cursor =>
      (if cursor < span.start then [(slice source cursor span.start, cursor)] else []) ++
        proseFrom source spans span.stop

def proseChunks (source : JsString) : List (JsString × Nat) :=
  if (markdownCodeSpans source).isEmpty then [(source, 0)]
  else proseFrom source (markdownCodeSpans source) 0

def Ascending (source : JsString) (cursor : Nat) (spans : List MarkdownCodeSpan) : Prop :=
  spans.Pairwise Before ∧ ∀ span ∈ spans, span.Within cursor source.length

theorem Ascending.tail {source : JsString} {cursor : Nat} {span : MarkdownCodeSpan}
    {spans : List MarkdownCodeSpan} (h : Ascending source cursor (span :: spans)) :
    span.Within cursor source.length ∧ Ascending source span.stop spans := by
  obtain ⟨hpairwise, hwithin⟩ := h
  obtain ⟨hbefore, hrest⟩ := List.pairwise_cons.mp hpairwise
  obtain ⟨hspan, hothers⟩ := List.forall_mem_cons.mp hwithin
  exact ⟨hspan, hrest, fun other hother => ⟨hbefore other hother, (hothers other hother).2⟩⟩

theorem slice_append {source : JsString} {start middle stop : Nat} (hstart : start ≤ middle)
    (hstop : middle ≤ stop) :
    slice source start middle ++ slice source middle stop = slice source start stop := by
  simp only [slice, List.drop_take]
  rw [← Nat.sub_add_sub_cancel hstop hstart, Nat.add_comm, List.take_add, List.drop_drop,
    Nat.add_sub_cancel' hstart]

theorem slice_zero_append {source : JsString} {middle stop : Nat} (hstop : middle ≤ stop) :
    source.take middle ++ slice source middle stop = source.take stop := by
  have happend := @slice_append source 0 middle stop (Nat.zero_le middle) hstop
  simpa only [slice, List.drop_zero] using happend

theorem visitFrom_eq {S : Type} {source : JsString} (visitor : JsString → Nat → S → S)
    {spans : List MarkdownCodeSpan} {cursor : Nat} (h : Ascending source cursor spans)
    (state : S) :
    visitFrom source visitor spans cursor state =
      (proseFrom source spans cursor).foldl (fun state (chunk, offset) =>
        visitor chunk offset state) state := by
  induction spans generalizing cursor state with
  | nil =>
      rw [visitFrom, proseFrom]
      split <;> rfl
  | cons span spans ih =>
      obtain ⟨⟨hlower, hproper, -⟩, htail⟩ := h.tail
      rw [visitFrom, if_neg (by omega), proseFrom, List.foldl_append, ← ih htail]
      rcases Nat.lt_or_eq_of_le hlower with hgap | rfl
      · simp [hgap]
      · simp

theorem replaceFrom_snd {S : Type} {source : JsString} (replacer : JsString → S → JsString × S)
    {spans : List MarkdownCodeSpan} {cursor : Nat} (h : Ascending source cursor spans)
    (output : JsString) (state : S) :
    (replaceFrom source replacer spans cursor output state).2 =
      (proseFrom source spans cursor).foldl (fun state (chunk, _) =>
        (replacer chunk state).2) state := by
  induction spans generalizing cursor output state with
  | nil =>
      rw [replaceFrom, proseFrom]
      split <;> rfl
  | cons span spans ih =>
      obtain ⟨⟨hlower, hproper, -⟩, htail⟩ := h.tail
      rw [replaceFrom, if_neg (by omega), proseFrom, List.foldl_append]
      rcases Nat.lt_or_eq_of_le hlower with hgap | rfl
      · simp only [hgap, if_true, ih htail]
        rfl
      · simp only [Nat.lt_irrefl, if_false, ih htail]
        rfl

theorem replaceFrom_id {S : Type} {source : JsString} {spans : List MarkdownCodeSpan}
    {cursor : Nat} (h : Ascending source cursor spans) (hcursor : cursor ≤ source.length)
    (state : S) :
    replaceFrom source (fun chunk state => (chunk, state)) spans cursor (source.take cursor)
      state = (source, state) := by
  induction spans generalizing cursor with
  | nil =>
      rw [replaceFrom]
      split
      · simp only [List.take_append_drop]
      · rw [List.take_of_length_le (by omega)]
  | cons span spans ih =>
      obtain ⟨⟨hlower, hproper, hupper⟩, htail⟩ := h.tail
      rw [replaceFrom, if_neg (by omega)]
      rcases Nat.lt_or_eq_of_le hlower with hgap | rfl
      · simp only [hgap, if_true, slice_zero_append hlower,
          slice_zero_append (Nat.le_of_lt hproper)]
        exact ih htail hupper
      · simp only [Nat.lt_irrefl, if_false, slice_zero_append (Nat.le_of_lt hproper)]
        exact ih htail hupper

theorem proseFrom_slice {source : JsString} {spans : List MarkdownCodeSpan} {cursor : Nat}
    (h : Ascending source cursor spans) :
    ∀ visited ∈ proseFrom source spans cursor,
      visited.2 + visited.1.length ≤ source.length ∧
        slice source visited.2 (visited.2 + visited.1.length) = visited.1 := by
  induction spans generalizing cursor with
  | nil =>
      intro visited hvisited
      rw [proseFrom] at hvisited
      split at hvisited
      · obtain rfl := List.mem_singleton.mp hvisited
        simp only [slice, List.length_drop]
        refine ⟨by omega, ?_⟩
        rw [List.take_of_length_le (by omega)]
      · exact absurd hvisited List.not_mem_nil
  | cons span spans ih =>
      obtain ⟨⟨hlower, hproper, hupper⟩, htail⟩ := h.tail
      intro visited hvisited
      rcases List.mem_append.mp hvisited with hvisited | hvisited
      · split at hvisited
        · obtain rfl := List.mem_singleton.mp hvisited
          rw [length_slice (by omega), Nat.add_sub_cancel' hlower]
          exact ⟨by omega, rfl⟩
        · exact absurd hvisited List.not_mem_nil
      · exact ih htail visited hvisited

def chunkSpan (visited : JsString × Nat) : MarkdownCodeSpan :=
  ⟨visited.2, visited.2 + visited.1.length⟩

theorem countP_span (span : MarkdownCodeSpan) (place : Nat) :
    [span].countP (·.contains place) = if span.start ≤ place ∧ place < span.stop then 1 else 0 := by
  simp [contains]

theorem countP_proseFrom {source : JsString} {spans : List MarkdownCodeSpan} {cursor : Nat}
    (h : Ascending source cursor spans) (hcursor : cursor ≤ source.length) (place : Nat) :
    (spans ++ (proseFrom source spans cursor).map chunkSpan).countP (·.contains place) =
      if cursor ≤ place ∧ place < source.length then 1 else 0 := by
  induction spans generalizing cursor with
  | nil =>
      rw [List.nil_append, proseFrom]
      split
      · rw [List.map_singleton, countP_span, chunkSpan, List.length_drop,
          Nat.add_sub_cancel' hcursor]
      · rw [if_neg (by omega)]
        rfl
  | cons span spans ih =>
      obtain ⟨⟨hlower, hproper, hupper⟩, htail⟩ := h.tail
      have hrest := ih htail hupper
      rw [List.countP_append] at hrest
      rw [proseFrom, ← List.singleton_append, List.map_append, List.countP_append,
        List.countP_append, List.countP_append, countP_span]
      have hgap : ((if cursor < span.start then [(slice source cursor span.start, cursor)]
          else []).map chunkSpan).countP (·.contains place) =
            if cursor ≤ place ∧ place < span.start then 1 else 0 := by
        split
        · rw [List.map_singleton, countP_span, chunkSpan, length_slice (by omega),
            Nat.add_sub_cancel' hlower]
        · rw [if_neg (by omega)]
          rfl
      rw [hgap]
      split_ifs at hrest ⊢ <;> omega

/-! ## The agreement of the two -/

theorem ascending_markdownCodeSpans (source : JsString) :
    Ascending source 0 (markdownCodeSpans source) :=
  ⟨markdownCodeSpans_ascending source, markdownCodeSpans_within source⟩

theorem visitMarkdownProseChunks_eq {S : Type} (source : JsString)
    (visitor : JsString → Nat → S → S) (state : S) :
    visitMarkdownProseChunks source visitor state =
      (proseChunks source).foldl (fun state (chunk, offset) => visitor chunk offset state)
        state := by
  simp only [visitMarkdownProseChunks, proseChunks]
  split
  · rfl
  · exact visitFrom_eq visitor (ascending_markdownCodeSpans source) state

theorem replaceOutsideMarkdownCode_snd {S : Type} (source : JsString)
    (replacer : JsString → S → JsString × S) (state : S) :
    (replaceOutsideMarkdownCode source replacer state).2 =
      (proseChunks source).foldl (fun state (chunk, _) => (replacer chunk state).2) state := by
  simp only [replaceOutsideMarkdownCode, proseChunks]
  split
  · rfl
  · exact replaceFrom_snd replacer (ascending_markdownCodeSpans source) [] state

theorem visitedChunks_eq (source : JsString) : visitedChunks source = proseChunks source := by
  rw [visitedChunks, visitMarkdownProseChunks_eq]
  change (proseChunks source).foldl (fun visited chunk => visited ++ [chunk]) [] = _
  rw [List.foldl_append_eq_append, ← List.flatMap_def, List.flatMap_singleton', List.nil_append]

theorem received_eq {S : Type} (source : JsString) (replacer : JsString → S → JsString × S)
    (state : S) :
    (replaceOutsideMarkdownCode source (noting replacer) (state, [])).2.2 =
      (visitedChunks source).map Prod.fst := by
  have hfold : ∀ (chunks : List (JsString × Nat)) (state : S) (received : List JsString),
      (chunks.foldl (fun state (chunk, _) => (noting replacer chunk state).2)
        (state, received)).2 = received ++ chunks.map Prod.fst := by
    intro chunks
    induction chunks with
    | nil => simp
    | cons chunk chunks ih =>
        intro state received
        rw [List.foldl_cons, List.map_cons, ← List.singleton_append, ← List.append_assoc]
        exact ih _ _
  rw [replaceOutsideMarkdownCode_snd, hfold, visitedChunks_eq, List.nil_append]

theorem replaceOutsideMarkdownCode_id {S : Type} (source : JsString) (state : S) :
    replaceOutsideMarkdownCode source (fun chunk state => (chunk, state)) state =
      (source, state) := by
  simp only [replaceOutsideMarkdownCode]
  split
  · rfl
  · exact replaceFrom_id (ascending_markdownCodeSpans source) (Nat.zero_le _) state

theorem proseChunks_slice (source : JsString) :
    ∀ visited ∈ proseChunks source,
      visited.2 + visited.1.length ≤ source.length ∧
        slice source visited.2 (visited.2 + visited.1.length) = visited.1 := by
  rw [proseChunks]
  split
  · simp [slice]
  · exact proseFrom_slice (ascending_markdownCodeSpans source)

theorem countP_proseChunks (source : JsString) {place : Nat} (hplace : place < source.length) :
    (markdownCodeSpans source ++ (proseChunks source).map chunkSpan).countP
      (·.contains place) = 1 := by
  rw [proseChunks]
  split
  · next hempty =>
      rw [List.isEmpty_iff.mp hempty, List.nil_append, List.map_singleton, countP_span,
        chunkSpan, if_pos ⟨Nat.zero_le _, by simpa using hplace⟩]
  · rw [countP_proseFrom (ascending_markdownCodeSpans source) (Nat.zero_le _),
      if_pos ⟨Nat.zero_le _, hplace⟩]

/-- The spans are ascending and apart, the identity leaves the source as it is, the replacer
receives the chunks that are visited, each chunk is the part of the source at its offset, and
every place of the source is in exactly one span or chunk. -/
theorem markdownCode_walk (source : JsString) :
    (markdownCodeSpans source).Pairwise (fun first second => first.stop ≤ second.start) ∧
      (∀ span ∈ markdownCodeSpans source,
        span.start < span.stop ∧ span.stop ≤ source.length) ∧
      (∀ (S : Type) (state : S),
        replaceOutsideMarkdownCode source (fun chunk state => (chunk, state)) state =
          (source, state)) ∧
      (∀ (S : Type) (replacer : JsString → S → JsString × S) (state : S),
        (replaceOutsideMarkdownCode source (noting replacer) (state, [])).2.2 =
          (visitedChunks source).map Prod.fst) ∧
      (∀ visited ∈ visitedChunks source,
        visited.2 + visited.1.length ≤ source.length ∧
          slice source visited.2 (visited.2 + visited.1.length) = visited.1) ∧
      ∀ place < source.length,
        (markdownCodeSpans source ++ (visitedChunks source).map chunkSpan).countP
          (·.contains place) = 1 := by
  refine ⟨markdownCodeSpans_ascending source, ?_,
    fun S state => replaceOutsideMarkdownCode_id source state,
    fun S replacer state => received_eq source replacer state, ?_, ?_⟩
  · intro span hspan
    exact (markdownCodeSpans_within source span hspan).2
  · rw [visitedChunks_eq]
    exact proseChunks_slice source
  · intro place hplace
    rw [visitedChunks_eq]
    exact countP_proseChunks source hplace

end Raft.RaftRefs

import Raft.SkillFrontmatter.Parser

/-!
# Block scalars in a frontmatter

A flat document is a list of key lines, each with the deeper lines below it.
The reader takes such a document apart line by line, a block ends where the
next key line stands, and what it makes of a block is the value of the scalar.
-/

namespace Raft.SkillFrontmatter

open Raft.Foundation
open Raft.Foundation.BlockScalar (Chomping breaks)

/-! ## Texts of lines -/

def OneLine (line : JsString) : Prop := ∀ unit ∈ line, unit ≠ 0x0A ∧ unit ≠ 0x0D

def eol (crlf : Bool) : JsString := if crlf then [0x0D, 0x0A] else [0x0A]

def textOf (crlf : Bool) (lines : List JsString) : JsString :=
  (lines.intersperse (eol crlf)).flatten

def fence : JsString := js "---"

def contentOf (crlf : Bool) (lines : List JsString) (rest : JsString) : JsString :=
  fence ++ eol crlf ++ textOf crlf lines ++ eol crlf ++ fence ++ rest

theorem textOf_cons_cons (crlf : Bool) (first second : JsString) (lines : List JsString) :
    textOf crlf (first :: second :: lines) =
      first ++ (eol crlf ++ textOf crlf (second :: lines)) := by
  simp [textOf]

@[simp] theorem textOf_singleton (crlf : Bool) (line : JsString) : textOf crlf [line] = line := by
  simp [textOf]

theorem splitLines_append {line : JsString} (hline : OneLine line) (read rest : JsString) :
    splitLines read (line ++ rest) = splitLines (line.reverse ++ read) rest := by
  induction line generalizing read with
  | nil => rfl
  | cons unit line ih =>
      obtain ⟨hunit, hline⟩ := List.forall_mem_cons.mp hline
      rw [List.cons_append, splitLines, if_neg hunit.1, if_neg fun h => hunit.2 h.1, ih hline,
        List.reverse_cons, List.append_assoc, List.singleton_append]

theorem splitLines_eol (crlf : Bool) (read rest : JsString) :
    splitLines read (eol crlf ++ rest) = read.reverse :: splitLines [] rest := by
  cases crlf with
  | false => rfl
  | true => simp [eol, splitLines]

theorem splitLines_textOf (crlf : Bool) {line : JsString} {lines : List JsString}
    (hlines : ∀ other ∈ line :: lines, OneLine other) :
    splitLines [] (textOf crlf (line :: lines)) = line :: lines := by
  induction lines generalizing line with
  | nil =>
      have hsplit := splitLines_append (hlines line List.mem_cons_self) [] []
      simpa [splitLines] using hsplit
  | cons next lines ih =>
      obtain ⟨hline, hlines⟩ := List.forall_mem_cons.mp hlines
      rw [textOf_cons_cons, splitLines_append hline, splitLines_eol, ih hlines]
      simp

theorem dropBreak_of_oneLine {unit : CodeUnit} (hunit : unit ≠ 0x0A ∧ unit ≠ 0x0D)
    (rest : JsString) :
    dropBreak (unit :: rest) = none := by
  rw [dropBreak, if_neg hunit.1, if_neg fun h => hunit.2 h.1]

theorem untilFence_append {line : JsString} (hline : OneLine line) (rest : JsString) :
    untilFence (line ++ rest) = (untilFence rest).map (line ++ ·) := by
  induction line with
  | nil => simp
  | cons unit line ih =>
      obtain ⟨hunit, hline⟩ := List.forall_mem_cons.mp hline
      rw [List.cons_append, untilFence, dropBreak_of_oneLine hunit, ih hline]
      simp [Function.comp_def]

theorem dropBreak_eol (crlf : Bool) (rest : JsString) :
    dropBreak (eol crlf ++ rest) = some rest := by
  cases crlf <;> rfl

theorem untilFence_eol (crlf : Bool) {rest : JsString} (hrest : fence.isPrefixOf rest = false) :
    untilFence (eol crlf ++ rest) = (untilFence rest).map (eol crlf ++ ·) := by
  have hline : untilFence (0x0A :: rest) = (untilFence rest).map (0x0A :: ·) := by
    have hfence : (dropBreak (0x0A :: rest)).any fence.isPrefixOf = false := hrest
    rw [untilFence, ← fence, hfence]
    rfl
  cases crlf with
  | false => exact hline
  | true =>
      have hfence : (dropBreak (0x0D :: 0x0A :: rest)).any fence.isPrefixOf = false := hrest
      change untilFence (0x0D :: 0x0A :: rest) = _
      rw [untilFence, ← fence, hfence, hline]
      simp [eol, Function.comp_def]

theorem untilFence_fence (crlf : Bool) (rest : JsString) :
    untilFence (eol crlf ++ (fence ++ rest)) = some [] := by
  have hstarts : fence.isPrefixOf (fence ++ rest) = true := by simp
  cases crlf with
  | false =>
      have hfence : (dropBreak (0x0A :: (fence ++ rest))).any fence.isPrefixOf = true := hstarts
      change untilFence (0x0A :: (fence ++ rest)) = _
      rw [untilFence, ← fence, hfence]
      rfl
  | true =>
      have hfence : (dropBreak (0x0D :: 0x0A :: (fence ++ rest))).any fence.isPrefixOf = true :=
        hstarts
      change untilFence (0x0D :: 0x0A :: (fence ++ rest)) = _
      rw [untilFence, ← fence, hfence]
      rfl

structure InnerLine (line : JsString) : Prop where
  oneLine : OneLine line
  notFence : fence.isPrefixOf line = false

theorem isPrefixOf_fence_eol (crlf : Bool) {line : JsString} (h : fence.isPrefixOf line = false)
    (rest : JsString) : fence.isPrefixOf (line ++ (eol crlf ++ rest)) = false := by
  have hfence : fence = [0x2D, 0x2D, 0x2D] := by decide
  rw [hfence] at h ⊢
  obtain _ | ⟨first, _ | ⟨second, _ | ⟨third, line⟩⟩⟩ := line
  · cases crlf <;> simp [eol, List.isPrefixOf]
  · cases crlf <;> simp [eol, List.isPrefixOf]
  · cases crlf <;> simp [eol, List.isPrefixOf]
  · simpa [List.isPrefixOf] using h

theorem untilFence_textOf (crlf : Bool) {lines : List JsString}
    (hlines : ∀ line ∈ lines, InnerLine line) (rest : JsString) :
    untilFence (textOf crlf lines ++ (eol crlf ++ (fence ++ rest))) = some (textOf crlf lines) := by
  induction lines with
  | nil => exact untilFence_fence crlf rest
  | cons line lines ih =>
      obtain ⟨hline, hlines⟩ := List.forall_mem_cons.mp hlines
      obtain _ | ⟨next, lines⟩ := lines
      · rw [textOf_singleton, untilFence_append hline.oneLine, untilFence_fence]
        simp
      · have hnext : fence.isPrefixOf (textOf crlf (next :: lines) ++
            (eol crlf ++ (fence ++ rest))) = false := by
          have hfence := (hlines next List.mem_cons_self).notFence
          obtain _ | ⟨second, lines⟩ := lines
          · rw [textOf_singleton]
            exact isPrefixOf_fence_eol crlf hfence _
          · rw [textOf_cons_cons, List.append_assoc, List.append_assoc]
            exact isPrefixOf_fence_eol crlf hfence _
        rw [textOf_cons_cons, List.append_assoc, List.append_assoc, untilFence_append hline.oneLine,
          untilFence_eol crlf hnext, ih hlines]
        simp

theorem frontmatter_contentOf (crlf : Bool) {lines : List JsString}
    (hlines : ∀ line ∈ lines, InnerLine line) (rest : JsString) :
    frontmatter (contentOf crlf lines rest) = some (textOf crlf lines) := by
  have hshape : contentOf crlf lines rest =
      fence ++ (eol crlf ++ (textOf crlf lines ++ (eol crlf ++ (fence ++ rest)))) := by
    simp [contentOf]
  have hstarts : (js "---").isPrefixOf (contentOf crlf lines rest) = true := by
    rw [hshape, ← fence]
    simp
  have hdrop : (contentOf crlf lines rest).drop 3 =
      eol crlf ++ (textOf crlf lines ++ (eol crlf ++ (fence ++ rest))) := by
    rw [hshape]
    exact List.drop_left' (by decide)
  rw [frontmatter, if_pos hstarts, hdrop, dropBreak_eol]
  exact untilFence_textOf crlf hlines rest

def parseDocument (lines : List JsString) : InsertionMap JsString JsString :=
  parseLines (baseIndent lines) 0 lines .empty

theorem parseSkillFrontmatter_contentOf (crlf : Bool) {lines : List JsString}
    (hlines : ∀ line ∈ lines, InnerLine line) (rest : JsString) :
    parseSkillFrontmatter (contentOf crlf lines rest) = parseDocument lines := by
  rw [parseSkillFrontmatter, frontmatter_contentOf crlf hlines]
  obtain _ | ⟨line, lines⟩ := lines
  · rfl
  · have hsplit := splitLines_textOf crlf fun other hother => (hlines other hother).oneLine
    simp only [hsplit, parseDocument]

/-! ## Reading line by line -/

structure EndsBlock (base : Nat) (line : JsString) : Prop where
  nonblank : (trim line).length ≠ 0
  width_le : indentWidth line ≤ base

theorem collectBody_append {keyIndent : Nat} (bodyIndent : Option Nat)
    (first second : List JsString)
    (hsecond : ∀ line ∈ second.head?, EndsBlock keyIndent line) :
    collectBody keyIndent bodyIndent (first ++ second) =
      collectBody keyIndent bodyIndent first := by
  induction first generalizing bodyIndent with
  | nil =>
      obtain _ | ⟨line, second⟩ := second
      · rfl
      · obtain ⟨hline, hwidth⟩ := hsecond line rfl
        simp only [List.nil_append, collectBody, if_neg hline, if_pos hwidth]
  | cons line first ih =>
      rw [List.cons_append, collectBody, collectBody]
      split_ifs <;> simp [ih]

theorem length_collectBody_le (keyIndent : Nat) (bodyIndent : Option Nat) (lines : List JsString) :
    (collectBody keyIndent bodyIndent lines).length ≤ lines.length := by
  induction lines generalizing bodyIndent with
  | nil => simp [collectBody]
  | cons line lines ih =>
      rw [collectBody]
      dsimp only
      split_ifs <;> simp [ih]

theorem splitAtColon_eq_none {text : JsString} : splitAtColon text = none ↔ 0x3A ∉ text := by
  induction text with
  | nil => simp [splitAtColon]
  | cons unit text ih =>
      rw [splitAtColon]
      split
      · next hunit => simp [hunit]
      · next hunit => simp [ih, Ne.symm hunit]

theorem lineKey_some {base : Option Nat} {line key rawValue : JsString}
    (h : lineKey base line = some (key, rawValue)) :
    isStructural line = true ∧ ∀ width ∈ base, indentWidth line ≤ width := by
  rw [lineKey] at h
  split at h
  · cases h
  · next hline =>
      simp only [Bool.or_eq_true, decide_eq_true_eq, not_or, Bool.not_eq_true] at hline
      refine ⟨?_, fun width hwidth => ?_⟩
      · have hcolon : 0x3A ∈ line := by
          by_contra hnone
          rw [splitAtColon_eq_none.mpr hnone] at h
          cases h
        simp [isStructural, hline.1.1, hline.1.2, hcolon]
      · rw [Option.mem_def.mp hwidth] at hline
        simpa using hline.2

theorem parseLines_append {base : Nat} {first second : List JsString}
    (hfirst : ∀ line ∈ first, isStructural line = true → base ≤ indentWidth line)
    (hsecond : ∀ line ∈ second.head?, EndsBlock base line) {skip : Nat}
    (hskip : skip ≤ first.length)
    (result : InsertionMap JsString JsString) :
    parseLines (some base) skip (first ++ second) result =
      parseLines (some base) 0 second (parseLines (some base) skip first result) := by
  induction first generalizing skip result with
  | nil =>
      obtain rfl : skip = 0 := by simpa using hskip
      rfl
  | cons line first ih =>
      obtain ⟨hline, hfirst⟩ := List.forall_mem_cons.mp hfirst
      obtain _ | skip := skip
      · rw [List.cons_append, parseLines, parseLines]
        split
        · exact ih hfirst (Nat.zero_le _) result
        · next key rawValue hkey =>
            obtain ⟨hstructural, hwidth⟩ := lineKey_some hkey
            have hindent : indentWidth line = base :=
              le_antisymm (hwidth base rfl) (hline hstructural)
            split
            · exact ih hfirst (Nat.zero_le _) _
            · next block hblock =>
                have hbody := collectBody_append (block.explicitIndent.map (indentWidth line + ·))
                  first second (hindent.symm ▸ hsecond)
                simp only [hbody]
                exact ih hfirst (length_collectBody_le _ _ _) _
      · rw [List.cons_append, parseLines, parseLines]
        exact ih hfirst (by simpa using hskip) result

@[simp] theorem get_assign (result : InsertionMap JsString JsString) (key value other : JsString) :
    (assign result key value).get other =
      if other = key ∧ key ≠ js "__proto__" then some value else result.get other := by
  rw [assign]
  split
  · next hproto => simp [hproto]
  · next hproto => simp [InsertionMap.get_set, hproto]

theorem get_parseLines (base : Option Nat) (skip : Nat) (lines : List JsString)
    (result : InsertionMap JsString JsString) (key : JsString) :
    (parseLines base skip lines result).get key =
      ((parseLines base skip lines .empty).get key).or (result.get key) := by
  induction lines generalizing skip result with
  | nil => cases skip <;> simp [parseLines]
  | cons line lines ih =>
      obtain _ | skip := skip
      · rw [parseLines, parseLines]
        split
        · exact ih 0 result
        · next other rawValue _ =>
            split
            · rw [ih 0 (assign result _ _), ih 0 (assign .empty _ _), Option.or_assoc]
              congr 1
              simp only [get_assign]
              split <;> simp
            · next block _ =>
                dsimp only
                rw [ih _ (assign result _ _), ih _ (assign .empty _ _), Option.or_assoc]
                congr 1
                simp only [get_assign]
                split <;> simp
      · rw [parseLines, parseLines]
        exact ih skip result

theorem parseLines_skip (base : Option Nat) (first second : List JsString)
    (result : InsertionMap JsString JsString) :
    parseLines base first.length (first ++ second) result = parseLines base 0 second result := by
  induction first with
  | nil => rfl
  | cons line first ih => exact ih

theorem parseLines_deep (base : Nat) {first : List JsString} (second : List JsString)
    (hfirst : ∀ line ∈ first, (trim line).length = 0 ∨ base < indentWidth line)
    (result : InsertionMap JsString JsString) :
    parseLines (some base) 0 (first ++ second) result = parseLines (some base) 0 second result := by
  induction first with
  | nil => rfl
  | cons line first ih =>
      obtain ⟨hline, hfirst⟩ := List.forall_mem_cons.mp hfirst
      have hnone : lineKey (some base) line = none := by
        rw [lineKey, if_pos]
        obtain hblank | hdeep := hline
        · simp [hblank]
        · simp [hdeep]
      rw [List.cons_append, parseLines, hnone]
      exact ih hfirst

theorem get_parseLines_of_ne (base : Option Nat) {lines : List JsString} {key : JsString}
    (hkey : ∀ line ∈ lines, ∀ rawValue, lineKey base line ≠ some (key, rawValue)) (skip : Nat)
    (result : InsertionMap JsString JsString) :
    (parseLines base skip lines result).get key = result.get key := by
  induction lines generalizing skip result with
  | nil => cases skip <;> rfl
  | cons line lines ih =>
      obtain ⟨hline, hlines⟩ := List.forall_mem_cons.mp hkey
      obtain _ | skip := skip
      · rw [parseLines]
        split
        · exact ih hlines 0 result
        · next other rawValue hother =>
            have hne : key ≠ other := fun heq => hline rawValue (heq ▸ hother)
            split
            · rw [ih hlines, get_assign, if_neg fun h => hne h.1]
            · dsimp only
              rw [ih hlines, get_assign, if_neg fun h => hne h.1]
      · exact ih hlines skip result

theorem get_proto (base : Option Nat) (skip : Nat) (lines : List JsString) :
    (parseLines base skip lines .empty).get (js "__proto__") = none := by
  induction lines generalizing skip with
  | nil => cases skip <;> rfl
  | cons line lines ih =>
      obtain _ | skip := skip
      · rw [parseLines]
        split
        · exact ih 0
        · split
          · rw [get_parseLines, ih, get_assign, if_neg fun h => h.2 h.1.symm]
            rfl
          · dsimp only
            rw [get_parseLines, ih, get_assign, if_neg fun h => h.2 h.1.symm]
            rfl
      · exact ih skip

theorem baseIndent_eq_min (lines : List JsString) :
    baseIndent lines = ((lines.filter isStructural).map indentWidth).min? := by
  induction lines with
  | nil => rfl
  | cons line lines ih =>
      rw [baseIndent, List.filter_cons]
      split
      · rw [ih, List.map_cons, List.min?_cons]
      · exact ih

theorem baseIndent_eq {base : Nat} {lines : List JsString}
    (hleast : ∀ line ∈ lines, isStructural line = true → base ≤ indentWidth line)
    (hattained : ∃ line ∈ lines, isStructural line = true ∧ indentWidth line = base) :
    baseIndent lines = some base := by
  obtain ⟨line, hline, hstructural, rfl⟩ := hattained
  rw [baseIndent_eq_min, List.min?_eq_some_iff]
  refine ⟨List.mem_map_of_mem (List.mem_filter.mpr ⟨hline, hstructural⟩), fun width hwidth => ?_⟩
  obtain ⟨other, hother, rfl⟩ := List.mem_map.mp hwidth
  exact hleast other (List.mem_filter.mp hother).1 (List.mem_filter.mp hother).2

/-! ## Folding and chomping -/

theorem contentCount_eq (lines : List JsString) :
    contentCount lines = (BlockScalar.content lines).length := by
  simp [contentCount, BlockScalar.content, List.rdropWhile]

theorem take_contentCount (lines : List JsString) :
    lines.take (contentCount lines) = BlockScalar.content lines := by
  rw [contentCount_eq]
  exact (List.prefix_iff_eq_take.mp (BlockScalar.content_prefix lines)).symm

/-- Lines as they stand in a body: empty, or with something else than white space. -/
def BodyLines (lines : List JsString) : Prop := ∀ line ∈ lines, line = [] ∨ trim line ≠ []

theorem foldLine_started (out before : JsString) (empty : Nat) {lines : List JsString}
    (hlines : BodyLines lines) :
    (lines.foldl foldLine ⟨out, empty, true, isMoreIndented before⟩).out =
      out ++ BlockScalar.foldRest before empty lines := by
  induction lines generalizing out before empty with
  | nil => simp [BlockScalar.foldRest]
  | cons line lines ih =>
      obtain ⟨hline, hrest⟩ := List.forall_mem_cons.mp hlines
      obtain _ | ⟨unit, line⟩ := line
      · exact ih out before (empty + 1) hrest
      · have htrim : (trim (unit :: line)).length ≠ 0 := by simpa using hline
        have hseparator : BlockScalar.separator before (unit :: line) empty =
            if 0 < empty + (if isMoreIndented (unit :: line) || isMoreIndented before then 1 else 0)
              then breaks (empty + (if isMoreIndented (unit :: line) || isMoreIndented before then 1
                else 0)) else [0x20] := by
          rw [BlockScalar.separator, Bool.or_comm]
          change (if isMoreIndented (unit :: line) || isMoreIndented before then _ else _) = _
          split
          · simp
          · by_cases hempty : empty = 0
            · simp [hempty]
            · simp [hempty, Nat.pos_of_ne_zero hempty]
        rw [List.foldl_cons, foldLine, if_neg htrim]
        simp only [Bool.not_true, Bool.false_eq_true, if_false]
        rw [ih _ _ _ hrest, BlockScalar.foldRest, hseparator]
        simp

theorem foldLine_start (empty : Nat) {lines : List JsString} (hlines : BodyLines lines) :
    (lines.foldl foldLine ⟨[], empty, false, false⟩).out = BlockScalar.foldContent empty lines := by
  induction lines generalizing empty with
  | nil => rfl
  | cons line lines ih =>
      obtain ⟨hline, hrest⟩ := List.forall_mem_cons.mp hlines
      obtain _ | ⟨unit, line⟩ := line
      · exact ih (empty + 1) hrest
      · have htrim : (trim (unit :: line)).length ≠ 0 := by simpa using hline
        rw [List.foldl_cons, foldLine, if_neg htrim]
        simp only [Bool.not_false, if_true]
        rw [foldLine_started _ _ _ hrest, BlockScalar.foldContent]

theorem rdropWhile_foldContent {lines : List JsString} (h : lines ≠ [])
    (hlast : lines.getLast h ≠ [])
    (hline : OneLine (lines.getLast h)) :
    (BlockScalar.foldContent 0 lines).rdropWhile (· = 0x0A) = BlockScalar.foldContent 0 lines := by
  refine List.rdropWhile_eq_self_iff.mpr fun hne hbreak => ?_
  obtain ⟨before, hbefore⟩ := @BlockScalar.foldContent_suffix 0 _ h hlast
  have hunit : (BlockScalar.foldContent 0 lines).getLast hne = (lines.getLast h).getLast hlast := by
    simp only [← hbefore, List.getLast_append_of_ne_nil _ hlast]
  rw [hunit] at hbreak
  exact (hline _ (List.getLast_mem hlast)).1 (of_decide_eq_true hbreak)

/-- What the reader makes of a body is the value of the scalar. -/
theorem blockValue_eq (block : BlockHeader) {body : List JsString} (hbody : BodyLines body)
    (hlines : ∀ line ∈ body, OneLine line) :
    blockValue block body = BlockScalar.value block.folded block.chomp body := by
  have hcount : contentCount body = 0 ↔ BlockScalar.content body = [] := by
    rw [contentCount_eq, List.length_eq_zero_iff]
  have hmem : ∀ line ∈ BlockScalar.content body, line ∈ body :=
    (BlockScalar.content_prefix body).subset
  have hbreaks : ∀ text, BlockScalar.content body ≠ [] → withBreaks block.chomp text body =
      BlockScalar.chomped block.chomp text (body.length - (BlockScalar.content body).length) := by
    intro text hne
    have hpos := List.length_pos_iff.mpr hne
    have hle := (BlockScalar.content_prefix body).length_le
    cases hchomp : block.chomp with
    | strip => rfl
    | clip => rfl
    | keep =>
        rw [withBreaks, BlockScalar.chomped, contentCount_eq]
        congr 2
        omega
  rw [blockValue, BlockScalar.value]
  by_cases hnone : BlockScalar.content body = []
  · cases block.folded <;> simp [fold, applyChomp, hcount.mpr hnone, hnone]
  · have hpositive : contentCount body ≠ 0 := mt hcount.mp hnone
    cases block.folded with
    | false =>
        simp only [Bool.false_eq_true, if_false, applyChomp, hpositive, hnone, take_contentCount,
          hbreaks _ hnone]
        rfl
    | true =>
        have hfold : foldLines (BlockScalar.content body) =
            BlockScalar.foldContent 0 (BlockScalar.content body) :=
          foldLine_start 0 fun line hline => hbody line (hmem line hline)
        have hlast := BlockScalar.getLast_content hnone
        have hoff := rdropWhile_foldContent hnone hlast
          (hlines _ (hmem _ (List.getLast_mem hnone)))
        simp only [if_true, fold, hpositive, hnone, if_false, take_contentCount, hfold, hoff,
          hbreaks _ hnone]

end Raft.SkillFrontmatter

import Raft.RaftRefs.Grammars
import Mathlib.Data.List.Perm.Basic

/-!
# Reference targets round-trip

No text is accepted by two grammars, and each grammar's captures can be read off
the text.  The canonical text of a target is accepted by the grammar that gave
the target, with the same captures.
-/

namespace Raft.RaftRefs

open Raft.Foundation Pattern

/-! ## At most one grammar -/

def hash : CodePoint := .single 0x23

def conversationKind (plainKind threadKind messageKind : RaftRefKind) :
    List CodePoint × Option (List CodePoint) × Option (List CodePoint) → RaftRefKind
  | (_, _, some _) => messageKind
  | (_, some _, none) => threadKind
  | (_, none, none) => plainKind

/-- The only grammar that can accept the text. -/
def kindOf (symbols : List CodePoint) : Option RaftRefKind :=
  match symbols.head?.map CodePoint.fold with
  | some (.single unit) =>
      if unit = 0x40 then some .user
      else if unit = 0x63 then some .computer
      else if unit = 0x61 then some .app
      else if unit = 0x74 then some .task
      else if unit = 0x23 then
        some (conversationKind .channel .channelThread .message (partsOf 1 symbols))
      else if unit = 0x64 then
        some (conversationKind .dm .dmThread .dmMessage (partsOf 4 symbols))
      else none
  | _ => none

/-- The only captures with which a grammar can accept the text. -/
def capturesOf (symbols : List CodePoint) : RaftRefKind → Captures CodePoint
  | .user => [some (symbols.drop 1)]
  | .computer => [some (symbols.drop 9)]
  | .app => [some (symbols.drop 4)]
  | .task => [some ((symbols.dropWhile (· ≠ hash)).drop 1)]
  | .channel => [some (partsOf 1 symbols).1]
  | .channelThread => [some (partsOf 1 symbols).1, (partsOf 1 symbols).2.1]
  | .message =>
      [some (partsOf 1 symbols).1, (partsOf 1 symbols).2.1, (partsOf 1 symbols).2.2]
  | .dm => [some (partsOf 4 symbols).1]
  | .dmThread => [some (partsOf 4 symbols).1, (partsOf 4 symbols).2.1]
  | .dmMessage =>
      [some (partsOf 4 symbols).1, (partsOf 4 symbols).2.1, (partsOf 4 symbols).2.2]

theorem head_fold {first rest : List CodePoint} {unit : CodeUnit} {units : JsString}
    (h : first.map CodePoint.fold = (unit :: units).map .single) :
    (first ++ rest).head?.map CodePoint.fold = some (.single unit) := by
  cases first with
  | nil => simp at h
  | cons symbol first => exact congrArg some (List.cons.inj h).1

theorem captures_nil {pattern : Pattern CodePoint} (hgroups : pattern.groups = 0)
    {text rest : List CodePoint} {captures : Captures CodePoint}
    (h : pattern.Denotes text rest captures) : captures = [] :=
  List.length_eq_zero_iff.mp ((length_captures h).trans hgroups)

theorem denotes_foldedHead {head : JsString} {body : Pattern CodePoint} (hgroups : body.groups = 0)
    {symbols : List CodePoint} {captures : Captures CodePoint} :
    (seq (foldedLiteral head) (group body)).Denotes symbols [] captures ↔
      ∃ first text, symbols = first ++ text ∧ first.map CodePoint.fold = head.map .single ∧
        body.Denotes text [] [] ∧ captures = [some text] := by
  constructor
  · rintro ⟨first, text, _, _, rfl, rfl, hfirst, inner, rfl, hbody⟩
    obtain ⟨hhead, rfl⟩ := denotes_foldedLiteral.mp hfirst
    obtain rfl := captures_nil hgroups hbody
    exact ⟨first, text, rfl, hhead, hbody, rfl⟩
  · rintro ⟨first, text, rfl, hhead, hbody, rfl⟩
    exact ⟨first, text, [], _, rfl, rfl, denotes_foldedLiteral.mpr ⟨hhead, rfl⟩, [], rfl, hbody⟩

theorem denotes_literalHead {head : JsString} {body : Pattern CodePoint}
    (hgroups : body.groups = 0) {symbols : List CodePoint} {captures : Captures CodePoint} :
    (seq (literal head) (group body)).Denotes symbols [] captures ↔
      ∃ text, symbols = head.map .single ++ text ∧ body.Denotes text [] [] ∧
        captures = [some text] := by
  constructor
  · rintro ⟨first, text, _, _, rfl, rfl, hfirst, inner, rfl, hbody⟩
    obtain ⟨rfl, rfl⟩ := denotes_literal.mp hfirst
    obtain rfl := captures_nil hgroups hbody
    exact ⟨text, rfl, hbody, rfl⟩
  · rintro ⟨text, rfl, hbody, rfl⟩
    exact ⟨_, text, [], _, rfl, rfl, denotes_literal.mpr ⟨rfl, rfl⟩, [], rfl, hbody⟩

theorem denotes_task {symbols : List CodePoint} {captures : Captures CodePoint} :
    TASK_RE.Denotes symbols [] captures ↔
      ∃ first space sign text, symbols = first ++ (space ++ (sign :: text)) ∧
        first.map CodePoint.fold = (js "task").map .single ∧ space ≠ [] ∧
        (∀ symbol ∈ space, symbol.isSpace = true) ∧ sign = hash ∧
        RAFT_REF_TASK_NUMBER_PATTERN.Denotes text [] [] ∧ captures = [some text] := by
  constructor
  · rintro ⟨first, _, _, _, rfl, rfl, hfirst, space, _, _, _, rfl, rfl, hsecond, mark, text, _, _,
      rfl, rfl, hthird, inner, rfl, hbody⟩
    obtain ⟨hhead, rfl⟩ := denotes_foldedLiteral.mp hfirst
    obtain ⟨hspace, hmin, -, rfl⟩ := denotes_rep_symbol.mp hsecond
    obtain ⟨hmark, rfl⟩ := denotes_foldedLiteral.mp hthird
    obtain ⟨sign, rfl, hsign⟩ := List.map_eq_singleton_iff.mp hmark
    obtain rfl := captures_nil rfl hbody
    exact ⟨first, space, sign, text, rfl, hhead, List.length_pos_iff.mp hmin, hspace,
      (foldedSymbol_iff (by decide) (by decide)).mp (decide_eq_true hsign), hbody, rfl⟩
  · rintro ⟨first, space, _, text, rfl, hhead, hnonempty, hspace, rfl, hbody, rfl⟩
    exact ⟨first, _, [], _, rfl, rfl, denotes_foldedLiteral.mpr ⟨hhead, rfl⟩, space, _, [], _, rfl,
      rfl, denotes_rep_symbol.mpr ⟨hspace, List.length_pos_iff.mpr hnonempty, by simp, rfl⟩,
      [hash], text, [], _, rfl, rfl, denotes_foldedLiteral.mpr ⟨rfl, rfl⟩, [], rfl, hbody⟩

theorem conversation_reads {unit : CodeUnit} {units : JsString} {name : Pattern CodePoint}
    {Name : List CodePoint → Prop} (hname : IsName name Name) {thread message : Presence}
    {symbols : List CodePoint} {captures : Captures CodePoint}
    (h : (conversationRegex (unit :: units) name thread message).Denotes symbols [] captures) :
    ∃ text threadShortId messageId, thread.Allows threadShortId ∧ message.Allows messageId ∧
      symbols.head?.map CodePoint.fold = some (.single unit) ∧
      partsOf (units.length + 1) symbols = (text, threadShortId, messageId) ∧
      captures = some text :: (thread.captures threadShortId ++ message.captures messageId) := by
  obtain ⟨text, threadShortId, messageId, hconversation, rfl⟩ :=
    (denotes_conversationRegex hname).mp h
  have hparts := partsOf_conversation hname hconversation
  obtain ⟨-, hthread, hmessage, first, _, _, rfl, hfirst, -⟩ := hconversation
  exact ⟨text, threadShortId, messageId, hthread, hmessage, head_fold hfirst, hparts, rfl⟩

theorem channel_reads {name : Pattern CodePoint} {Name : List CodePoint → Prop}
    (hname : IsName name Name) {thread message : Presence} {symbols : List CodePoint}
    {captures : Captures CodePoint}
    (h : (conversationRegex (js "#") name thread message).Denotes symbols [] captures) :
    ∃ text threadShortId messageId, thread.Allows threadShortId ∧ message.Allows messageId ∧
      kindOf symbols = some (conversationKind .channel .channelThread .message
        (text, threadShortId, messageId)) ∧
      partsOf 1 symbols = (text, threadShortId, messageId) ∧
      captures = some text :: (thread.captures threadShortId ++ message.captures messageId) := by
  obtain ⟨text, threadShortId, messageId, hthread, hmessage, hhead, hparts, rfl⟩ :=
    @conversation_reads 0x23 [] _ _ hname _ _ _ _ h
  refine ⟨text, threadShortId, messageId, hthread, hmessage, ?_, hparts, rfl⟩
  rw [kindOf, hhead, ← hparts]
  rfl

theorem dm_reads {thread message : Presence} {symbols : List CodePoint}
    {captures : Captures CodePoint}
    (h : (conversationRegex (js "dm:@") RAFT_REF_DM_PEER_PATTERN thread message).Denotes symbols []
      captures) :
    ∃ text threadShortId messageId, thread.Allows threadShortId ∧ message.Allows messageId ∧
      kindOf symbols = some (conversationKind .dm .dmThread .dmMessage
        (text, threadShortId, messageId)) ∧
      partsOf 4 symbols = (text, threadShortId, messageId) ∧
      captures = some text :: (thread.captures threadShortId ++ message.captures messageId) := by
  obtain ⟨text, threadShortId, messageId, hthread, hmessage, hhead, hparts, rfl⟩ :=
    @conversation_reads 0x64 [0x6D, 0x3A, 0x40] _ _ isName_peer _ _ _ _ h
  refine ⟨text, threadShortId, messageId, hthread, hmessage, ?_, hparts, rfl⟩
  rw [kindOf, hhead, ← hparts]
  rfl

section

variable {names foldedNames : NameSymbols}

theorem kindOf_of_denotes {kind : RaftRefKind} {symbols : List CodePoint}
    {captures : Captures CodePoint}
    (h : (regexOf names foldedNames kind).Denotes symbols [] captures) :
    kindOf symbols = some kind ∧ captures = capturesOf symbols kind := by
  -- A head of `n` symbols is what `drop n` removes.
  have hdrop : ∀ {first : List CodePoint} {head : JsString} (text : List CodePoint),
      first.map CodePoint.fold = head.map .single → (first ++ text).drop head.length = text := by
    intro first head text hfirst
    rw [← (by simpa using congrArg List.length hfirst : first.length = head.length),
      List.drop_left]
  cases kind with
  | user =>
      obtain ⟨text, rfl, -, rfl⟩ := (denotes_literalHead rfl).mp h
      exact ⟨rfl, rfl⟩
  | app =>
      obtain ⟨text, rfl, -, rfl⟩ := (denotes_literalHead rfl).mp h
      exact ⟨rfl, rfl⟩
  | computer =>
      obtain ⟨first, text, rfl, hfirst, -, rfl⟩ := (denotes_foldedHead rfl).mp h
      refine ⟨?_, congrArg (fun text => [some text]) (hdrop text hfirst).symm⟩
      rw [kindOf, head_fold hfirst]
      rfl
  | task =>
      obtain ⟨first, space, _, text, rfl, hfirst, hnonempty, hspace, rfl, -, rfl⟩ :=
        denotes_task.mp h
      have hbefore : ∀ symbol ∈ first ++ space, decide (symbol ≠ hash) = true := by
        intro symbol hsymbol
        rw [decide_eq_true_eq]
        rintro rfl
        rcases List.mem_append.mp hsymbol with hmem | hmem
        · have hfold := List.mem_map_of_mem (f := CodePoint.fold) hmem
          rw [hfirst] at hfold
          exact absurd hfold (by decide)
        · exact absurd (hspace hash hmem) (by decide)
      constructor
      · rw [kindOf, head_fold hfirst]
        rfl
      · rw [capturesOf, ← List.append_assoc, (takeWhile_append_of_stop hbefore (by simp)).2]
        rfl
  | channel =>
      obtain ⟨text, _, _, rfl, rfl, hkind, hparts, rfl⟩ := channel_reads (isName_channel names) h
      exact ⟨hkind, by rw [capturesOf, hparts]; rfl⟩
  | channelThread =>
      obtain ⟨text, threadShortId, _, hthread, rfl, hkind, hparts, rfl⟩ :=
        channel_reads (isName_channel foldedNames) h
      obtain ⟨threadShortId, rfl⟩ := Option.ne_none_iff_exists'.mp hthread
      exact ⟨hkind, by rw [capturesOf, hparts]; rfl⟩
  | message =>
      obtain ⟨text, threadShortId, messageId, -, hmessage, hkind, hparts, rfl⟩ :=
        channel_reads (isName_channel foldedNames) h
      obtain ⟨messageId, rfl⟩ := Option.ne_none_iff_exists'.mp hmessage
      exact ⟨hkind, by rw [capturesOf, hparts]; rfl⟩
  | dm =>
      obtain ⟨text, _, _, rfl, rfl, hkind, hparts, rfl⟩ := dm_reads h
      exact ⟨hkind, by rw [capturesOf, hparts]; rfl⟩
  | dmThread =>
      obtain ⟨text, threadShortId, _, hthread, rfl, hkind, hparts, rfl⟩ := dm_reads h
      obtain ⟨threadShortId, rfl⟩ := Option.ne_none_iff_exists'.mp hthread
      exact ⟨hkind, by rw [capturesOf, hparts]; rfl⟩
  | dmMessage =>
      obtain ⟨text, threadShortId, messageId, -, hmessage, hkind, hparts, rfl⟩ := dm_reads h
      obtain ⟨messageId, rfl⟩ := Option.ne_none_iff_exists'.mp hmessage
      exact ⟨hkind, by rw [capturesOf, hparts]; rfl⟩

theorem exec_regexOf_iff {kind : RaftRefKind} {symbols : List CodePoint}
    {captures : Captures CodePoint} :
    (regexOf names foldedNames kind).exec symbols = some captures ↔
      (regexOf names foldedNames kind).Denotes symbols [] captures := by
  constructor
  · exact denotes_of_exec
  · intro h
    obtain ⟨others, hothers⟩ := Option.isSome_iff_exists.mp (exec_isSome_of_denotes h)
    rw [hothers, (kindOf_of_denotes h).2, (kindOf_of_denotes (denotes_of_exec hothers)).2]

theorem kind_unique {kind other : RaftRefKind} {symbols : List CodePoint}
    (hkind : ((regexOf names foldedNames kind).exec symbols).isSome = true)
    (hother : ((regexOf names foldedNames other).exec symbols).isSome = true) : kind = other := by
  obtain ⟨captures, hcaptures⟩ := Option.isSome_iff_exists.mp hkind
  obtain ⟨others, hothers⟩ := Option.isSome_iff_exists.mp hother
  have hfirst := (kindOf_of_denotes (denotes_of_exec hcaptures)).1
  rw [(kindOf_of_denotes (denotes_of_exec hothers)).1] at hfirst
  exact (Option.some.inj hfirst).symm

/-- A parse is the reading of the one grammar that accepts, in whatever order they are tried. -/
theorem parseInOrder_eq_some_iff {order : List RaftRefKind} {rawTarget : JsString}
    {target : RaftRefTarget} :
    parseInOrder names foldedNames order rawTarget = some target ↔
      trim rawTarget ≠ [] ∧ ∃ kind ∈ order, ∃ captures,
        (regexOf names foldedNames kind).Denotes (codePoints (trim rawTarget)) [] captures ∧
          targetOf kind captures = some target := by
  rw [parseInOrder]
  split
  · next hempty => simp [hempty]
  · next hnonempty =>
      simp only [hnonempty, not_false_eq_true, ne_eq, true_and]
      constructor
      · intro h
        obtain ⟨kind, hkind, hread⟩ := List.exists_of_findSome?_eq_some h
        obtain ⟨captures, hcaptures, htarget⟩ := Option.bind_eq_some_iff.mp hread
        exact ⟨kind, hkind, captures, exec_regexOf_iff.mp hcaptures, htarget⟩
      · rintro ⟨kind, hkind, captures, hdenotes, htarget⟩
        induction order with
        | nil => exact absurd hkind List.not_mem_nil
        | cons first order ih =>
            by_cases hfirst : first = kind
            · subst hfirst
              simp [exec_regexOf_iff.mpr hdenotes, htarget]
            · have hnone : (regexOf names foldedNames first).exec (codePoints (trim rawTarget)) =
                  none := by
                rw [Option.eq_none_iff_forall_ne_some]
                intro others hothers
                exact hfirst (kind_unique (Option.isSome_iff_exists.mpr ⟨others, hothers⟩)
                  (Option.isSome_iff_exists.mpr ⟨captures, exec_regexOf_iff.mpr hdenotes⟩))
              rw [List.findSome?_cons, hnone]
              exact ih ((List.mem_cons.mp hkind).resolve_left (Ne.symm hfirst))

theorem parseInOrder_perm {order : List RaftRefKind} (h : order.Perm testOrder)
    (rawTarget : JsString) :
    parseInOrder names foldedNames order rawTarget =
      parseRaftRefTarget names foldedNames rawTarget := by
  refine Option.ext fun target => ?_
  rw [parseRaftRefTarget, parseInOrder_eq_some_iff, parseInOrder_eq_some_iff]
  simp only [h.mem_iff]

end

/-! ## Canonical texts -/

theorem trim_unitsOf {unit : CodeUnit} (hunit : isWhiteSpace unit = false)
    (rest : List CodePoint) {last : List CodePoint} (hnonempty : last ≠ [])
    (hlast : ∀ symbol ∈ last, plain symbol = true ∧ symbol.Whole) :
    trim (unitsOf (.single unit :: (rest ++ last))) = unitsOf (.single unit :: (rest ++ last)) := by
  have hunits := unitsOf_ne_nil hnonempty
  have hsplit : unitsOf (.single unit :: (rest ++ last)) =
      unitsOf (.single unit :: rest) ++ unitsOf last := by
    rw [← unitsOf_append, List.cons_append]
  refine trim_eq_self ?_ ?_
  · intro first hfirst
    obtain rfl := Option.some.inj hfirst
    exact hunit
  · intro final hfinal
    rw [hsplit, List.getLast?_append_of_ne_nil _ hunits] at hfinal
    exact getLast?_unitsOf (fun symbol h => (hlast symbol h).2)
      (fun symbol h => isSpace_eq_false_of_plain (hlast symbol h).1) hfinal

def canonicalThread : Option (List CodePoint) → List CodePoint
  | none => []
  | some threadShortId => colon :: threadShortId

def canonicalMessage : Option (List CodePoint) → List CodePoint
  | none => []
  | some messageId => .single 0x20 :: ((js "msg=").map .single ++ messageId)

def canonicalConversation (head : JsString) (text : List CodePoint)
    (threadShortId messageId : Option (List CodePoint)) : List CodePoint :=
  head.map .single ++ (text ++ (canonicalThread threadShortId ++ canonicalMessage messageId))

theorem partText_canonicalThread {threadShortId : Option (List CodePoint)}
    {threadText : List CodePoint} (h : PartText ThreadText threadShortId threadText) :
    PartText ThreadText threadShortId (canonicalThread threadShortId) ∧
      ∀ symbol ∈ canonicalThread threadShortId, symbol.Whole := by
  cases threadShortId with
  | none => exact ⟨rfl, by simp [canonicalThread]⟩
  | some threadShortId =>
      obtain ⟨-, hid⟩ := h
      refine ⟨⟨rfl, hid⟩, List.forall_mem_cons.mpr ⟨?_, fun symbol h => (hid.plain h).2⟩⟩
      exact show isHighSurrogate _ = false by decide

theorem partText_canonicalMessage {messageId : Option (List CodePoint)}
    {messageText : List CodePoint} (h : PartText MessageText messageId messageText) :
    PartText MessageText messageId (canonicalMessage messageId) ∧
      ∀ symbol ∈ canonicalMessage messageId, symbol.Whole := by
  cases messageId with
  | none => exact ⟨rfl, by simp [canonicalMessage]⟩
  | some messageId =>
      obtain ⟨-, -, -, -, -, -, hid⟩ := h
      refine ⟨⟨[.single 0x20], (js "msg=").map .single, rfl, by simp, by decide, rfl, hid⟩,
        List.forall_mem_cons.mpr ⟨show isHighSurrogate _ = false by decide, ?_⟩⟩
      refine List.forall_mem_append.mpr ⟨?_, fun symbol h => (hid.plain h).2⟩
      simp only [List.mem_map]
      rintro _ ⟨unit, hunit, rfl⟩
      exact whole_single (by
        have hall : (js "msg=").all (fun unit => !isHighSurrogate unit) = true := rfl
        simpa [CodePoint.Whole] using List.all_eq_true.mp hall unit hunit)

theorem whole_literal {text : JsString}
    (h : text.all (fun unit => !isHighSurrogate unit) = true) :
    ∀ symbol ∈ text.map CodePoint.single, symbol.Whole := by
  intro symbol hsymbol
  obtain ⟨unit, hunit, rfl⟩ := List.mem_map.mp hsymbol
  have hsingle := List.all_eq_true.mp h unit hunit
  simpa [CodePoint.Whole] using hsingle

structure ReadsBack (names foldedNames : NameSymbols) (kind : RaftRefKind) (text : JsString)
    (target : RaftRefTarget) : Prop where
  reads : ∃ symbols captures, unitsOf symbols = text ∧ (∀ symbol ∈ symbols, symbol.Whole) ∧
    (regexOf names foldedNames kind).Denotes symbols [] captures ∧
    targetOf kind captures = some target
  trimmed : trim text = text
  nonempty : text ≠ []

theorem ReadsBack.parse {names foldedNames : NameSymbols} {kind : RaftRefKind} {text : JsString}
    {target : RaftRefTarget} (h : ReadsBack names foldedNames kind text target) :
    parseRaftRefTarget names foldedNames text = some target := by
  obtain ⟨symbols, captures, rfl, hwhole, hdenotes, htarget⟩ := h.reads
  refine parseInOrder_eq_some_iff.mpr ⟨by rw [h.trimmed]; exact h.nonempty, kind, ?_, captures, ?_⟩
  · cases kind <;> decide
  · rw [h.trimmed, codePoints_unitsOf hwhole]
    exact ⟨hdenotes, htarget⟩

theorem Conversation.canonical {unit : CodeUnit} {units : JsString} {name : Pattern CodePoint}
    {Name : List CodePoint → Prop} (hname : IsName name Name) {thread message : Presence}
    {symbols text : List CodePoint} {threadShortId messageId : Option (List CodePoint)}
    (h : Conversation (unit :: units) Name thread message symbols text threadShortId messageId)
    (hpairs : ∀ high low, CodePoint.pair high low ∈ symbols →
      isHighSurrogate high = true ∧ isLowSurrogate low = true)
    (hhead : (unit :: units).map (CodePoint.fold ∘ CodePoint.single) =
      (unit :: units).map .single)
    (hhigh : (unit :: units).all (fun unit => !isHighSurrogate unit) = true)
    (hsolid : isWhiteSpace unit = false) :
    Conversation (unit :: units) Name thread message
        (canonicalConversation (unit :: units) text threadShortId messageId)
        text threadShortId messageId ∧
      (∀ symbol ∈ canonicalConversation (unit :: units) text threadShortId messageId,
        symbol.Whole) ∧
      trim (unitsOf (canonicalConversation (unit :: units) text threadShortId messageId)) =
        unitsOf (canonicalConversation (unit :: units) text threadShortId messageId) := by
  obtain ⟨hnamed, hthreadAllowed, hmessageAllowed, first, threadText, messageText, rfl, -, hthread,
    hmessage⟩ := h
  have htext : ∀ symbol ∈ text, plain symbol = true ∧ symbol.Whole := by
    intro symbol hsymbol
    refine ⟨hname.plain text hnamed symbol hsymbol, ?_⟩
    cases symbol with
    | single unit => exact hname.single text hnamed unit hsymbol
    | pair high low => exact hpairs high low (by simp [hsymbol])
  obtain ⟨hthreadText, hthreadWhole⟩ := partText_canonicalThread hthread
  obtain ⟨hmessageText, hmessageWhole⟩ := partText_canonicalMessage hmessage
  refine ⟨⟨hnamed, hthreadAllowed, hmessageAllowed, _, _, _, rfl, by rw [List.map_map, hhead],
    hthreadText, hmessageText⟩, ?_, ?_⟩
  · exact List.forall_mem_append.mpr ⟨whole_literal hhigh, List.forall_mem_append.mpr
      ⟨fun symbol h => (htext symbol h).2, List.forall_mem_append.mpr
        ⟨hthreadWhole, hmessageWhole⟩⟩⟩
  -- The last part that is present ends the text.
  · cases messageId with
    | some messageId =>
        obtain ⟨-, -, -, -, -, -, hid⟩ := hmessage
        have hne : messageId ≠ [] := by
          obtain ⟨first, rest, rfl, -⟩ := hid
          simp
        have hsplit : canonicalConversation (unit :: units) text threadShortId (some messageId) =
            .single unit :: ((units.map .single ++ (text ++ (canonicalThread threadShortId ++
              .single 0x20 :: (js "msg=").map .single))) ++ messageId) := by
          simp [canonicalConversation, canonicalMessage]
        rw [hsplit]
        exact trim_unitsOf hsolid _ hne fun symbol h => hid.plain h
    | none =>
        cases threadShortId with
        | some threadShortId =>
            obtain ⟨-, hid⟩ := hthread
            have hne : threadShortId ≠ [] := by
              rintro rfl
              exact absurd hid.2.1 (by simp)
            have hsplit : canonicalConversation (unit :: units) text (some threadShortId) none =
                .single unit :: ((units.map .single ++ (text ++ [colon])) ++ threadShortId) := by
              simp [canonicalConversation, canonicalMessage, canonicalThread]
            rw [hsplit]
            exact trim_unitsOf hsolid _ hne fun symbol h => hid.plain h
        | none =>
            have hsplit : canonicalConversation (unit :: units) text none none =
                .single unit :: (units.map .single ++ text) := by
              simp [canonicalConversation, canonicalMessage, canonicalThread]
            rw [hsplit]
            exact trim_unitsOf hsolid _ (hname.nonempty text hnamed) htext

theorem unitsOf_canonicalThread {threadShortId : Option (List CodePoint)}
    {threadText : List CodePoint} (h : PartText ThreadText threadShortId threadText) :
    unitsOf (canonicalThread threadShortId) = threadSuffix (threadShortId.map unitsOf) := by
  cases threadShortId with
  | none => rfl
  | some threadShortId =>
      obtain ⟨-, hid⟩ := h
      have hne : threadShortId ≠ [] := by
        rintro rfl
        exact absurd hid.2.1 (by simp)
      rw [Option.map_some, threadSuffix, if_neg (unitsOf_ne_nil hne)]
      rfl

theorem unitsOf_canonicalMessage (messageId : List CodePoint) :
    unitsOf (canonicalMessage (some messageId)) = js " msg=" ++ unitsOf messageId := by
  have hsplit : canonicalMessage (some messageId) =
      (js " msg=").map .single ++ messageId := rfl
  rw [hsplit, unitsOf_append, unitsOf_map_unit]

section

variable {names foldedNames : NameSymbols} {rawTarget : JsString}

theorem readsBack_conversation {unit : CodeUnit} {units : JsString} {name : Pattern CodePoint}
    {Name : List CodePoint → Prop} (hname : IsName name Name) {thread message : Presence}
    {kind : RaftRefKind}
    (hregex : regexOf names foldedNames kind =
      conversationRegex (unit :: units) name thread message)
    {captures : Captures CodePoint} {target : RaftRefTarget}
    (h : (regexOf names foldedNames kind).Denotes (codePoints rawTarget) [] captures)
    (htarget : targetOf kind captures = some target)
    (hhead : (unit :: units).map (CodePoint.fold ∘ CodePoint.single) =
      (unit :: units).map .single)
    (hhigh : (unit :: units).all (fun unit => !isHighSurrogate unit) = true)
    (hsolid : isWhiteSpace unit = false) :
    ∃ text threadShortId messageId,
      captures = some text :: (thread.captures threadShortId ++ message.captures messageId) ∧
      thread.Allows threadShortId ∧ message.Allows messageId ∧ threadShortId ≠ some [] ∧
      ReadsBack names foldedNames kind
        ((unit :: units) ++ unitsOf text ++ threadSuffix (threadShortId.map unitsOf) ++
          unitsOf (canonicalMessage messageId)) target := by
  rw [hregex] at h
  obtain ⟨text, threadShortId, messageId, hconversation, rfl⟩ :=
    (denotes_conversationRegex hname).mp h
  obtain ⟨hcanonical, hwhole, htrim⟩ := hconversation.canonical hname
    (fun high low hmem => pair_of_mem_codePoints hmem) hhead hhigh hsolid
  have htexts : unitsOf (canonicalConversation (unit :: units) text threadShortId messageId) =
      (unit :: units) ++ unitsOf text ++ threadSuffix (threadShortId.map unitsOf) ++
        unitsOf (canonicalMessage messageId) := by
    obtain ⟨-, -, -, -, _, _, -, -, hthread, -⟩ := hconversation
    rw [canonicalConversation, unitsOf_append, unitsOf_append, unitsOf_append,
      unitsOf_map_unit, unitsOf_canonicalThread hthread, List.append_assoc, List.append_assoc]
  have hthreadId : threadShortId ≠ some [] := by
    rintro rfl
    obtain ⟨-, -, -, -, _, _, -, -, ⟨-, hid⟩, -⟩ := hconversation
    exact absurd hid.2.1 (by simp)
  refine ⟨text, threadShortId, messageId, rfl, hconversation.threadAllowed,
    hconversation.messageAllowed, hthreadId, ?_⟩
  rw [← htexts]
  refine ⟨⟨_, _, rfl, hwhole, ?_, htarget⟩, htrim, unitsOf_ne_nil (by simp [canonicalConversation])⟩
  rw [hregex]
  exact (denotes_conversationRegex hname).mpr ⟨text, threadShortId, messageId, hcanonical, rfl⟩

theorem readsBack_head {unit : CodeUnit} {units : JsString} {text : List CodePoint}
    {kind : RaftRefKind} {captures : Captures CodePoint} {target : RaftRefTarget}
    (hhigh : (unit :: units).all (fun unit => !isHighSurrogate unit) = true)
    (hsolid : isWhiteSpace unit = false) (hnonempty : text ≠ [])
    (htext : ∀ symbol ∈ text, plain symbol = true ∧ symbol.Whole)
    (hdenotes : (regexOf names foldedNames kind).Denotes
      ((unit :: units).map .single ++ text) [] captures)
    (htarget : targetOf kind captures = some target) :
    ReadsBack names foldedNames kind ((unit :: units) ++ unitsOf text) target := by
  have htexts : unitsOf ((unit :: units).map .single ++ text) =
      (unit :: units) ++ unitsOf text := by
    rw [unitsOf_append, unitsOf_map_unit]
  refine ⟨⟨_, captures, htexts, ?_, hdenotes, htarget⟩, ?_, by simp⟩
  · exact List.forall_mem_append.mpr ⟨whole_literal hhigh, fun symbol h => (htext symbol h).2⟩
  · rw [← htexts]
    exact trim_unitsOf hsolid (units.map .single) hnonempty htext

end

/-! ## Identifiers -/

theorem ne_nil_of_minLength {pattern : Pattern CodePoint} (hmin : 0 < pattern.minLength)
    {text rest : List CodePoint} {captures : Captures CodePoint}
    (h : pattern.Denotes text rest captures) : text ≠ [] := by
  rintro rfl
  exact absurd (minLength_le h) (Nat.not_le_of_lt hmin)

theorem printable_lowerOrDigit : Printable isLowerOrDigit := by
  intro n
  simp only [isLowerOrDigit, Bool.or_eq_true, Bool.and_eq_true, decide_eq_true_eq]
  omega

theorem appId_solid {text rest : List CodePoint} {captures : Captures CodePoint}
    (h : RAFT_REF_APP_ID_PATTERN.Denotes text rest captures) :
    ∀ symbol ∈ text, plain symbol = true ∧ symbol.Whole := by
  have hletter : Printable fun n => 0x61 ≤ n && n ≤ 0x7A := by
    intro n
    simp only [Bool.and_eq_true, decide_eq_true_eq]
    omega
  have hsegment : appSegment.All fun set => ∀ c, set c = true → plain c = true ∧ c.Whole :=
    ⟨fun c => plain_of_inAscii hletter, fun c => plain_of_inAscii printable_lowerOrDigit⟩
  have hdot : ∀ c, literalSymbol 0x2E c = true → plain c = true ∧ c.Whole := by
    intro c hc
    rw [literalSymbol, decide_eq_true_eq] at hc
    subst hc
    exact ⟨by decide, show isHighSurrogate _ = false by decide⟩
  have hsets : RAFT_REF_APP_ID_PATTERN.All
      fun set => ∀ c, set c = true → plain c = true ∧ c.Whole :=
    ⟨hsegment, ⟨hdot, trivial⟩, hsegment⟩
  exact forall_mem_of_denotes hsets h

def lowerSymbol : CodePoint → CodePoint
  | .single unit => .single (lowerUnit unit)
  | .pair high low => .pair (lowerUnit high) (lowerUnit low)

theorem unitsOf_map_lowerSymbol (text : List CodePoint) :
    unitsOf (text.map lowerSymbol) = (unitsOf text).map lowerUnit := by
  induction text with
  | nil => rfl
  | cons symbol text ih =>
      have hcons : ∀ symbol text, unitsOf (symbol :: text) = symbol.units ++ unitsOf text :=
        fun _ _ => List.flatMap_cons
      rw [List.map_cons, hcons, hcons, ih, List.map_append]
      cases symbol <;> rfl

theorem lowerUnit_lowerUnit (unit : CodeUnit) : lowerUnit (lowerUnit unit) = lowerUnit unit := by
  refine Fin.ext ?_
  rw [lowerUnit_val, lowerUnit_val]
  split_ifs <;> omega

theorem foldUnit_lowerUnit (unit : CodeUnit) :
    CodePoint.foldUnit (lowerUnit unit) = CodePoint.foldUnit unit := by
  refine Fin.ext ?_
  rw [foldUnit_val, foldUnit_val, lowerUnit_val]
  split_ifs <;> omega

theorem ignoringCase_lowerSymbol (set : Nat → Bool) (symbol : CodePoint) :
    ignoringCase set (lowerSymbol symbol) = ignoringCase set symbol := by
  cases symbol with
  | single unit => rw [ignoringCase, ignoringCase, lowerSymbol, CodePoint.fold,
      foldUnit_lowerUnit, CodePoint.fold]
  | pair high low => rfl

theorem foldedSymbol_lowerSymbol (unit : CodeUnit) (symbol : CodePoint) :
    foldedSymbol unit (lowerSymbol symbol) = foldedSymbol unit symbol := by
  cases symbol with
  | single other => rw [foldedSymbol, foldedSymbol, lowerSymbol, CodePoint.fold,
      foldUnit_lowerUnit, CodePoint.fold]
  | pair high low => simp [foldedSymbol, lowerSymbol, CodePoint.fold]

theorem computerId_all {P : (CodePoint → Bool) → Prop} (hhex : P hexSymbol)
    (hdash : P (foldedSymbol 0x2D))
    (hversion : P (ignoringCase fun n => 0x31 ≤ n && n ≤ 0x35))
    (hvariant : P (ignoringCase fun n => n = 0x38 || n = 0x39 || n = 0x61 || n = 0x62)) :
    RAFT_REF_COMPUTER_ID_PATTERN.All P :=
  ⟨hhex, ⟨hdash, trivial⟩, hhex, ⟨hdash, trivial⟩, hversion, hhex, ⟨hdash, trivial⟩, hvariant, hhex,
    ⟨hdash, trivial⟩, hhex⟩

theorem computerId_solid {text rest : List CodePoint} {captures : Captures CodePoint}
    (h : RAFT_REF_COMPUTER_ID_PATTERN.Denotes text rest captures) :
    ∀ symbol ∈ text, plain symbol = true ∧ symbol.Whole := by
  refine forall_mem_of_denotes (computerId_all (fun c => plain_of_ignoringCase printable_hex) ?_
    (fun c => plain_of_ignoringCase ?_) (fun c => plain_of_ignoringCase ?_)) h
  · intro c hc
    obtain rfl := (foldedSymbol_iff (by decide) (by decide)).mp hc
    exact ⟨by decide, show isHighSurrogate _ = false by decide⟩
  · intro n
    simp only [Bool.and_eq_true, decide_eq_true_eq]
    omega
  · intro n
    simp only [Bool.or_eq_true, decide_eq_true_eq]
    omega

theorem denotes_computerId_lower {text : List CodePoint}
    (h : RAFT_REF_COMPUTER_ID_PATTERN.Denotes text [] []) :
    RAFT_REF_COMPUTER_ID_PATTERN.Denotes (text.map lowerSymbol) [] [] :=
  Denotes.map (computerId_all (ignoringCase_lowerSymbol _) (foldedSymbol_lowerSymbol _)
    (ignoringCase_lowerSymbol _) (ignoringCase_lowerSymbol _)) h

/-! ## Task numbers -/

theorem safe_lt_doubleRange : maxSafeInteger < doubleRange := by
  have hpow : ∀ k, 53 ≤ k → maxSafeInteger < 2 ^ k := fun k hk =>
    lt_of_lt_of_le (by decide) (Nat.pow_le_pow_right (by decide) hk)
  rw [doubleRange]
  exact hpow _ (by decide)

theorem nearestDouble_of_safe {n : Nat} (h : n ≤ maxSafeInteger) :
    nearestDouble n = JsNumber.ofNat n := by
  have hlog : n.log2 - 52 = 0 := by
    rcases Nat.eq_zero_or_pos n with rfl | hpos
    · rfl
    · have hlt : n.log2 < 53 := (Nat.log2_lt (by omega)).mpr (lt_of_le_of_lt h (by decide))
      omega
  have hsmall : ¬ doubleRange ≤ n := Nat.not_le_of_lt (lt_of_le_of_lt h safe_lt_doubleRange)
  simp [nearestDouble, hlog, hsmall, Nat.mod_one]

theorem ofNat_injective : Function.Injective JsNumber.ofNat := by
  intro first second h
  exact_mod_cast JsNumber.finite.inj h

theorem pos_of_nearestDouble {m n : Nat} (hm : 1 ≤ m) (h : nearestDouble m = JsNumber.ofNat n) :
    1 ≤ n := by
  have hulp : 2 ^ (m.log2 - 52) ≤ m :=
    (Nat.pow_le_pow_right (by decide) (Nat.sub_le _ _)).trans (Nat.log2_self_le (by omega))
  have hsignificand : 1 ≤ m / 2 ^ (m.log2 - 52) := Nat.div_pos hulp (Nat.two_pow_pos _)
  simp only [nearestDouble] at h
  generalize hrounded : (if 2 * (m % 2 ^ (m.log2 - 52)) < 2 ^ (m.log2 - 52) ∨
      2 * (m % 2 ^ (m.log2 - 52)) = 2 ^ (m.log2 - 52) ∧ m / 2 ^ (m.log2 - 52) % 2 = 0
    then m / 2 ^ (m.log2 - 52) else m / 2 ^ (m.log2 - 52) + 1) = rounded at h
  have hpos : 1 ≤ rounded := by
    split at hrounded <;> omega
  split at h
  · exact absurd h (by simp [JsNumber.ofNat])
  · rw [← ofNat_injective h]
    exact Nat.mul_pos hpos (Nat.two_pow_pos _)

theorem isDigitSymbol_single {unit : CodeUnit} (h : isDigit unit = true) :
    ignoringCase (fun n => 0x30 ≤ n && n ≤ 0x39) (.single unit) = true := by
  have hfold : CodePoint.foldUnit unit = unit := by
    refine Fin.ext ?_
    simp only [isDigit, Bool.and_eq_true, decide_eq_true_eq] at h
    rw [foldUnit_val]
    split_ifs <;> omega
  rw [ignoringCase, CodePoint.fold, hfold]
  exact h

theorem single_of_digitRange {low high : Nat} (hhigh : high ≤ 0x39)
    {symbol : CodePoint} (h : ignoringCase (fun n => low ≤ n && n ≤ high) symbol = true) :
    ∃ unit : CodeUnit, symbol = .single unit ∧ low ≤ unit.val ∧ unit.val ≤ high := by
  cases symbol with
  | pair _ _ => simp [ignoringCase, CodePoint.fold, CodePoint.inAscii] at h
  | single unit =>
      simp only [ignoringCase, CodePoint.fold, CodePoint.inAscii, foldUnit_val, Bool.and_eq_true,
        decide_eq_true_eq] at h
      refine ⟨unit, rfl, ?_⟩
      split_ifs at h <;> omega

theorem decimalValue_pos_of_taskNumber {text rest : List CodePoint}
    {captures : Captures CodePoint}
    (h : RAFT_REF_TASK_NUMBER_PATTERN.Denotes text rest captures) :
    1 ≤ decimalValue (unitsOf text) := by
  obtain ⟨_, digits, _, _, rfl, rfl, ⟨⟨first, rfl, hfirst⟩, rfl⟩, -⟩ := h
  obtain ⟨unit, rfl, hlow, -⟩ := single_of_digitRange (by decide) hfirst
  have hcons : unitsOf ([.single unit] ++ digits) = unit :: unitsOf digits := rfl
  rw [hcons, decimalValue_cons]
  have hdigit : 1 ≤ digitValue unit := by
    rw [digitValue]
    omega
  exact (Nat.mul_pos hdigit (Nat.pow_pos (by decide))).trans_le (Nat.le_add_right _ _)

theorem denotes_decimalText {n : Nat} (hn : 1 ≤ n) :
    RAFT_REF_TASK_NUMBER_PATTERN.Denotes ((decimalText n).map .single) [] [] := by
  have hcanonical := isCanonicalDecimal_decimalText n
  have hvalue := decimalValue_decimalText n
  cases htext : decimalText n with
  | nil => simp [htext, isCanonicalDecimal] at hcanonical
  | cons unit rest =>
      rw [htext] at hcanonical hvalue
      simp only [isCanonicalDecimal, Bool.or_eq_true, Bool.and_eq_true, decide_eq_true_eq,
        List.isEmpty_iff] at hcanonical
      rcases hcanonical with ⟨hzero, rfl⟩ | ⟨⟨hdigit, hnonzero⟩, hrest⟩
      · have hunit : unit = 0x30 := Fin.ext hzero
        subst hunit
        exact absurd hvalue (by simpa [decimalValue, digitValue] using (by omega : 0 ≠ n))
      · refine ⟨[.single unit], rest.map .single, [], [], rfl, rfl, ⟨⟨_, rfl, ?_⟩, rfl⟩,
          denotes_rep_symbol.mpr ⟨?_, Nat.zero_le _, by simp, rfl⟩⟩
        · have hfold : CodePoint.foldUnit unit = unit := by
            refine Fin.ext ?_
            simp only [isDigit, Bool.and_eq_true, decide_eq_true_eq] at hdigit
            rw [foldUnit_val]
            split_ifs <;> omega
          simp only [isDigit, Bool.and_eq_true, decide_eq_true_eq] at hdigit
          simp only [ignoringCase, CodePoint.fold, hfold, CodePoint.inAscii, Bool.and_eq_true,
            decide_eq_true_eq]
          omega
        · intro symbol hsymbol
          obtain ⟨digit, hmem, rfl⟩ := List.mem_map.mp hsymbol
          exact isDigitSymbol_single (List.all_eq_true.mp hrest digit hmem)

theorem taskNumber_solid {text rest : List CodePoint} {captures : Captures CodePoint}
    (h : RAFT_REF_TASK_NUMBER_PATTERN.Denotes text rest captures) :
    ∀ symbol ∈ text, plain symbol = true ∧ symbol.Whole := by
  have hdigits : ∀ low high, 0x30 ≤ low → high ≤ 0x39 →
      Printable fun n => low ≤ n && n ≤ high := by
    intro low high hlow hhigh n
    simp only [Bool.and_eq_true, decide_eq_true_eq]
    omega
  have hsets : RAFT_REF_TASK_NUMBER_PATTERN.All
      fun set => ∀ c, set c = true → plain c = true ∧ c.Whole :=
    ⟨fun c => plain_of_ignoringCase (hdigits _ _ (by decide) (by decide)),
      fun c => plain_of_ignoringCase (hdigits _ _ (by decide) (by decide))⟩
  exact forall_mem_of_denotes hsets h

/-! ## The round trip -/

/-- A task target's number is one that a text denotes exactly. -/
def RaftRefTarget.HasSafeNumber : RaftRefTarget → Prop
  | .task taskNumber => ∃ n ≤ maxSafeInteger, taskNumber = JsNumber.ofNat n
  | _ => True

section

variable {names foldedNames : NameSymbols} {numberText : JsNumber → JsString}

theorem readsBack_of_denotes
    (hnumber : ∀ n ≤ maxSafeInteger, numberText (JsNumber.ofNat n) = decimalText n)
    {kind : RaftRefKind} {rawTarget : JsString} {captures : Captures CodePoint}
    {target : RaftRefTarget}
    (h : (regexOf names foldedNames kind).Denotes (codePoints rawTarget) [] captures)
    (htarget : targetOf kind captures = some target) (hsafe : target.HasSafeNumber) :
    ReadsBack names foldedNames kind (formatRaftRefTarget numberText target) target := by
  cases kind with
  | user =>
      obtain ⟨text, hsymbols, hname, rfl⟩ := (denotes_literalHead rfl).mp h
      obtain rfl := Option.some.inj htarget
      have hchannel := (((isName_channel names).denotes text [] [] (by simp)).mp hname).1
      refine @readsBack_head _ _ 0x40 [] text .user _ _ rfl (by decide) hchannel.2 ?_
        ((denotes_literalHead rfl).mpr ⟨text, rfl, hname, rfl⟩) rfl
      intro symbol hsymbol
      refine ⟨plain_of_nameSymbol (hchannel.1 symbol hsymbol), ?_⟩
      cases symbol with
      | single unit => exact (isName_channel names).single text hchannel unit hsymbol
      | pair high low => exact pair_of_mem_codePoints (hsymbols ▸ List.mem_append_right _ hsymbol)
  | app =>
      obtain ⟨text, -, hid, rfl⟩ := (denotes_literalHead rfl).mp h
      obtain rfl := Option.some.inj htarget
      exact @readsBack_head _ _ 0x61 [0x70, 0x70, 0x3A] text .app _ _ rfl (by decide)
        (ne_nil_of_minLength (by decide) hid) (appId_solid hid)
        ((denotes_literalHead rfl).mpr ⟨text, rfl, hid, rfl⟩) rfl
  | computer =>
      obtain ⟨_, text, -, -, hid, rfl⟩ := (denotes_foldedHead rfl).mp h
      obtain rfl := Option.some.inj htarget
      have hlower := denotes_computerId_lower hid
      have hreads := @readsBack_head names foldedNames 0x63
        [0x6F, 0x6D, 0x70, 0x75, 0x74, 0x65, 0x72, 0x3A] (text.map lowerSymbol) .computer _
        (.computer ((unitsOf text).map lowerUnit)) rfl (by decide)
        (ne_nil_of_minLength (by decide) hlower) (computerId_solid hlower)
        ((denotes_foldedHead rfl).mpr ⟨_, _, rfl, rfl, hlower, rfl⟩) ?_
      · rw [unitsOf_map_lowerSymbol] at hreads
        exact hreads
      · simp [targetOf, unitsOf_map_lowerSymbol, lowerUnit_lowerUnit]
  | task =>
      obtain ⟨_, _, _, text, -, -, -, -, -, hnumberText, rfl⟩ := denotes_task.mp h
      obtain rfl := Option.some.inj htarget
      obtain ⟨n, hn, hvalue⟩ := hsafe
      have hpos := pos_of_nearestDouble (decimalValue_pos_of_taskNumber hnumberText) hvalue
      have hdecimal := denotes_decimalText hpos
      have hreads := @readsBack_head names foldedNames 0x74 [0x61, 0x73, 0x6B, 0x20, 0x23]
        ((decimalText n).map .single) .task [some ((decimalText n).map .single)]
        (.task (nearestDouble (decimalValue (unitsOf text)))) rfl (by decide)
        (ne_nil_of_minLength (by decide) hdecimal) (taskNumber_solid hdecimal)
        (denotes_task.mpr ⟨(js "task").map .single, [.single 0x20], hash, _, rfl, rfl, by simp,
          by decide, rfl, hdecimal, rfl⟩) ?_
      · rw [unitsOf_map_unit, ← hnumber n hn, ← hvalue] at hreads
        exact hreads
      · simp only [targetOf, unitsOf_map_unit, decimalValue_decimalText, nearestDouble_of_safe hn,
          hvalue]
  | channel =>
      obtain ⟨text, _, _, rfl, rfl, rfl, -, hreads⟩ :=
        @readsBack_conversation names foldedNames _ 0x23 [] _ _ (isName_channel names) .absent
          .absent .channel rfl _ _ h htarget rfl rfl (by decide)
      obtain rfl := Option.some.inj htarget
      rw [canonicalMessage, unitsOf_nil, List.append_nil, Option.map_none, threadSuffix,
        List.append_nil] at hreads
      exact hreads
  | channelThread =>
      obtain ⟨text, threadShortId, _, rfl, hthread, rfl, hthreadId, hreads⟩ :=
        @readsBack_conversation names foldedNames _ 0x23 [] _ _ (isName_channel foldedNames)
          .required
          .absent .channelThread rfl _ _ h htarget rfl rfl (by decide)
      obtain ⟨threadShortId, rfl⟩ := Option.ne_none_iff_exists'.mp hthread
      obtain rfl := Option.some.inj htarget
      have hne : threadShortId ≠ [] := fun heq => hthreadId (congrArg some heq)
      rw [canonicalMessage, unitsOf_nil, List.append_nil, Option.map_some, threadSuffix,
        if_neg (unitsOf_ne_nil hne), ← List.append_assoc] at hreads
      exact hreads
  | message =>
      obtain ⟨text, threadShortId, messageId, rfl, -, hmessage, -, hreads⟩ :=
        @readsBack_conversation names foldedNames _ 0x23 [] _ _ (isName_channel foldedNames)
          .optional
          .required .message rfl _ _ h htarget rfl rfl (by decide)
      obtain ⟨messageId, rfl⟩ := Option.ne_none_iff_exists'.mp hmessage
      obtain rfl := Option.some.inj htarget
      rw [unitsOf_canonicalMessage, ← List.append_assoc] at hreads
      exact hreads
  | dm =>
      obtain ⟨text, _, _, rfl, rfl, rfl, -, hreads⟩ :=
        @readsBack_conversation names foldedNames _ 0x64 [0x6D, 0x3A, 0x40] _ _ isName_peer .absent
          .absent .dm rfl _ _ h htarget rfl rfl (by decide)
      obtain rfl := Option.some.inj htarget
      rw [canonicalMessage, unitsOf_nil, List.append_nil, Option.map_none, threadSuffix,
        List.append_nil] at hreads
      exact hreads
  | dmThread =>
      obtain ⟨text, threadShortId, _, rfl, hthread, rfl, hthreadId, hreads⟩ :=
        @readsBack_conversation names foldedNames _ 0x64 [0x6D, 0x3A, 0x40]
          _ _ isName_peer .required
          .absent .dmThread rfl _ _ h htarget rfl rfl (by decide)
      obtain ⟨threadShortId, rfl⟩ := Option.ne_none_iff_exists'.mp hthread
      obtain rfl := Option.some.inj htarget
      have hne : threadShortId ≠ [] := fun heq => hthreadId (congrArg some heq)
      rw [canonicalMessage, unitsOf_nil, List.append_nil, Option.map_some, threadSuffix,
        if_neg (unitsOf_ne_nil hne), ← List.append_assoc] at hreads
      exact hreads
  | dmMessage =>
      obtain ⟨text, threadShortId, messageId, rfl, -, hmessage, -, hreads⟩ :=
        @readsBack_conversation names foldedNames _ 0x64 [0x6D, 0x3A, 0x40]
          _ _ isName_peer .optional
          .required .dmMessage rfl _ _ h htarget rfl rfl (by decide)
      obtain ⟨messageId, rfl⟩ := Option.ne_none_iff_exists'.mp hmessage
      obtain rfl := Option.some.inj htarget
      rw [unitsOf_canonicalMessage, ← List.append_assoc] at hreads
      exact hreads

theorem parse_format
    (hnumber : ∀ n ≤ maxSafeInteger, numberText (JsNumber.ofNat n) = decimalText n)
    {rawTarget : JsString} {target : RaftRefTarget}
    (h : parseRaftRefTarget names foldedNames rawTarget = some target)
    (hsafe : target.HasSafeNumber) :
    parseRaftRefTarget names foldedNames (formatRaftRefTarget numberText target) =
      some target := by
  obtain ⟨-, kind, -, captures, hdenotes, htarget⟩ := parseInOrder_eq_some_iff.mp h
  exact (readsBack_of_denotes hnumber hdenotes htarget hsafe).parse

variable (names foldedNames) in
/-- Targets round-trip: canonical texts are fixed points and tell their targets apart, and no
order of the tests matters, since no text passes two of them. -/
theorem raftRefTarget_roundTrip
    (hnumber : ∀ n ≤ maxSafeInteger, numberText (JsNumber.ofNat n) = decimalText n) :
    (∀ rawTarget target, parseRaftRefTarget names foldedNames rawTarget = some target →
      target.HasSafeNumber →
        parseRaftRefTarget names foldedNames (formatRaftRefTarget numberText target) =
          some target) ∧
    (∀ rawTarget other target another,
      parseRaftRefTarget names foldedNames rawTarget = some target →
      parseRaftRefTarget names foldedNames other = some another →
      target.HasSafeNumber → another.HasSafeNumber →
      formatRaftRefTarget numberText target = formatRaftRefTarget numberText another →
        target = another) ∧
    (∀ text : JsString, trim text = text → ∀ kind other : RaftRefKind,
      ((regexOf names foldedNames kind).exec (codePoints text)).isSome = true →
      ((regexOf names foldedNames other).exec (codePoints text)).isSome = true → kind = other) ∧
    ∀ order : List RaftRefKind, order.Perm testOrder → ∀ rawTarget,
      parseInOrder names foldedNames order rawTarget =
        parseRaftRefTarget names foldedNames rawTarget := by
  refine ⟨fun rawTarget target h hsafe => parse_format hnumber h hsafe, ?_,
    fun text _ kind other => kind_unique, fun order => parseInOrder_perm⟩
  intro rawTarget other target another hparse hother hsafe hothers htexts
  have hfirst := parse_format hnumber hparse hsafe
  rw [htexts, parse_format hnumber hother hothers] at hfirst
  exact (Option.some.inj hfirst).symm

end

def asciiNames : NameSymbols where
  holds := CodePoint.inAscii fun n =>
    (0x30 ≤ n && n ≤ 0x39) || (0x41 ≤ n && n ≤ 0x5A) || (0x61 ≤ n && n ≤ 0x7A)
  ascii unit _ := rfl
  space symbol h := by
    cases symbol with
    | pair high low => rfl
    | single unit =>
        simp only [CodePoint.isSpace, isWhiteSpace, Bool.or_eq_true, Bool.and_eq_true,
          decide_eq_true_eq] at h
        simp only [CodePoint.inAscii, Bool.or_eq_false_iff, Bool.and_eq_false_iff,
          decide_eq_false_iff_not]
        omega
  surrogate unit h := by
    simp only [isHighSurrogate, Bool.and_eq_true, decide_eq_true_eq] at h
    simp only [CodePoint.inAscii, Bool.or_eq_false_iff, Bool.and_eq_false_iff,
      decide_eq_false_iff_not]
    omega

def naturalText : JsNumber → JsString
  | .finite value => decimalText value.num.toNat
  | _ => []

theorem naturalText_ofNat (n : Nat) : naturalText (JsNumber.ofNat n) = decimalText n := by
  simp [naturalText, JsNumber.ofNat]

theorem raftRefTarget_roundTrip_thread :
    parseRaftRefTarget asciiNames asciiNames (formatRaftRefTarget naturalText
        (.dmMessage (js "al~agent") (js "m1") (some (js "AbC123")))) =
      some (.dmMessage (js "al~agent") (js "m1") (some (js "AbC123"))) ∧
      parseRaftRefTarget asciiNames asciiNames (formatRaftRefTarget naturalText
        (.task (.ofNat 12))) = some (.task (.ofNat 12)) := by
  have hround := (raftRefTarget_roundTrip asciiNames asciiNames fun n _ => naturalText_ofNat n).1
  have hmessage : parseRaftRefTarget asciiNames asciiNames (js " DM:@al~agent:AbC123  MSG=m1") =
      some (.dmMessage (js "al~agent") (js "m1") (some (js "AbC123"))) := by decide +kernel
  have htask : parseRaftRefTarget asciiNames asciiNames (js "Task #12") =
      some (.task (.ofNat 12)) := by decide +kernel
  exact ⟨hround _ _ hmessage trivial, hround _ _ htask ⟨12, by simp [maxSafeInteger], rfl⟩⟩

end Raft.RaftRefs

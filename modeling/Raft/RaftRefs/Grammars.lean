import Raft.RaftRefs.Targets

/-!
# What the ten grammars accept

A target is a head, a name, and optional thread and message parts.  Names,
identifiers and hexadecimal texts hold no separator, so that the parts can be
read off the text; the grammar too, by its first symbol and its parts.
-/

namespace Raft.RaftRefs

open Raft.Foundation Pattern

/-! ## Separators -/

def colon : CodePoint := .single 0x3A

def equals : CodePoint := .single 0x3D

def plain (symbol : CodePoint) : Bool :=
  symbol ≠ colon && symbol ≠ equals && !symbol.isSpace

theorem isSpace_eq_false_of_plain {symbol : CodePoint} (h : plain symbol = true) :
    symbol.isSpace = false := by
  simp only [plain, Bool.and_eq_true, Bool.not_eq_true'] at h
  exact h.2

theorem ne_equals_of_plain {symbol : CodePoint} (h : plain symbol = true) : symbol ≠ equals := by
  simp only [plain, Bool.and_eq_true, decide_eq_true_eq] at h
  exact h.1.2

theorem lowerUnit_val (unit : CodeUnit) :
    (lowerUnit unit).val =
      if 0x41 ≤ unit.val ∧ unit.val ≤ 0x5A then unit.val + 0x20 else unit.val := by
  rw [lowerUnit]
  split
  · next h =>
      simp only [Fin.val_ofNat]
      omega
  · rfl

theorem foldUnit_val (unit : CodeUnit) :
    (CodePoint.foldUnit unit).val =
      if unit.val = 0x17F then 0x73
      else if unit.val = 0x212A then 0x6B
      else if 0x41 ≤ unit.val ∧ unit.val ≤ 0x5A then unit.val + 0x20 else unit.val := by
  rw [CodePoint.foldUnit]
  split
  · rfl
  split
  · rfl
  exact lowerUnit_val unit

theorem foldUnit_eq_iff {unit target : CodeUnit} (hletter : target.val < 0x61 ∨ 0x7A < target.val)
    (hself : CodePoint.foldUnit target = target) :
    CodePoint.foldUnit unit = target ↔ unit = target := by
  constructor
  · intro h
    have hval := congrArg Fin.val h
    rw [foldUnit_val] at hval
    refine Fin.ext ?_
    split at hval
    · omega
    split at hval
    · omega
    split at hval
    · omega
    exact hval
  · rintro rfl
    exact hself

theorem foldedSymbol_iff {symbol : CodePoint} {target : CodeUnit}
    (hletter : target.val < 0x61 ∨ 0x7A < target.val)
    (hself : CodePoint.foldUnit target = target) :
    foldedSymbol target symbol = true ↔ symbol = .single target := by
  cases symbol with
  | single unit =>
      simp only [foldedSymbol, CodePoint.fold, decide_eq_true_eq, CodePoint.single.injEq]
      exact foldUnit_eq_iff hletter hself
  | pair high low => simp [foldedSymbol, CodePoint.fold]

def Printable (set : Nat → Bool) : Prop :=
  ∀ n, set n = true → 0x20 < n ∧ n < 0x80 ∧ n ≠ 0x3A ∧ n ≠ 0x3D

theorem single_plain {unit : CodeUnit} (hlow : 0x20 < unit.val) (hhigh : unit.val < 0x80)
    (hcolon : unit.val ≠ 0x3A) (hequals : unit.val ≠ 0x3D) : plain (.single unit) = true := by
  have hne : ∀ target : CodeUnit, unit.val ≠ target.val → CodePoint.single unit ≠ .single target :=
    fun target h heq => h (congrArg Fin.val (CodePoint.single.inj heq))
  simp only [plain, CodePoint.isSpace, isWhiteSpace, Bool.and_eq_true, decide_eq_true_eq,
    Bool.not_eq_true', Bool.or_eq_false_iff, Bool.and_eq_false_iff, decide_eq_false_iff_not]
  refine ⟨⟨hne 0x3A hcolon, hne 0x3D hequals⟩, ?_⟩
  omega

theorem plain_of_ignoringCase {set : Nat → Bool} (hset : Printable set) {symbol : CodePoint}
    (h : ignoringCase set symbol = true) : plain symbol = true ∧ symbol.Whole := by
  cases symbol with
  | pair high low => simp [ignoringCase, CodePoint.fold, CodePoint.inAscii] at h
  | single unit =>
      obtain ⟨hlow, hhigh, hcolon, hequals⟩ := hset _ h
      rw [foldUnit_val] at hlow hhigh hcolon hequals
      split at hlow
      · next hval =>
          have hunit : unit = 0x17F := Fin.ext hval
          subst hunit
          exact ⟨by decide, show isHighSurrogate _ = false by decide⟩
      split at hlow
      · next hval =>
          have hunit : unit = 0x212A := Fin.ext hval
          subst hunit
          exact ⟨by decide, show isHighSurrogate _ = false by decide⟩
      have hbound : 0x20 < unit.val ∧ unit.val < 0x80 ∧ unit.val ≠ 0x3A ∧ unit.val ≠ 0x3D := by
        split_ifs at hlow hhigh hcolon hequals <;> omega
      refine ⟨single_plain hbound.1 hbound.2.1 hbound.2.2.1 hbound.2.2.2, ?_⟩
      simp only [CodePoint.Whole, isHighSurrogate, Bool.and_eq_false_iff, decide_eq_false_iff_not]
      omega

theorem plain_of_inAscii {set : Nat → Bool} (hset : Printable set) {symbol : CodePoint}
    (h : symbol.inAscii set = true) : plain symbol = true ∧ symbol.Whole := by
  cases symbol with
  | pair high low => simp [CodePoint.inAscii] at h
  | single unit =>
      obtain ⟨hlow, hhigh, hcolon, hequals⟩ := hset _ h
      refine ⟨single_plain hlow hhigh hcolon hequals, ?_⟩
      simp only [CodePoint.Whole, isHighSurrogate, Bool.and_eq_false_iff, decide_eq_false_iff_not]
      omega

/-! ## Names -/

/-- What a name pattern accepts before a separator or the end. -/
structure IsName (name : Pattern CodePoint) (Name : List CodePoint → Prop) : Prop where
  denotes : ∀ text rest captures, (∀ symbol, rest.head? = some symbol → plain symbol = false) →
    (name.Denotes text rest captures ↔ Name text ∧ captures = [])
  plain : ∀ text, Name text → ∀ symbol ∈ text, plain symbol = true
  nonempty : ∀ text, Name text → text ≠ []
  /-- No lone high surrogate. -/
  single : ∀ text, Name text → ∀ unit, CodePoint.single unit ∈ text →
    isHighSurrogate unit = false

def IsChannelName (names : NameSymbols) (text : List CodePoint) : Prop :=
  (∀ symbol ∈ text, nameSymbol names symbol = true) ∧ text ≠ []

theorem plain_of_nameSymbol {names : NameSymbols} {symbol : CodePoint}
    (h : nameSymbol names symbol = true) : plain symbol = true := by
  simp only [nameSymbol, Bool.or_eq_true, decide_eq_true_eq] at h
  rcases h with (h | rfl) | rfl
  · have hsolid : symbol.isSpace = false := by
      by_contra hspace
      rw [names.space symbol (by simpa using hspace)] at h
      exact absurd h (by decide)
    have hne : ∀ unit : CodeUnit, unit.val < 0x80 →
        (isDigit unit || (0x41 ≤ unit.val && unit.val ≤ 0x5A) ||
          (0x61 ≤ unit.val && unit.val ≤ 0x7A)) = false → symbol ≠ .single unit := by
      rintro unit hascii hother rfl
      rw [names.ascii unit hascii, hother] at h
      exact absurd h (by decide)
    simp only [plain, hsolid, Bool.and_eq_true, decide_eq_true_eq, Bool.not_false, and_true]
    exact ⟨hne 0x3A (by decide) (by decide), hne 0x3D (by decide) (by decide)⟩
  · decide
  · decide

theorem isName_channel (names : NameSymbols) :
    IsName (RAFT_REF_CHANNEL_NAME_PATTERN names) (IsChannelName names) where
  denotes text rest captures _ := by
    simp only [RAFT_REF_CHANNEL_NAME_PATTERN, denotes_rep_symbol, IsChannelName,
      Nat.one_le_iff_ne_zero, ne_eq, List.length_eq_zero_iff]
    simp [and_assoc]
  plain text h symbol hsymbol := plain_of_nameSymbol (h.1 symbol hsymbol)
  nonempty text h := h.2
  single text h unit hunit := by
    by_contra hhigh
    have hhigh : isHighSurrogate unit = true := by simpa using hhigh
    have hname := h.1 _ hunit
    simp only [nameSymbol, names.surrogate unit hhigh, Bool.false_or, Bool.or_eq_true,
      decide_eq_true_eq, CodePoint.single.injEq] at hname
    rcases hname with rfl | rfl <;> exact absurd hhigh (by decide)

def IsPeerKind (text : List CodePoint) : Prop :=
  text.map CodePoint.fold = (js "~agent").map .single ∨
    text.map CodePoint.fold = (js "~human").map .single

def IsPeerName (text : List CodePoint) : Prop :=
  ∃ base kind, text = base ++ kind ∧ (∀ symbol ∈ base, peerSymbol symbol = true) ∧ base ≠ [] ∧
    (kind = [] ∨ IsPeerKind kind)

theorem printable_peer : Printable fun n =>
    isLowerOrDigit n || n = 0x5F || n = 0x2E || n = 0x7E || n = 0x2D := by
  intro n
  simp only [isLowerOrDigit, Bool.or_eq_true, Bool.and_eq_true, decide_eq_true_eq]
  omega

theorem peerContinuation_of_peerSymbol {symbol : CodePoint} (h : peerSymbol symbol = true) :
    peerContinuation symbol = true := by
  rw [peerSymbol, ignoringCase] at h
  rw [peerContinuation, ignoringCase]
  cases hfold : symbol.fold with
  | single unit =>
      simp only [hfold, CodePoint.inAscii, Bool.or_eq_true] at h ⊢
      tauto
  | pair high low => simp [hfold, CodePoint.inAscii] at h

theorem peerContinuation_of_kind {kind : List CodePoint} (h : IsPeerKind kind)
    {symbol : CodePoint} (hsymbol : symbol ∈ kind) : peerContinuation symbol = true := by
  have hword : ∀ text : JsString, text.all (fun unit => isLowerOrDigit unit.val ||
      unit.val = 0x5F || unit.val = 0x2E || unit.val = 0x7E || unit.val = 0x2D) = true →
      kind.map CodePoint.fold = text.map .single → peerContinuation symbol = true := by
    intro text htext hkind
    have hfold : symbol.fold ∈ text.map CodePoint.single := hkind ▸ List.mem_map_of_mem hsymbol
    obtain ⟨unit, hunit, heq⟩ := List.mem_map.mp hfold
    rw [peerContinuation, ignoringCase, ← heq]
    exact List.all_eq_true.mp htext unit hunit
  rcases h with h | h
  · exact hword _ rfl h
  · exact hword _ rfl h

theorem IsPeerName.continuation {text : List CodePoint} (h : IsPeerName text)
    {symbol : CodePoint} (hsymbol : symbol ∈ text) : peerContinuation symbol = true := by
  obtain ⟨base, kind, rfl, hbase, -, hkind⟩ := h
  rcases List.mem_append.mp hsymbol with hmem | hmem
  · exact peerContinuation_of_peerSymbol (hbase symbol hmem)
  · rcases hkind with rfl | hkind
    · exact absurd hmem List.not_mem_nil
    · exact peerContinuation_of_kind hkind hmem

theorem peerKind_of_denotes {kind rest : List CodePoint} {captures : Captures CodePoint}
    (h : (opt (seq (foldedLiteral (js "~")) (alt (foldedLiteral (js "agent"))
      (foldedLiteral (js "human"))))).Denotes kind rest captures) :
    (kind = [] ∨ IsPeerKind kind) ∧ captures = [] := by
  rcases denotes_opt.mp h with ⟨rfl, rfl⟩ | ⟨-, h⟩
  · exact ⟨.inl rfl, rfl⟩
  obtain ⟨tilde, word, _, _, rfl, rfl, hfirst, hsecond⟩ := h
  obtain ⟨htilde, rfl⟩ := denotes_foldedLiteral.mp hfirst
  rcases hsecond with ⟨inner, rfl, hsecond⟩ | ⟨inner, rfl, hsecond⟩
  · obtain ⟨hword, rfl⟩ := denotes_foldedLiteral.mp hsecond
    exact ⟨.inr (.inl (by rw [List.map_append, htilde, hword]; rfl)), rfl⟩
  · obtain ⟨hword, rfl⟩ := denotes_foldedLiteral.mp hsecond
    exact ⟨.inr (.inr (by rw [List.map_append, htilde, hword]; rfl)), rfl⟩

theorem denotes_peerKind {kind rest : List CodePoint} (h : kind = [] ∨ IsPeerKind kind) :
    (opt (seq (foldedLiteral (js "~")) (alt (foldedLiteral (js "agent"))
      (foldedLiteral (js "human"))))).Denotes kind rest [] := by
  rcases h with rfl | h
  · exact denotes_opt.mpr (.inl ⟨rfl, rfl⟩)
  · cases kind with
    | nil => rcases h with h | h <;> simp [js, utf16] at h
    | cons tilde word =>
        refine denotes_opt.mpr (.inr ⟨by simp, [tilde], word, [], [], rfl, rfl, ?_, ?_⟩)
        · refine denotes_foldedLiteral.mpr ⟨?_, rfl⟩
          rcases h with h | h <;> exact congrArg (List.take 1) h
        · rcases h with h | h
          · exact .inl ⟨[], rfl, denotes_foldedLiteral.mpr ⟨congrArg (List.drop 1) h, rfl⟩⟩
          · exact .inr ⟨[], rfl, denotes_foldedLiteral.mpr ⟨congrArg (List.drop 1) h, rfl⟩⟩

theorem whole_single {unit : CodeUnit} (h : (CodePoint.single unit).Whole) :
    isHighSurrogate unit = false := h

theorem isName_peer : IsName RAFT_REF_DM_PEER_PATTERN IsPeerName where
  denotes text rest captures hrest := by
    have hahead : ∀ symbol, rest.head? = some symbol → peerContinuation symbol = false := by
      intro symbol hsymbol
      cases hcontinues : peerContinuation symbol with
      | false => rfl
      | true =>
          have hplain := (plain_of_ignoringCase printable_peer hcontinues).1
          exact absurd (hrest symbol hsymbol) (by simp [hplain])
    constructor
    · rintro ⟨base, _, _, _, rfl, rfl, hbase, kind, _, inner, _, rfl, rfl, hkind, rfl, rfl, -⟩
      obtain ⟨hall, hnonempty, -, rfl⟩ := denotes_rep_symbol.mp hbase
      have hpeer := peerKind_of_denotes hkind
      refine ⟨⟨base, kind, by simp, hall, List.length_pos_iff.mp hnonempty, hpeer.1⟩, ?_⟩
      rw [hpeer.2]
      rfl
    · rintro ⟨⟨base, kind, rfl, hall, hnonempty, hkind⟩, rfl⟩
      refine ⟨base, kind, [], [], rfl, rfl, denotes_rep_symbol.mpr
        ⟨hall, List.length_pos_iff.mpr hnonempty, by simp, rfl⟩, ?_⟩
      exact ⟨kind, [], [], [], by simp, rfl, denotes_peerKind hkind, rfl, rfl, hahead⟩
  plain text h symbol hsymbol := (plain_of_ignoringCase printable_peer (h.continuation hsymbol)).1
  nonempty text h := by
    obtain ⟨base, kind, rfl, -, hbase, -⟩ := h
    exact List.append_ne_nil_of_left_ne_nil hbase kind
  single text h unit hunit :=
    whole_single (plain_of_ignoringCase printable_peer (h.continuation hunit)).2

/-! ## Conversations -/

def IsThreadId (text : List CodePoint) : Prop :=
  (∀ symbol ∈ text, hexSymbol symbol = true) ∧ 6 ≤ text.length ∧ text.length ≤ 8

def IsMessageId (text : List CodePoint) : Prop :=
  ∃ first rest, text = first :: rest ∧ ignoringCase isLowerOrDigit first = true ∧
    (∀ symbol ∈ rest, ignoringCase (fun n => isLowerOrDigit n || n = 0x2D) symbol = true) ∧
    1 ≤ rest.length ∧ rest.length ≤ 63

def ThreadText (threadShortId text : List CodePoint) : Prop :=
  text = colon :: threadShortId ∧ IsThreadId threadShortId

def MessageText (messageId text : List CodePoint) : Prop :=
  ∃ space mark, text = space ++ (mark ++ messageId) ∧ space ≠ [] ∧
    (∀ symbol ∈ space, symbol.isSpace = true) ∧
    mark.map CodePoint.fold = (js "msg=").map .single ∧ IsMessageId messageId

def Presence.Allows : Presence → Option (List CodePoint) → Prop
  | absent, part => part = none
  | optional, _ => True
  | required, part => part ≠ none

def Presence.captures : Presence → Option (List CodePoint) → Captures CodePoint
  | absent, _ => []
  | optional, part | required, part => [part]

def PartText (Text : List CodePoint → List CodePoint → Prop) :
    Option (List CodePoint) → List CodePoint → Prop
  | none, text => text = []
  | some part, text => Text part text

theorem denotes_presence {presence : Presence} {part : Pattern CodePoint}
    {Text : List CodePoint → List CodePoint → Prop}
    (hgroups : part.groups = 1) (hnonempty : ∀ inner, ¬ Text inner [])
    (hpart : ∀ text rest captures, part.Denotes text rest captures ↔
      ∃ inner, Text inner text ∧ captures = [some inner])
    (text rest : List CodePoint) (captures : Captures CodePoint) :
    (presence.pattern part).Denotes text rest captures ↔
      ∃ inner, presence.Allows inner ∧ PartText Text inner text ∧
        captures = presence.captures inner := by
  cases presence with
  | absent =>
      constructor
      · rintro ⟨rfl, rfl⟩
        exact ⟨none, rfl, rfl, rfl⟩
      · rintro ⟨_, rfl, rfl, rfl⟩
        exact ⟨rfl, rfl⟩
  | required =>
      constructor
      · intro h
        obtain ⟨inner, htext, rfl⟩ := (hpart _ _ _).mp h
        exact ⟨some inner, Option.some_ne_none _, htext, rfl⟩
      · rintro ⟨inner, hallows, htext, rfl⟩
        cases inner with
        | none => exact absurd rfl hallows
        | some inner => exact (hpart _ _ _).mpr ⟨inner, htext, rfl⟩
  | optional =>
      refine denotes_opt.trans ?_
      constructor
      · rintro (⟨rfl, rfl⟩ | ⟨-, h⟩)
        · exact ⟨none, trivial, rfl, by rw [hgroups]; rfl⟩
        · obtain ⟨inner, htext, rfl⟩ := (hpart _ _ _).mp h
          exact ⟨some inner, trivial, htext, rfl⟩
      · rintro ⟨inner, -, htext, rfl⟩
        cases inner with
        | none => exact .inl ⟨htext, by rw [hgroups]; rfl⟩
        | some inner =>
            refine .inr ⟨?_, (hpart _ _ _).mpr ⟨inner, htext, rfl⟩⟩
            rintro rfl
            exact hnonempty inner htext

theorem denotes_threadPart (text rest : List CodePoint) (captures : Captures CodePoint) :
    threadPart.Denotes text rest captures ↔
      ∃ threadShortId, ThreadText threadShortId text ∧ captures = [some threadShortId] := by
  constructor
  · rintro ⟨one, threadShortId, _, _, rfl, rfl, hfirst, inner, rfl, hsecond⟩
    obtain ⟨hcolon, rfl⟩ := denotes_foldedLiteral.mp hfirst
    obtain ⟨hall, hmin, hmax, rfl⟩ := denotes_rep_symbol.mp hsecond
    obtain ⟨symbol, rfl⟩ := List.length_eq_one_iff.mp
      ((List.length_map CodePoint.fold).symm.trans (congrArg List.length hcolon))
    obtain rfl : symbol = colon := (foldedSymbol_iff (by decide) (by decide)).mp
      (decide_eq_true (List.cons.inj hcolon).1)
    exact ⟨threadShortId, ⟨rfl, hall, hmin, hmax 8 rfl⟩, rfl⟩
  · rintro ⟨threadShortId, ⟨rfl, hall, hmin, hmax⟩, rfl⟩
    exact ⟨[colon], threadShortId, [], _, rfl, rfl, denotes_foldedLiteral.mpr ⟨rfl, rfl⟩, [], rfl,
      denotes_rep_symbol.mpr ⟨hall, hmin, by simpa using hmax, rfl⟩⟩

theorem denotes_messageId (text rest : List CodePoint) (captures : Captures CodePoint) :
    RAFT_REF_MESSAGE_ID_PATTERN.Denotes text rest captures ↔
      IsMessageId text ∧ captures = [] := by
  constructor
  · rintro ⟨_, others, _, _, rfl, rfl, ⟨⟨first, rfl, hfirst⟩, rfl⟩, hsecond⟩
    obtain ⟨hall, hmin, hmax, rfl⟩ := denotes_rep_symbol.mp hsecond
    exact ⟨⟨first, others, rfl, hfirst, hall, hmin, hmax 63 rfl⟩, rfl⟩
  · rintro ⟨⟨first, others, rfl, hfirst, hall, hmin, hmax⟩, rfl⟩
    exact ⟨[first], others, [], [], rfl, rfl, ⟨⟨first, rfl, hfirst⟩, rfl⟩,
      denotes_rep_symbol.mpr ⟨hall, hmin, by simpa using hmax, rfl⟩⟩

theorem denotes_messagePart (text rest : List CodePoint) (captures : Captures CodePoint) :
    messagePart.Denotes text rest captures ↔
      ∃ messageId, MessageText messageId text ∧ captures = [some messageId] := by
  constructor
  · rintro ⟨space, _, _, _, rfl, rfl, hfirst, mark, messageId, _, _, rfl, rfl, hsecond, _, rfl,
      hthird⟩
    obtain ⟨hspace, hmin, -, rfl⟩ := denotes_rep_symbol.mp hfirst
    obtain ⟨hmark, rfl⟩ := denotes_foldedLiteral.mp hsecond
    obtain ⟨hid, rfl⟩ := (denotes_messageId _ _ _).mp hthird
    exact ⟨messageId, ⟨space, mark, rfl, List.length_pos_iff.mp hmin, hspace, hmark, hid⟩, rfl⟩
  · rintro ⟨messageId, ⟨space, mark, rfl, hnonempty, hspace, hmark, hid⟩, rfl⟩
    exact ⟨space, mark ++ messageId, [], _, rfl, rfl, denotes_rep_symbol.mpr
      ⟨hspace, List.length_pos_iff.mpr hnonempty, by simp, rfl⟩, mark, messageId, [], _, rfl, rfl,
      denotes_foldedLiteral.mpr ⟨hmark, rfl⟩, [], rfl, (denotes_messageId _ _ _).mpr ⟨hid, rfl⟩⟩

/-- The head, the name and the parts of an accepted conversation target. -/
structure Conversation (head : JsString) (Name : List CodePoint → Prop)
    (thread message : Presence) (symbols : List CodePoint)
    (name : List CodePoint) (threadShortId messageId : Option (List CodePoint)) : Prop where
  named : Name name
  threadAllowed : thread.Allows threadShortId
  messageAllowed : message.Allows messageId
  texts : ∃ first threadText messageText, symbols = first ++ (name ++ (threadText ++ messageText)) ∧
    first.map CodePoint.fold = head.map .single ∧
    PartText ThreadText threadShortId threadText ∧ PartText MessageText messageId messageText

theorem not_messageText_nil (messageId : List CodePoint) : ¬ MessageText messageId [] := by
  rintro ⟨space, mark, htext, hnonempty, -⟩
  exact hnonempty (List.append_eq_nil_iff.mp htext.symm).1

theorem plain_head_parts {threadShortId messageId : Option (List CodePoint)}
    {threadText messageText : List CodePoint}
    (hthread : PartText ThreadText threadShortId threadText)
    (hmessage : PartText MessageText messageId messageText) {symbol : CodePoint}
    (h : (threadText ++ messageText).head? = some symbol) : plain symbol = false := by
  cases threadShortId with
  | some threadShortId =>
      obtain ⟨rfl, -⟩ := hthread
      obtain rfl := Option.some.inj h
      decide
  | none =>
      obtain rfl := hthread
      cases messageId with
      | none =>
          obtain rfl := hmessage
          simp at h
      | some messageId =>
          obtain ⟨space, mark, rfl, hnonempty, hspace, -⟩ := hmessage
          cases space with
          | nil => exact absurd rfl hnonempty
          | cons first space =>
              obtain rfl := Option.some.inj h
              simp [plain, hspace first]

theorem denotes_conversationRegex {head : JsString} {name : Pattern CodePoint}
    {Name : List CodePoint → Prop} (hname : IsName name Name) {thread message : Presence}
    {symbols : List CodePoint} {captures : Captures CodePoint} :
    (conversationRegex head name thread message).Denotes symbols [] captures ↔
      ∃ text threadShortId messageId,
        Conversation head Name thread message symbols text threadShortId messageId ∧
        captures = some text :: (thread.captures threadShortId ++ message.captures messageId) := by
  have hthread := @denotes_presence thread threadPart ThreadText rfl (by simp [ThreadText])
    denotes_threadPart
  have hmessage := @denotes_presence message messagePart MessageText rfl not_messageText_nil
    denotes_messagePart
  constructor
  · rintro ⟨first, _, _, _, rfl, rfl, hfirst, text, _, _, _, rfl, rfl, ⟨inner, rfl, hinner⟩,
      threadText, messageText, _, _, rfl, rfl, hsecond, hthird⟩
    obtain ⟨hhead, rfl⟩ := denotes_foldedLiteral.mp hfirst
    obtain ⟨threadShortId, hthreadAllowed, hthreadText, rfl⟩ := (hthread _ _ _).mp hsecond
    obtain ⟨messageId, hmessageAllowed, hmessageText, rfl⟩ := (hmessage _ _ _).mp hthird
    obtain ⟨htext, rfl⟩ := (hname.denotes _ _ _ fun symbol hsymbol =>
      plain_head_parts hthreadText hmessageText (by simpa using hsymbol)).mp hinner
    exact ⟨text, threadShortId, messageId, ⟨htext, hthreadAllowed, hmessageAllowed, first,
      threadText, messageText, rfl, hhead, hthreadText, hmessageText⟩, rfl⟩
  · rintro ⟨text, threadShortId, messageId, ⟨htext, hthreadAllowed, hmessageAllowed, first,
      threadText, messageText, rfl, hhead, hthreadText, hmessageText⟩, rfl⟩
    refine ⟨first, _, [], _, rfl, rfl, denotes_foldedLiteral.mpr ⟨hhead, rfl⟩, text, _, [some text],
      _, rfl, rfl, ⟨[], rfl, ?_⟩, threadText, messageText, _, _, rfl, rfl,
      (hthread _ _ _).mpr ⟨threadShortId, hthreadAllowed, hthreadText, rfl⟩,
      (hmessage _ _ _).mpr ⟨messageId, hmessageAllowed, hmessageText, rfl⟩⟩
    exact (hname.denotes _ _ _ fun symbol hsymbol =>
      plain_head_parts hthreadText hmessageText (by simpa using hsymbol)).mpr ⟨htext, rfl⟩

/-! ## Reading the parts off -/

def partsOf (n : Nat) (symbols : List CodePoint) :
    List CodePoint × Option (List CodePoint) × Option (List CodePoint) :=
  let body := symbols.drop n
  let after := body.dropWhile plain
  (body.takeWhile plain,
    if after.head? = some colon then some ((after.drop 1).takeWhile fun symbol => !symbol.isSpace)
    else none,
    if equals ∈ after then some ((after.dropWhile (· ≠ equals)).drop 1) else none)

theorem takeWhile_append_of_stop {test : CodePoint → Bool} {text rest : List CodePoint}
    (htext : ∀ symbol ∈ text, test symbol = true)
    (hrest : ∀ symbol, rest.head? = some symbol → test symbol = false) :
    (text ++ rest).takeWhile test = text ∧ (text ++ rest).dropWhile test = rest := by
  induction text with
  | nil =>
      cases rest with
      | nil => exact ⟨rfl, rfl⟩
      | cons symbol rest => simp [hrest symbol rfl]
  | cons symbol text ih =>
      rw [List.forall_mem_cons] at htext
      obtain ⟨htake, hdrop⟩ := ih htext.2
      simp [htext.1, htake, hdrop]

theorem printable_hex : Printable fun n => (0x30 ≤ n && n ≤ 0x39) || (0x61 ≤ n && n ≤ 0x66) := by
  intro n
  simp only [Bool.or_eq_true, Bool.and_eq_true, decide_eq_true_eq]
  omega

theorem printable_messageId : Printable fun n => isLowerOrDigit n || n = 0x2D := by
  intro n
  simp only [isLowerOrDigit, Bool.or_eq_true, Bool.and_eq_true, decide_eq_true_eq]
  omega

theorem IsThreadId.plain {text : List CodePoint} (h : IsThreadId text) {symbol : CodePoint}
    (hsymbol : symbol ∈ text) : plain symbol = true ∧ symbol.Whole :=
  plain_of_ignoringCase printable_hex (h.1 symbol hsymbol)

theorem IsMessageId.plain {text : List CodePoint} (h : IsMessageId text) {symbol : CodePoint}
    (hsymbol : symbol ∈ text) : plain symbol = true ∧ symbol.Whole := by
  obtain ⟨first, rest, rfl, hfirst, hrest, -⟩ := h
  rcases List.mem_cons.mp hsymbol with rfl | hmem
  · refine plain_of_ignoringCase printable_messageId ?_
    rw [ignoringCase] at hfirst ⊢
    cases hfold : symbol.fold with
    | single unit => simp_all [CodePoint.inAscii]
    | pair high low => simp [hfold, CodePoint.inAscii] at hfirst
  · exact plain_of_ignoringCase printable_messageId (hrest symbol hmem)

theorem fold_equals : equals.fold = equals := by decide

theorem mark_split {mark : List CodePoint}
    (h : mark.map CodePoint.fold = (js "msg=").map .single) :
    ∃ letters, mark = letters ++ [equals] ∧ equals ∉ letters := by
  have hmark : mark.map CodePoint.fold = [.single 0x6D, .single 0x73, .single 0x67] ++ [equals] := h
  obtain ⟨letters, last, rfl, hletters, hlast⟩ := List.map_eq_append_iff.mp hmark
  obtain ⟨sign, rfl, hsign⟩ := List.map_eq_singleton_iff.mp hlast
  obtain rfl : sign = equals :=
    (foldedSymbol_iff (by decide) (by decide)).mp (decide_eq_true hsign)
  refine ⟨letters, rfl, fun hmem => ?_⟩
  have hfold := List.mem_map_of_mem (f := CodePoint.fold) hmem
  rw [hletters, fold_equals] at hfold
  exact absurd hfold (by decide)

theorem equals_not_mem_threadText {threadShortId : Option (List CodePoint)}
    {threadText : List CodePoint} (h : PartText ThreadText threadShortId threadText) :
    equals ∉ threadText := by
  cases threadShortId with
  | none =>
      obtain rfl := h
      exact List.not_mem_nil
  | some threadShortId =>
      obtain ⟨rfl, hid⟩ := h
      rintro (_ | ⟨_, hmem⟩)
      exact ne_equals_of_plain (hid.plain hmem).1 rfl

theorem MessageText.head_space {messageId messageText : List CodePoint}
    (h : MessageText messageId messageText) {symbol : CodePoint}
    (hhead : messageText.head? = some symbol) : symbol.isSpace = true := by
  obtain ⟨space, mark, rfl, hnonempty, hspace, -⟩ := h
  cases space with
  | nil => exact absurd rfl hnonempty
  | cons first space =>
      obtain rfl := Option.some.inj hhead
      exact hspace first List.mem_cons_self

theorem partsOf_conversation {head : JsString} {name : Pattern CodePoint}
    {Name : List CodePoint → Prop} (hname : IsName name Name) {thread message : Presence}
    {symbols text : List CodePoint} {threadShortId messageId : Option (List CodePoint)}
    (h : Conversation head Name thread message symbols text threadShortId messageId) :
    partsOf head.length symbols = (text, threadShortId, messageId) := by
  obtain ⟨htext, -, -, first, threadText, messageText, rfl, hhead, hthread, hmessage⟩ := h
  have hlength : first.length = head.length := by
    simpa using congrArg List.length hhead
  obtain ⟨htake, hdrop⟩ := takeWhile_append_of_stop (hname.plain text htext)
    fun symbol hsymbol => plain_head_parts hthread hmessage hsymbol
  have hsolid : ∀ symbol, messageText.head? = some symbol → symbol.isSpace = true := by
    intro symbol hsymbol
    cases messageId with
    | none =>
        obtain rfl := hmessage
        simp at hsymbol
    | some messageId => exact MessageText.head_space hmessage hsymbol
  simp only [partsOf, ← hlength, List.drop_left, htake, hdrop, Prod.mk.injEq, true_and]
  constructor
  · cases threadShortId with
    | none =>
        obtain rfl := hthread
        rw [List.nil_append, if_neg]
        intro hcolon
        exact absurd (hsolid colon hcolon) (by decide)
    | some threadShortId =>
        obtain ⟨rfl, hid⟩ := hthread
        rw [List.cons_append, List.head?_cons, if_pos rfl, List.drop_one, List.tail_cons]
        refine congrArg some (takeWhile_append_of_stop ?_ ?_).1
        · intro symbol hsymbol
          simp [isSpace_eq_false_of_plain (hid.plain hsymbol).1]
        · intro symbol hsymbol
          simp [hsolid symbol hsymbol]
  · have hthreadText := equals_not_mem_threadText hthread
    cases messageId with
    | none =>
        obtain rfl := hmessage
        rw [if_neg (by simpa using hthreadText)]
    | some messageId =>
        obtain ⟨space, mark, rfl, -, hspace, hmark, hid⟩ := hmessage
        obtain ⟨letters, rfl, hletters⟩ := mark_split hmark
        have hassoc : threadText ++ (space ++ (letters ++ [equals] ++ messageId)) =
            (threadText ++ space ++ letters) ++ equals :: messageId := by simp
        have hbefore : ∀ symbol ∈ threadText ++ space ++ letters,
            decide (symbol ≠ equals) = true := by
          intro symbol hsymbol
          rw [decide_eq_true_eq]
          rintro rfl
          rcases List.mem_append.mp hsymbol with hmem | hmem
          · rcases List.mem_append.mp hmem with hmem | hmem
            · exact hthreadText hmem
            · exact absurd (hspace equals hmem) (by decide)
          · exact hletters hmem
        rw [hassoc, if_pos (by simp), (takeWhile_append_of_stop hbefore (by simp)).2]
        rfl

end Raft.RaftRefs

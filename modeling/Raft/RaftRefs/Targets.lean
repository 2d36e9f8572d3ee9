import Raft.Foundation.CodePoints

/-!
# Reference targets

The ten grammars of a reference target, the parser that tries them one after
another, and the canonical text of a target.
-/

namespace Raft.RaftRefs

open Raft.Foundation Pattern

/-- `[\p{L}\p{N}]`, under one choice of flags.  Of the Unicode tables the grammars use
that letters and numbers in ASCII are the usual ones, and that neither white space nor a
lone surrogate is one. -/
structure NameSymbols where
  holds : CodePoint → Bool
  ascii : ∀ unit : CodeUnit, unit.val < 0x80 → holds (.single unit) =
    (isDigit unit || (0x41 ≤ unit.val && unit.val ≤ 0x5A) ||
      (0x61 ≤ unit.val && unit.val ≤ 0x7A))
  space : ∀ symbol, symbol.isSpace = true → holds symbol = false
  surrogate : ∀ unit, isHighSurrogate unit = true → holds (.single unit) = false

/-! ## Patterns -/

def isLowerOrDigit (n : Nat) : Bool := (0x61 ≤ n && n ≤ 0x7A) || (0x30 ≤ n && n ≤ 0x39)

/-- `[\p{L}\p{N}_-]` -/
def nameSymbol (names : NameSymbols) (symbol : CodePoint) : Bool :=
  names.holds symbol || symbol = .single 0x5F || symbol = .single 0x2D

/-- `[\w.-]`, ignoring case -/
def peerSymbol : CodePoint → Bool :=
  ignoringCase fun n => isLowerOrDigit n || n = 0x5F || n = 0x2E || n = 0x2D

/-- `[\w.~-]`, ignoring case -/
def peerContinuation : CodePoint → Bool :=
  ignoringCase fun n => isLowerOrDigit n || n = 0x5F || n = 0x2E || n = 0x7E || n = 0x2D

/-- `[\da-f]`, ignoring case -/
def hexSymbol : CodePoint → Bool :=
  ignoringCase fun n => (0x30 ≤ n && n ≤ 0x39) || (0x61 ≤ n && n ≤ 0x66)

def RAFT_REF_CHANNEL_NAME_PATTERN (names : NameSymbols) : Pattern CodePoint :=
  rep (symbol (nameSymbol names)) 1 none

def RAFT_REF_USER_NAME_PATTERN (names : NameSymbols) : Pattern CodePoint :=
  RAFT_REF_CHANNEL_NAME_PATTERN names

def RAFT_REF_DM_PEER_PATTERN : Pattern CodePoint :=
  seq (rep (symbol peerSymbol) 1 none)
    (seq (opt (seq (foldedLiteral (js "~")) (alt (foldedLiteral (js "agent"))
      (foldedLiteral (js "human"))))) (notAhead peerContinuation))

def RAFT_REF_THREAD_SHORT_ID_PATTERN : Pattern CodePoint := rep (symbol hexSymbol) 6 (some 8)

def RAFT_REF_MESSAGE_ID_PATTERN : Pattern CodePoint :=
  seq (symbol (ignoringCase isLowerOrDigit))
    (rep (symbol (ignoringCase fun n => isLowerOrDigit n || n = 0x2D)) 1 (some 63))

def RAFT_REF_TASK_NUMBER_PATTERN : Pattern CodePoint :=
  seq (symbol (ignoringCase fun n => 0x31 ≤ n && n ≤ 0x39))
    (rep (symbol (ignoringCase fun n => 0x30 ≤ n && n ≤ 0x39)) 0 none)

def RAFT_REF_COMPUTER_ID_PATTERN : Pattern CodePoint :=
  seq (rep (symbol hexSymbol) 8 (some 8)) <| seq (foldedLiteral (js "-")) <|
  seq (rep (symbol hexSymbol) 4 (some 4)) <| seq (foldedLiteral (js "-")) <|
  seq (symbol (ignoringCase fun n => 0x31 ≤ n && n ≤ 0x35)) <|
  seq (rep (symbol hexSymbol) 3 (some 3)) <| seq (foldedLiteral (js "-")) <|
  seq (symbol (ignoringCase fun n => n = 0x38 || n = 0x39 || n = 0x61 || n = 0x62)) <|
  seq (rep (symbol hexSymbol) 3 (some 3)) <| seq (foldedLiteral (js "-")) <|
  rep (symbol hexSymbol) 12 (some 12)

def appSegment : Pattern CodePoint :=
  seq (symbol (CodePoint.inAscii fun n => 0x61 ≤ n && n ≤ 0x7A))
    (rep (symbol (CodePoint.inAscii isLowerOrDigit)) 0 none)

def RAFT_REF_APP_ID_PATTERN : Pattern CodePoint :=
  seq appSegment (rep (seq (literal (js ".")) appSegment) 1 none)

/-! ## Grammars -/

/-- How a grammar treats one of its parts. -/
inductive Presence where
  | absent
  | optional
  | required

def Presence.pattern (part : Pattern CodePoint) : Presence → Pattern CodePoint
  | absent => empty
  | optional => opt part
  | required => part

def threadPart : Pattern CodePoint :=
  seq (foldedLiteral (js ":")) (group RAFT_REF_THREAD_SHORT_ID_PATTERN)

def messagePart : Pattern CodePoint :=
  seq (rep (symbol CodePoint.isSpace) 1 none)
    (seq (foldedLiteral (js "msg=")) (group RAFT_REF_MESSAGE_ID_PATTERN))

def conversationRegex (head : JsString) (name : Pattern CodePoint) (thread message : Presence) :
    Pattern CodePoint :=
  seq (foldedLiteral head)
    (seq (group name) (seq (thread.pattern threadPart) (message.pattern messagePart)))

inductive RaftRefKind where
  | user
  | computer
  | app
  | channel
  | channelThread
  | dm
  | dmThread
  | task
  | message
  | dmMessage
  deriving DecidableEq

section

-- `[\p{L}\p{N}]` under the flags `u` and `iu`.
variable (names foldedNames : NameSymbols)

def USER_RE : Pattern CodePoint :=
  seq (literal (js "@")) (group (RAFT_REF_USER_NAME_PATTERN names))

def COMPUTER_RE : Pattern CodePoint :=
  seq (foldedLiteral (js "computer:")) (group RAFT_REF_COMPUTER_ID_PATTERN)

def APP_RE : Pattern CodePoint := seq (literal (js "app:")) (group RAFT_REF_APP_ID_PATTERN)

def CHANNEL_RE : Pattern CodePoint :=
  conversationRegex (js "#") (RAFT_REF_CHANNEL_NAME_PATTERN names) .absent .absent

def CHANNEL_THREAD_RE : Pattern CodePoint :=
  conversationRegex (js "#") (RAFT_REF_CHANNEL_NAME_PATTERN foldedNames) .required .absent

def DM_RE : Pattern CodePoint :=
  conversationRegex (js "dm:@") RAFT_REF_DM_PEER_PATTERN .absent .absent

def DM_THREAD_RE : Pattern CodePoint :=
  conversationRegex (js "dm:@") RAFT_REF_DM_PEER_PATTERN .required .absent

def TASK_RE : Pattern CodePoint :=
  seq (foldedLiteral (js "task")) <| seq (rep (symbol CodePoint.isSpace) 1 none) <|
  seq (foldedLiteral (js "#")) (group RAFT_REF_TASK_NUMBER_PATTERN)

def CHANNEL_MESSAGE_RE : Pattern CodePoint :=
  conversationRegex (js "#") (RAFT_REF_CHANNEL_NAME_PATTERN foldedNames) .optional .required

def DM_MESSAGE_RE : Pattern CodePoint :=
  conversationRegex (js "dm:@") RAFT_REF_DM_PEER_PATTERN .optional .required

def regexOf : RaftRefKind → Pattern CodePoint
  | .user => USER_RE names
  | .computer => COMPUTER_RE
  | .app => APP_RE
  | .channel => CHANNEL_RE names
  | .channelThread => CHANNEL_THREAD_RE foldedNames
  | .dm => DM_RE
  | .dmThread => DM_THREAD_RE
  | .task => TASK_RE
  | .message => CHANNEL_MESSAGE_RE foldedNames
  | .dmMessage => DM_MESSAGE_RE

end

/-! ## Targets -/

inductive RaftRefTarget where
  | user (name : JsString)
  | computer (machineId : JsString)
  | app (appId : JsString)
  | channel (channelName : JsString)
  | channelThread (channelName threadShortId : JsString)
  | dm (peerName : JsString)
  | dmThread (peerName threadShortId : JsString)
  | task (taskNumber : JsNumber)
  | message (channelName messageId : JsString) (threadParentShortId : Option JsString)
  | dmMessage (peerName messageId : JsString) (threadParentShortId : Option JsString)
  deriving DecidableEq

/-- The rounded values from here on are infinite. -/
def doubleRange : Nat := 2 ^ 1024

/-- The double nearest to a natural number, ties to the even significand. -/
def nearestDouble (n : Nat) : JsNumber :=
  let ulp := 2 ^ (n.log2 - 52)
  let significand := n / ulp
  let excess := n % ulp
  let rounded :=
    if 2 * excess < ulp ∨ (2 * excess = ulp ∧ significand % 2 = 0) then significand
    else significand + 1
  if doubleRange ≤ rounded * ulp then .infinity false else JsNumber.ofNat (rounded * ulp)

def targetOf : RaftRefKind → Captures CodePoint → Option RaftRefTarget
  | .user, [some name] => some (.user (unitsOf name))
  -- The identifier is ASCII, where `toLowerCase` changes the letters `A` to `Z` only.
  | .computer, [some machineId] => some (.computer ((unitsOf machineId).map lowerUnit))
  | .app, [some appId] => some (.app (unitsOf appId))
  | .channel, [some channelName] => some (.channel (unitsOf channelName))
  | .channelThread, [some channelName, some threadShortId] =>
      some (.channelThread (unitsOf channelName) (unitsOf threadShortId))
  | .dm, [some peerName] => some (.dm (unitsOf peerName))
  | .dmThread, [some peerName, some threadShortId] =>
      some (.dmThread (unitsOf peerName) (unitsOf threadShortId))
  | .task, [some taskNumber] => some (.task (nearestDouble (decimalValue (unitsOf taskNumber))))
  | .message, [some channelName, threadParentShortId, some messageId] =>
      some (.message (unitsOf channelName) (unitsOf messageId) (threadParentShortId.map unitsOf))
  | .dmMessage, [some peerName, threadParentShortId, some messageId] =>
      some (.dmMessage (unitsOf peerName) (unitsOf messageId) (threadParentShortId.map unitsOf))
  | _, _ => none

def testOrder : List RaftRefKind :=
  [.message, .dmMessage, .channelThread, .dmThread, .task, .computer, .app, .user, .channel, .dm]

section

variable (names foldedNames : NameSymbols)

def parseInOrder (order : List RaftRefKind) (rawTarget : JsString) : Option RaftRefTarget :=
  let target := trim rawTarget
  if target = [] then none
  else
    order.findSome? fun kind =>
      ((regexOf names foldedNames kind).exec (codePoints target)).bind (targetOf kind)

def parseRaftRefTarget (rawTarget : JsString) : Option RaftRefTarget :=
  parseInOrder names foldedNames testOrder rawTarget

end

/-- `threadParentShortId ? ":…" : ""` -/
def threadSuffix : Option JsString → JsString
  | some threadParentShortId =>
      if threadParentShortId = [] then [] else js ":" ++ threadParentShortId
  | none => []

/-- The canonical text; `numberText` is `String` of a number. -/
def formatRaftRefTarget (numberText : JsNumber → JsString) : RaftRefTarget → JsString
  | .user name => js "@" ++ name
  | .computer machineId => js "computer:" ++ machineId
  | .app appId => js "app:" ++ appId
  | .channel channelName => js "#" ++ channelName
  | .channelThread channelName threadShortId => js "#" ++ channelName ++ js ":" ++ threadShortId
  | .dm peerName => js "dm:@" ++ peerName
  | .dmThread peerName threadShortId => js "dm:@" ++ peerName ++ js ":" ++ threadShortId
  | .task taskNumber => js "task #" ++ numberText taskNumber
  | .message channelName messageId threadParentShortId =>
      js "#" ++ channelName ++ threadSuffix threadParentShortId ++ js " msg=" ++ messageId
  | .dmMessage peerName messageId threadParentShortId =>
      js "dm:@" ++ peerName ++ threadSuffix threadParentShortId ++ js " msg=" ++ messageId

end Raft.RaftRefs

import Raft.Foundation.BlockScalar
import Raft.Foundation.InsertionMap
import Raft.Foundation.JsText

/-!
# Frontmatter of a skill

The metadata of a skill is a flat map of strings between two fences.  Plain and
quoted scalars stand on the line of their key; a block scalar takes the deeper
lines below it.  What is not supported reads as the empty text.
-/

namespace Raft.SkillFrontmatter

open Raft.Foundation
open Raft.Foundation.BlockScalar (Chomping breaks)

def trimStart (text : JsString) : JsString := text.dropWhile isWhiteSpace

def indentWidth (line : JsString) : Nat := line.length - (trimStart line).length

structure BlockHeader where
  folded : Bool
  chomp : Chomping
  explicitIndent : Option Nat
  deriving DecidableEq

/-! ## Headers -/

/-- `([1-9]?)` -/
def takeIndicator : JsString → Option Nat × JsString
  | unit :: rest =>
      if 0x31 ≤ unit.val ∧ unit.val ≤ 0x39 then (some (unit.val - 0x30), rest) else (none,
        unit :: rest)
  | [] => (none, [])

/-- `([-+]?)` -/
def takeChomp : JsString → Chomping × JsString
  | unit :: rest =>
      if unit = 0x2D then (.strip, rest)
      else if unit = 0x2B then (.keep, rest)
      else (.clip, unit :: rest)
  | [] => (.clip, [])

/-- What the dot of a regular expression does not match. -/
def isLineTerminator (unit : CodeUnit) : Bool :=
  unit.val = 0x0A || unit.val = 0x0D || unit.val = 0x2028 || unit.val = 0x2029

/-- `\s*(?:#.*)?$` -/
def endsHeader (text : JsString) : Bool :=
  match trimStart text with
  | [] => true
  | unit :: comment => unit = 0x23 && !comment.any isLineTerminator

def parseBlockHeader (raw : JsString) : Option BlockHeader :=
  match trim raw with
  | [] => none
  | style :: rest =>
      if style = 0x7C ∨ style = 0x3E then
        let (explicitIndent, rest) := takeIndicator rest
        let (chomp, rest) := takeChomp rest
        if endsHeader rest then some ⟨style = 0x3E, chomp, explicitIndent⟩ else none
      else none

/-! ## Plain and quoted scalars -/

/-- The text before the first white space that a `#` follows. -/
def beforeComment : JsString → JsString
  | [] => []
  | unit :: rest =>
      if isWhiteSpace unit && rest.head? = some 0x23 then [] else unit :: beforeComment rest

def stripPlainComment (value : JsString) : JsString := trim (beforeComment value)

def ALWAYS_INDICATOR : JsString := js ",[]\x7b\x7d#&*!|>%@\x60'\""

def SPACE_SENSITIVE_INDICATOR : JsString := js "-?:"

def isUnsupportedPlainScalar : JsString → Bool
  | [] => false
  | first :: rest =>
      ALWAYS_INDICATOR.contains first ||
        SPACE_SENSITIVE_INDICATOR.contains first &&
          (rest = [] || rest.head? = some 0x20 || rest.head? = some 0x09)

def untilQuote (quote : CodeUnit) : JsString → Option (JsString × JsString)
  | [] => none
  | [unit] => if unit = quote then some ([], []) else none
  | unit :: next :: after =>
      if quote = 0x22 ∧ unit = 0x5C then
        (untilQuote quote after).map fun (inner, tail) =>
          ((if next = 0x22 ∨ next = 0x5C then [next] else [0x5C, next]) ++ inner, tail)
      else if unit = quote then
        if quote = 0x27 ∧ next = 0x27 then
          (untilQuote quote after).map fun (inner, tail) => (0x27 :: inner, tail)
        else some ([], next :: after)
      else (untilQuote quote (next :: after)).map fun (inner, tail) => (unit :: inner, tail)

/-- `/^\s+#/` -/
def startsComment (rest : JsString) : Bool :=
  rest.head?.any isWhiteSpace && (trimStart rest).head? = some 0x23

def unquote : JsString → Option JsString
  | [] => none
  | quote :: value =>
      if quote ≠ 0x22 ∧ quote ≠ 0x27 then none
      else
        match untilQuote quote value with
        | none => none
        | some (inner, rest) => if trim rest = [] || startsComment rest then some inner else none

def inlineValue (rawValue : JsString) : JsString :=
  match unquote rawValue with
  | some unquoted => unquoted
  | none => if isUnsupportedPlainScalar rawValue then [] else stripPlainComment rawValue

/-! ## Block scalars -/

/-- One more than the index of the last line that is not empty. -/
def contentCount (lines : List JsString) : Nat :=
  (lines.reverse.dropWhile fun line => line.length = 0).length

def joinLines (lines : List JsString) : JsString := (lines.intersperse [0x0A]).flatten

def withBreaks (chomp : Chomping) (text : JsString) (lines : List JsString) : JsString :=
  match chomp with
  | .strip => text
  | .clip => text ++ [0x0A]
  | .keep => text ++ breaks (lines.length - (contentCount lines - 1))

def applyChomp (lines : List JsString) (chomp : Chomping) : JsString :=
  if contentCount lines = 0 then
    if chomp = .keep then breaks lines.length else []
  else withBreaks chomp (joinLines (lines.take (contentCount lines))) lines

structure FoldState where
  out : JsString
  pendingBreaks : Nat
  started : Bool
  previousWasMoreIndented : Bool
  deriving DecidableEq

/-- `/^[ \t]/` -/
def isMoreIndented (line : JsString) : Bool := line.head? = some 0x20 || line.head? = some 0x09

def foldLine (state : FoldState) (line : JsString) : FoldState :=
  if (trim line).length = 0 then { state with pendingBreaks := state.pendingBreaks + 1 }
  else if !state.started then
    ⟨breaks state.pendingBreaks ++ line, 0, true, isMoreIndented line⟩
  else
    let structural := if isMoreIndented line || state.previousWasMoreIndented then 1 else 0
    let count := state.pendingBreaks + structural
    ⟨state.out ++ (if 0 < count then breaks count else [0x20]) ++
      line, 0, true, isMoreIndented line⟩

def foldLines (lines : List JsString) : JsString := (lines.foldl foldLine ⟨[], 0, false, false⟩).out

def fold (lines : List JsString) (chomp : Chomping) : JsString :=
  if contentCount lines = 0 then
    if chomp = .keep then breaks lines.length else []
  else
    withBreaks chomp ((foldLines (lines.take (contentCount lines))).rdropWhile (· = 0x0A)) lines

def collectBody (keyIndent : Nat) : (bodyIndent : Option Nat) → List JsString → List JsString
  | _, [] => []
  | bodyIndent, candidate :: lines =>
      if (trim candidate).length = 0 then [] :: collectBody keyIndent bodyIndent lines
      else if indentWidth candidate ≤ keyIndent then []
      else
        let indent := bodyIndent.getD (indentWidth candidate)
        if indentWidth candidate < indent then []
        else candidate.drop indent :: collectBody keyIndent (some indent) lines

def blockValue (block : BlockHeader) (body : List JsString) : JsString :=
  if block.folded then fold body block.chomp else applyChomp body block.chomp

/-! ## Lines -/

def splitAtColon : JsString → Option (JsString × JsString)
  | [] => none
  | unit :: rest =>
      if unit = 0x3A then some ([], rest)
      else (splitAtColon rest).map fun (before, after) => (unit :: before, after)

def isComment (line : JsString) : Bool := (trimStart line).head? = some 0x23

def isStructural (line : JsString) : Bool :=
  (trim line).length ≠ 0 && !isComment line && line.contains 0x3A

/-- The least indentation of a line that can hold a key; `none` when there is no such line. -/
def baseIndent : List JsString → Option Nat
  | [] => none
  | line :: lines =>
      if isStructural line then
        some ((baseIndent lines).elim (indentWidth line) (min (indentWidth line)))
      else baseIndent lines

/-- `result[key] = value` for an object and a text, which the setter of `__proto__` ignores. -/
def assign (result : InsertionMap JsString JsString) (key value : JsString) :
    InsertionMap JsString JsString :=
  if key = js "__proto__" then result else result.set key value

def lineKey (base : Option Nat) (line : JsString) : Option (JsString × JsString) :=
  if (trim line).length = 0 || isComment line || base.any (· < indentWidth line) then none
  else
    match splitAtColon line with
    | none => none
    | some (before, after) => if trim before = [] then none else some (trim before, trim after)

/-- The lines from the present one on; the first `skip` of them belong to a block. -/
def parseLines (base : Option Nat) : (skip : Nat) → List JsString →
    InsertionMap JsString JsString → InsertionMap JsString JsString
  | _, [], result => result
  | skip + 1, _ :: lines, result => parseLines base skip lines result
  | 0, line :: lines, result =>
      match lineKey base line with
      | none => parseLines base 0 lines result
      | some (key, rawValue) =>
          match parseBlockHeader rawValue with
          | none => parseLines base 0 lines (assign result key (inlineValue rawValue))
          | some block =>
              let keyIndent := indentWidth line
              let body := collectBody keyIndent (block.explicitIndent.map (keyIndent + ·)) lines
              parseLines base body.length lines (assign result key (blockValue block body))

/-- What follows a `\r?\n`. -/
def dropBreak : JsString → Option JsString
  | [] => none
  | unit :: rest =>
      if unit = 0x0A then some rest
      else if unit = 0x0D ∧ rest.head? = some 0x0A then some rest.tail
      else none

def untilFence : JsString → Option JsString
  | [] => none
  | unit :: rest =>
      if (dropBreak (unit :: rest)).any (js "---").isPrefixOf then some []
      else (untilFence rest).map (unit :: ·)

def frontmatter (content : JsString) : Option JsString :=
  if (js "---").isPrefixOf content then (dropBreak (content.drop 3)).bind untilFence else none

/-- `text.split(/\r?\n/)`, with the line read so far in reverse. -/
def splitLines : (line : JsString) → JsString → List JsString
  | line, [] => [line.reverse]
  | line, unit :: rest =>
      if unit = 0x0A then line.reverse :: splitLines [] rest
      else if unit = 0x0D ∧ rest.head? = some 0x0A then splitLines line rest
      else splitLines (unit :: line) rest

def parseSkillFrontmatter (content : JsString) : InsertionMap JsString JsString :=
  match frontmatter content with
  | none => .empty
  | some text =>
      let lines := splitLines [] text
      parseLines (baseIndent lines) 0 lines .empty

end Raft.SkillFrontmatter

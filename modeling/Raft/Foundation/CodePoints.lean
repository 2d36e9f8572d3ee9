import Mathlib.Data.List.Forall2
import Raft.Foundation.JsText
import Raft.Foundation.JsValue
import Raft.Foundation.Regex

/-!
# Strings under a Unicode regular expression

With the flag `u` a pattern reads a string by code points: a high surrogate
followed by a low one is one symbol, every other code unit is a symbol of its
own.  With the flag `i` added, two symbols agree when their simple case foldings
do; two symbols outside ASCII fold into it.
-/

namespace Raft.Foundation

inductive CodePoint where
  | single (unit : CodeUnit)
  | pair (high low : CodeUnit)
  deriving DecidableEq

def codePoints : JsString → List CodePoint
  | [] => []
  | [unit] => [.single unit]
  | unit :: next :: rest =>
      if isHighSurrogate unit && isLowSurrogate next then .pair unit next :: codePoints rest
      else .single unit :: codePoints (next :: rest)

namespace CodePoint

def units : CodePoint → JsString
  | single unit => [unit]
  | pair high low => [high, low]

def Whole : CodePoint → Prop
  | single unit => isHighSurrogate unit = false
  | pair high low => isHighSurrogate high = true ∧ isLowSurrogate low = true

def isSpace : CodePoint → Bool
  | single unit => isWhiteSpace unit
  | pair _ _ => false

def inAscii (set : Nat → Bool) : CodePoint → Bool
  | single unit => set unit.val
  | pair _ _ => false

/-- Simple case folding where it ends in ASCII; U+017F folds to `s`, U+212A to `k`. -/
def foldUnit (unit : CodeUnit) : CodeUnit :=
  if unit.val = 0x17F then 0x73 else if unit.val = 0x212A then 0x6B else lowerUnit unit

def fold : CodePoint → CodePoint
  | single unit => .single (foldUnit unit)
  | pair high low => .pair high low

end CodePoint

def unitsOf (symbols : List CodePoint) : JsString := symbols.flatMap CodePoint.units

@[simp] theorem unitsOf_nil : unitsOf [] = [] := rfl

@[simp] theorem unitsOf_append (first second : List CodePoint) :
    unitsOf (first ++ second) = unitsOf first ++ unitsOf second :=
  List.flatMap_append

theorem unitsOf_map_unit (text : JsString) : unitsOf (text.map .single) = text := by
  induction text with
  | nil => rfl
  | cons unit rest ih => exact congrArg (unit :: ·) ih

theorem unitsOf_ne_nil {symbols : List CodePoint} (h : symbols ≠ []) : unitsOf symbols ≠ [] := by
  cases symbols with
  | nil => exact absurd rfl h
  | cons symbol rest => cases symbol <;> simp [unitsOf, CodePoint.units]

theorem codePoints_cons {unit : CodeUnit} (h : isHighSurrogate unit = false) (rest : JsString) :
    codePoints (unit :: rest) = .single unit :: codePoints rest := by
  cases rest with
  | nil => rfl
  | cons next rest => simp [codePoints, h]

theorem codePoints_unitsOf_append {symbols : List CodePoint}
    (h : ∀ symbol ∈ symbols, symbol.Whole) (rest : JsString) :
    codePoints (unitsOf symbols ++ rest) = symbols ++ codePoints rest := by
  induction symbols with
  | nil => rfl
  | cons symbol symbols ih =>
      rw [List.forall_mem_cons] at h
      have hrest := ih h.2
      cases symbol with
      | single unit =>
          exact (codePoints_cons h.1 _).trans (congrArg (CodePoint.single unit :: ·) hrest)
      | pair high low =>
          have hpair : codePoints (high :: low :: (unitsOf symbols ++ rest)) =
              .pair high low :: codePoints (unitsOf symbols ++ rest) := by
            rw [codePoints, if_pos (Bool.and_eq_true_iff.mpr h.1)]
          exact hpair.trans (congrArg (CodePoint.pair high low :: ·) hrest)

theorem codePoints_unitsOf {symbols : List CodePoint} (h : ∀ symbol ∈ symbols, symbol.Whole) :
    codePoints (unitsOf symbols) = symbols := by
  simpa [codePoints] using codePoints_unitsOf_append h []

theorem pair_of_mem_codePoints {text : JsString} {high low : CodeUnit}
    (h : .pair high low ∈ codePoints text) :
    isHighSurrogate high = true ∧ isLowSurrogate low = true := by
  fun_induction codePoints text with
  | case1 => simp at h
  | case2 unit => simp at h
  | case3 unit next rest hpair ih =>
      rcases List.mem_cons.mp h with heq | hrest
      · obtain ⟨rfl, rfl⟩ := CodePoint.pair.inj heq
        simpa using hpair
      · exact ih hrest
  | case4 unit next rest hpair ih =>
      rcases List.mem_cons.mp h with heq | hrest
      · cases heq
      · exact ih hrest

/-! ## Patterns over code points -/

open Pattern

def literalSymbol (unit : CodeUnit) (symbol : CodePoint) : Bool := symbol = .single unit

def foldedSymbol (unit : CodeUnit) (symbol : CodePoint) : Bool := symbol.fold = .single unit

def literal (text : JsString) : Pattern CodePoint := word (text.map literalSymbol)

def foldedLiteral (text : JsString) : Pattern CodePoint := word (text.map foldedSymbol)

def ignoringCase (set : Nat → Bool) (symbol : CodePoint) : Bool :=
  symbol.fold.inAscii set

theorem forall₂_literal {text : JsString} {symbols : List CodePoint} :
    List.Forall₂ (fun set c => set c = true) (text.map literalSymbol) symbols ↔
      symbols = text.map .single := by
  induction text generalizing symbols with
  | nil => simp [List.forall₂_nil_left_iff]
  | cons unit text ih =>
      rw [List.map_cons, List.map_cons]
      cases symbols with
      | nil => simp
      | cons symbol symbols =>
          rw [List.forall₂_cons, ih, List.cons.injEq, literalSymbol, decide_eq_true_eq]

theorem forall₂_folded {text : JsString} {symbols : List CodePoint} :
    List.Forall₂ (fun set c => set c = true) (text.map foldedSymbol) symbols ↔
      symbols.map CodePoint.fold = text.map .single := by
  induction text generalizing symbols with
  | nil => simp [List.forall₂_nil_left_iff]
  | cons unit text ih =>
      rw [List.map_cons, List.map_cons]
      cases symbols with
      | nil => simp
      | cons symbol symbols =>
          rw [List.forall₂_cons, ih, List.map_cons, List.cons.injEq, foldedSymbol,
            decide_eq_true_eq]

@[simp] theorem denotes_literal {text : JsString} {symbols rest : List CodePoint}
    {captures : Captures CodePoint} :
    (literal text).Denotes symbols rest captures ↔
      symbols = text.map .single ∧ captures = [] := by
  rw [literal, denotes_word, forall₂_literal]

@[simp] theorem denotes_foldedLiteral {text : JsString} {symbols rest : List CodePoint}
    {captures : Captures CodePoint} :
    (foldedLiteral text).Denotes symbols rest captures ↔
      symbols.map CodePoint.fold = text.map .single ∧ captures = [] := by
  rw [foldedLiteral, denotes_word, forall₂_folded]

/-! ## Trimming -/

theorem trim_eq_self {text : JsString}
    (hfirst : ∀ unit, text.head? = some unit → isWhiteSpace unit = false)
    (hlast : ∀ unit, text.getLast? = some unit → isWhiteSpace unit = false) :
    trim text = text := by
  have hdrop : ∀ {text : JsString},
      (∀ unit, text.head? = some unit → isWhiteSpace unit = false) →
        text.dropWhile isWhiteSpace = text := by
    intro text h
    cases text with
    | nil => rfl
    | cons unit rest => simp [h unit rfl]
  rw [trim, hdrop hfirst, hdrop (by simpa using hlast), List.reverse_reverse]

theorem getLast?_unitsOf {symbols : List CodePoint} (hwhole : ∀ symbol ∈ symbols, symbol.Whole)
    (hsolid : ∀ symbol ∈ symbols, symbol.isSpace = false) {unit : CodeUnit}
    (h : (unitsOf symbols).getLast? = some unit) : isWhiteSpace unit = false := by
  induction symbols using List.reverseRecOn with
  | nil => simp at h
  | append_singleton symbols symbol _ =>
      have hmem : symbol ∈ symbols ++ [symbol] := by simp
      have hspace := hsolid symbol hmem
      have hsymbol := hwhole symbol hmem
      rw [unitsOf_append] at h
      cases symbol with
      | single last =>
          obtain rfl : last = unit := by simpa [unitsOf, CodePoint.units] using h
          exact hspace
      | pair high low =>
          obtain rfl : low = unit := by simpa [unitsOf, CodePoint.units] using h
          have hlow := hsymbol.2
          simp only [isLowSurrogate, Bool.and_eq_true, decide_eq_true_eq] at hlow
          simp only [isWhiteSpace, Bool.or_eq_false_iff, Bool.and_eq_false_iff,
            decide_eq_false_iff_not]
          omega

end Raft.Foundation

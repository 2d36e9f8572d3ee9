import Mathlib.Data.List.DropRight
import Raft.Foundation.JsString

/-!
# Values of block scalars

A YAML block scalar is a list of lines without their indentation.  The literal
style keeps every break.  The folded style turns a single break between two
text lines into a space and drops one break of a longer run; next to a line
that begins with white space it keeps them all.  Chomping decides about the
breaks after the last line of content.
-/

namespace Raft.Foundation.BlockScalar

inductive Chomping where
  | strip
  | clip
  | keep
  deriving DecidableEq

def breaks (n : Nat) : JsString := List.replicate n 0x0A

def isSpaced (line : JsString) : Bool := line.head? = some 0x20 || line.head? = some 0x09

def separator (before after : JsString) (empty : Nat) : JsString :=
  if isSpaced before || isSpaced after then breaks (empty + 1)
  else if empty = 0 then [0x20]
  else breaks empty

def foldRest (before : JsString) : (empty : Nat) → List JsString → JsString
  | _, [] => []
  | empty, [] :: lines => foldRest before (empty + 1) lines
  | empty, (unit :: line) :: lines =>
      separator before (unit :: line) empty ++ (unit :: line) ++ foldRest (unit :: line) 0 lines

/-- Empty lines before the content are kept. -/
def foldContent : (empty : Nat) → List JsString → JsString
  | _, [] => []
  | empty, [] :: lines => foldContent (empty + 1) lines
  | empty, (unit :: line) :: lines =>
    breaks empty ++ (unit :: line) ++ foldRest (unit :: line) 0 lines

def joinContent (lines : List JsString) : JsString := (lines.intersperse [0x0A]).flatten

def content (lines : List JsString) : List JsString := lines.rdropWhile (· = [])

def chomped (chomping : Chomping) (text : JsString) (trailing : Nat) : JsString :=
  match chomping with
  | .strip => text
  | .clip => text ++ breaks 1
  | .keep => text ++ breaks (trailing + 1)

def value (folded : Bool) (chomping : Chomping) (lines : List JsString) : JsString :=
  if content lines = [] then
    if chomping = .keep then breaks lines.length else []
  else
    chomped chomping (if folded then foldContent 0 (content lines) else joinContent (content lines))
      (lines.length - (content lines).length)

example : value true .clip [js "a", js "b", [], js "c", js " d", js "e", []] =
    js "a b\nc\n d\ne\n" := by
  decide

theorem content_prefix (lines : List JsString) : content lines <+: lines :=
  List.rdropWhile_prefix _ _

theorem content_ne_nil_iff {lines : List JsString} :
    content lines ≠ [] ↔ ∃ line ∈ lines, line ≠ [] := by
  simp [content, List.rdropWhile_eq_nil_iff]

theorem getLast_content {lines : List JsString} (h : content lines ≠ []) :
    (content lines).getLast h ≠ [] := by
  have hlast := List.rdropWhile_last_not (fun line : JsString => decide (line = [])) lines h
  exact fun hempty => hlast (decide_eq_true hempty)

theorem foldRest_suffix {before : JsString} {empty : Nat} {lines : List JsString} (h : lines ≠ [])
    (hlast : lines.getLast h ≠ []) : lines.getLast h <:+ foldRest before empty lines := by
  induction lines generalizing before empty with
  | nil => exact absurd rfl h
  | cons line lines ih =>
      by_cases hlines : lines = []
      · subst hlines
        obtain _ | ⟨unit, line⟩ := line
        · exact absurd rfl hlast
        · rw [List.getLast_singleton, foldRest]
          simp [foldRest]
      · rw [List.getLast_cons hlines] at hlast ⊢
        obtain _ | ⟨unit, line⟩ := line
        · exact ih hlines hlast
        · exact (ih hlines hlast).trans (List.suffix_append _ _)

theorem foldContent_suffix {empty : Nat} {lines : List JsString} (h : lines ≠ [])
    (hlast : lines.getLast h ≠ []) : lines.getLast h <:+ foldContent empty lines := by
  induction lines generalizing empty with
  | nil => exact absurd rfl h
  | cons line lines ih =>
      by_cases hlines : lines = []
      · subst hlines
        obtain _ | ⟨unit, line⟩ := line
        · exact absurd rfl hlast
        · rw [List.getLast_singleton, foldContent]
          simp [foldRest]
      · rw [List.getLast_cons hlines] at hlast ⊢
        obtain _ | ⟨unit, line⟩ := line
        · exact ih hlines hlast
        · exact (foldRest_suffix hlines hlast).trans (List.suffix_append _ _)

theorem exists_lead {lines : List JsString} {first : JsString}
    (h : lines.find? (· ≠ []) = some first) :
    first ≠ [] ∧ ∃ lead rest, lines = List.replicate lead [] ++ first :: rest := by
  obtain ⟨hfirst, before, rest, hlines, hbefore⟩ := List.find?_eq_some_iff_append.mp h
  refine ⟨of_decide_eq_true hfirst, before.length, rest, ?_⟩
  have hempty : before = List.replicate before.length [] :=
    List.eq_replicate_of_mem fun line hline => by simpa using hbefore line hline
  rw [hlines, ← hempty]

theorem content_append_cons {before rest : List JsString} {line : JsString} (hline : line ≠ []) :
    content (before ++ line :: rest) = before ++ line :: content rest := by
  have hreverse : (before ++ line :: rest).reverse = rest.reverse ++ line :: before.reverse := by
    simp
  have hkeep : (line :: before.reverse).dropWhile (fun line => decide (line = [])) =
      line :: before.reverse :=
    List.dropWhile_cons_of_neg (by simpa using hline)
  have hdrop : (rest.reverse ++ line :: before.reverse).dropWhile (fun line => decide (line = [])) =
      rest.reverse.dropWhile (fun line => decide (line = [])) ++ line :: before.reverse := by
    rw [List.dropWhile_append]
    split
    · next hempty => rw [hkeep, List.isEmpty_iff.mp hempty, List.nil_append]
    · rfl
  simp only [content, List.rdropWhile, hreverse, hdrop]
  simp

theorem foldContent_lead (empty lead : Nat) (unit : CodeUnit) (line : JsString)
    (lines : List JsString) :
    foldContent empty (List.replicate lead [] ++ (unit :: line) :: lines) =
      breaks (empty + lead) ++ (unit :: line) ++ foldRest (unit :: line) 0 lines := by
  induction lead generalizing empty with
  | zero => rfl
  | succ lead ih =>
      rw [List.replicate_succ, List.cons_append, foldContent, ih]
      congr 3
      omega

theorem joinContent_lead (lead : Nat) (line : JsString) (lines : List JsString) :
    breaks lead ++ line <+: joinContent (List.replicate lead [] ++ line :: lines) := by
  induction lead with
  | zero =>
      obtain _ | ⟨next, lines⟩ := lines
      · simp [joinContent, breaks]
      · simp [joinContent, breaks]
  | succ lead ih =>
      obtain ⟨tail, htail⟩ := ih
      refine ⟨tail, ?_⟩
      obtain _ | lead := lead
      · simpa [joinContent, breaks] using htail
      · simpa [joinContent, breaks, List.replicate_succ] using htail

theorem prefix_chomped (chomping : Chomping) (text : JsString) (trailing : Nat) :
    text <+: chomped chomping text trailing := by
  cases chomping with
  | strip => exact List.prefix_refl text
  | clip => exact List.prefix_append _ _
  | keep => exact List.prefix_append _ _

theorem prefix_value (folded : Bool) (chomping : Chomping) (lead : Nat) {first : JsString}
    (hfirst : first ≠ []) (rest : List JsString) :
    breaks lead ++ first <+: value folded chomping (List.replicate lead [] ++ first :: rest) := by
  have hcontent := @content_append_cons (List.replicate lead []) rest _ hfirst
  rw [value, if_neg (by rw [hcontent]; simp), hcontent]
  refine List.IsPrefix.trans ?_ (prefix_chomped _ _ _)
  cases folded with
  | false => exact joinContent_lead lead first _
  | true =>
      obtain ⟨unit, line, rfl⟩ := List.exists_cons_of_ne_nil hfirst
      rw [if_pos rfl, foldContent_lead, Nat.zero_add]
      exact List.prefix_append _ _

theorem value_eq_nil_iff {folded : Bool} {chomping : Chomping} {lines : List JsString} :
    value folded chomping lines = [] ↔
      (∀ line ∈ lines, line = []) ∧ (chomping = .keep → lines = []) := by
  by_cases hempty : ∀ line ∈ lines, line = []
  · have hcontent : content lines = [] := by
      by_contra hne
      obtain ⟨line, hline, hne⟩ := content_ne_nil_iff.mp hne
      exact hne (hempty line hline)
    rw [value, if_pos hcontent]
    by_cases hkeep : chomping = .keep
    · simpa [hkeep, breaks] using fun _ : lines = [] => hempty
    · simpa [hkeep] using hempty
  · refine ⟨fun hnil => ?_, fun h => absurd h.1 hempty⟩
    simp only [not_forall] at hempty
    obtain ⟨line, hline, hne⟩ := hempty
    have hsome : (lines.find? (· ≠ [])).isSome = true :=
      List.find?_isSome.mpr ⟨line, hline, by simpa using hne⟩
    obtain ⟨first, hfind⟩ := Option.isSome_iff_exists.mp hsome
    obtain ⟨hfirst, lead, rest, rfl⟩ := exists_lead hfind
    have hstarts := prefix_value folded chomping lead hfirst rest
    rw [hnil, List.prefix_nil, List.append_eq_nil_iff] at hstarts
    exact absurd hstarts.2 hfirst

end Raft.Foundation.BlockScalar

import Mathlib.Data.Finset.Erase
import Mathlib.Data.Finset.Insert
import Mathlib.Data.List.TakeWhile
import Raft.Foundation.Regex

/-!
# Background task markers

What a session transcript says about background tasks: three texts that create
one and two that end one.  Each is a regular expression applied to a window of
the transcript.  A marker made of two literals around a task id takes the
longest id, so a window that ends inside the id reads another one.
-/

namespace Raft.WakeRecycle

open Raft.Foundation Pattern

abbrev Ascii := Fin 0x80

abbrev Transcript := List Ascii

abbrev TaskId := List Ascii

def ascii (text : String) : List Ascii := text.toList.map fun c => Fin.ofNat _ c.toNat

def isIdUnit (unit : Ascii) : Bool :=
  (0x61 ≤ unit.val && unit.val ≤ 0x7A) || (0x30 ≤ unit.val && unit.val ≤ 0x39)

def taskId : Pattern Ascii := group (rep (symbol isIdUnit) 1 none)

/-- A task id between two literals; the second one does not go on with the id. -/
structure Marker where
  opening : List Ascii
  closing : List Ascii
  closing_head : ∀ unit, closing.head? = some unit → isIdUnit unit = false

def Marker.pattern (marker : Marker) : Pattern Ascii :=
  seq (exactly marker.opening) (seq taskId (exactly marker.closing))

/-- `/Monitor started \(task ([a-z0-9]+)/g` -/
def monitorStarted : Marker := ⟨ascii "Monitor started (task ", [], by simp⟩

/-- `/background with ID: ([a-z0-9]+)/g` -/
def backgroundWithId : Marker := ⟨ascii "background with ID: ", [], by simp⟩

/-- `/moved to the background \(ID: ([a-z0-9]+)\)/g` -/
def movedToTheBackground : Marker :=
  ⟨ascii "moved to the background (ID: ", ascii ")", by decide⟩

/-- `/Successfully stopped task: ([a-z0-9]+)/g` -/
def successfullyStopped : Marker := ⟨ascii "Successfully stopped task: ", [], by simp⟩

def terminalStatus : Pattern Ascii :=
  alt (exactly (ascii "completed")) (alt (exactly (ascii "failed"))
    (alt (exactly (ascii "stopped")) (exactly (ascii "killed"))))

/-- A task id, and a terminal status at most 400 units behind it. -/
def taskNotification : Pattern Ascii :=
  seq (exactly (ascii "<task-id>")) (seq taskId (seq (exactly (ascii "</task-id>"))
    (seq (lazyUpTo (fun _ => true) 400) (seq (exactly (ascii "<status>"))
      (seq terminalStatus (exactly (ascii "</status>")))))))

def creationMarkers : List Marker := [monitorStarted, backgroundWithId, movedToTheBackground]

def backgroundTaskCreatePatterns : List (Pattern Ascii) := creationMarkers.map Marker.pattern

def backgroundTaskTerminalPatterns : List (Pattern Ascii) :=
  [taskNotification, successfullyStopped.pattern]

def taskIds (pattern : Pattern Ascii) (text : List Ascii) : List TaskId :=
  (pattern.matchAll text).filterMap fun place =>
    match (pattern.run (text.drop place.1)).head? with
    | some (some id :: _, _) => some id
    | _ => none

/-- All creations of a window first, then all endings. -/
def scanWindow (live : Finset TaskId) (text : List Ascii) : Finset TaskId :=
  let created := backgroundTaskCreatePatterns.foldl (fun live pattern =>
    (taskIds pattern text).foldl (fun live id => insert id live) live) live
  backgroundTaskTerminalPatterns.foldl (fun live pattern =>
    (taskIds pattern text).foldl (fun live id => live.erase id) live) created

/-! ## Where a marker stands -/

/-- The text starts with the marker, and the id it shows cannot be longer. -/
structure Marker.Heads (marker : Marker) (text : List Ascii) (id : TaskId) (rest : List Ascii) :
    Prop where
  text_eq : text = marker.opening ++ (id ++ (marker.closing ++ rest))
  id_ne : id ≠ []
  id_units : ∀ unit ∈ id, isIdUnit unit = true
  longest : ∀ unit, (marker.closing ++ rest).head? = some unit → isIdUnit unit = false

/-- The marker with its whole id lies between two places of the transcript. -/
def Marker.At (marker : Marker) (transcript : Transcript) (start stop : Nat) (id : TaskId) : Prop :=
  ∃ rest, marker.Heads (transcript.drop start) id rest ∧ stop + rest.length = transcript.length

def Notifies (transcript : Transcript) (id : TaskId) : Prop :=
  ∃ before gap status after, transcript = before ++ (ascii "<task-id>" ++ (id ++
      (ascii "</task-id>" ++ (gap ++ (ascii "<status>" ++ (status ++
        (ascii "</status>" ++ after))))))) ∧
    id ≠ [] ∧ (∀ unit ∈ id, isIdUnit unit = true) ∧ gap.length ≤ 400 ∧
      status ∈ [ascii "completed", ascii "failed", ascii "stopped", ascii "killed"]

def Terminated (transcript : Transcript) (id : TaskId) : Prop :=
  Notifies transcript id ∨ ∃ start stop, successfullyStopped.At transcript start stop id

theorem denotes_taskId {text rest : List Ascii} {captures : Captures Ascii} :
    taskId.Denotes text rest captures ↔
      captures = [some text] ∧ text ≠ [] ∧ ∀ unit ∈ text, isIdUnit unit = true := by
  rw [taskId, Denotes]
  simp only [denotes_rep_symbol]
  constructor
  · rintro ⟨_, rfl, hunits, hmin, -, rfl⟩
    exact ⟨rfl, List.length_pos_iff.mp hmin, hunits⟩
  · rintro ⟨rfl, hne, hunits⟩
    exact ⟨[], rfl, hunits, List.length_pos_iff.mpr hne, by simp, rfl⟩

namespace Marker

variable {marker : Marker}

theorem run_of_heads {text rest : List Ascii} {id : TaskId} (h : marker.Heads text id rest) :
    (marker.pattern.run text).head? = some ([some id], rest) := by
  obtain ⟨rfl, hne, hunits, hlongest⟩ := h
  have hid := head_run_rep_symbol isIdUnit hne hunits hlongest
  have htask : (taskId.run (id ++ (marker.closing ++ rest))).head? =
      some ([some id], marker.closing ++ rest) := by
    rw [taskId, Pattern.run, List.head?_map, hid]
    simp
  obtain ⟨others, hothers⟩ := List.head?_eq_some_iff.mp htask
  simp only [pattern, Pattern.run, run_exactly_append, hothers, List.flatMap_cons, List.flatMap_nil,
    List.append_nil, List.map_cons, List.map_nil, List.cons_append, List.nil_append,
    List.head?_cons]

theorem heads_of_mem_run {text rest : List Ascii} {captures : Captures Ascii}
    (h : (captures, rest) ∈ marker.pattern.run text) :
    ∃ id, captures = [some id] ∧ text = marker.opening ++ (id ++ (marker.closing ++ rest)) ∧
      id ≠ [] ∧ ∀ unit ∈ id, isIdUnit unit = true := by
  obtain ⟨whole, rfl, hdenotes⟩ := (mem_run_iff _ _ _ _).mp h
  simp only [pattern, Denotes, denotes_exactly, denotes_taskId] at hdenotes
  obtain ⟨_, _, _, _, rfl, rfl, ⟨rfl, rfl⟩, id, _, _, _, rfl, rfl, ⟨rfl, hne, hunits⟩,
    rfl, rfl⟩ := hdenotes
  exact ⟨id, rfl, by simp, hne, hunits⟩

theorem exists_heads {text rest : List Ascii} {id : TaskId}
    (htext : text = marker.opening ++ (id ++ (marker.closing ++ rest))) (hne : id ≠ [])
    (hunits : ∀ unit ∈ id, isIdUnit unit = true) :
    (∃ others, marker.Heads text id others ∧ others = rest) ∨
      ∃ more others, marker.closing = [] ∧ more ≠ [] ∧ rest = more ++ others ∧
        marker.Heads text (id ++ more) others := by
  by_cases hlongest : ∀ unit, (marker.closing ++ rest).head? = some unit → isIdUnit unit = false
  · exact .inl ⟨rest, ⟨htext, hne, hunits, hlongest⟩, rfl⟩
  · push Not at hlongest
    obtain ⟨unit, hhead, hunit⟩ := hlongest
    have hclosing : marker.closing = [] := by
      cases hclosing : marker.closing with
      | nil => rfl
      | cons first others =>
          rw [hclosing, List.cons_append, List.head?_cons] at hhead
          have hfirst := marker.closing_head unit (by rw [hclosing, List.head?_cons, hhead])
          exact absurd hfirst hunit
    rw [hclosing, List.nil_append] at hhead
    obtain ⟨others, rfl⟩ := List.head?_eq_some_iff.mp hhead
    refine .inr ⟨(unit :: others).takeWhile isIdUnit, (unit :: others).dropWhile isIdUnit, hclosing,
      by simp [hunit], List.takeWhile_append_dropWhile.symm, ?_⟩
    refine ⟨?_, by simp [hne], ?_, ?_⟩
    · rw [htext, hclosing, List.nil_append, List.nil_append, List.append_assoc,
        List.takeWhile_append_dropWhile]
    · intro other hother
      rcases List.mem_append.mp hother with hid | hmore
      · exact hunits other hid
      · exact List.mem_takeWhile_imp hmore
    · intro other hother
      rw [hclosing, List.nil_append] at hother
      have hhead := List.head?_dropWhile_not isIdUnit (unit :: others)
      rw [hother] at hhead
      simpa using hhead

theorem run_head_iff {text rest : List Ascii} {captures : Captures Ascii} :
    (marker.pattern.run text).head? = some (captures, rest) ↔
      ∃ id, captures = [some id] ∧ marker.Heads text id rest := by
  constructor
  · intro h
    obtain ⟨id, rfl, htext, hne, hunits⟩ := heads_of_mem_run (List.mem_of_mem_head? h)
    rcases exists_heads htext hne hunits with ⟨others, hheads, rfl⟩ | ⟨more, others, -, hmore, -,
      hheads⟩
    · exact ⟨id, rfl, hheads⟩
    · have hhead := h.symm.trans (run_of_heads hheads)
      simp only [Option.some.injEq, Prod.mk.injEq, List.cons.injEq, and_true] at hhead
      exact absurd (List.self_eq_append_right.mp hhead.1) hmore
  · rintro ⟨id, rfl, hheads⟩
    exact run_of_heads hheads

theorem mem_taskIds {text : List Ascii} {id : TaskId} :
    id ∈ taskIds marker.pattern text ↔
      ∃ place ∈ marker.pattern.matchAll text, ∃ rest, marker.Heads (text.drop place.1) id rest := by
  simp only [taskIds, List.mem_filterMap]
  constructor
  · rintro ⟨place, hplace, hid⟩
    split at hid
    · next found others rest hhead =>
        obtain ⟨other, hcaptures, hheads⟩ := run_head_iff.mp hhead
        simp only [List.cons.injEq, Option.some.injEq] at hid hcaptures
        obtain ⟨rfl, -⟩ := hcaptures
        exact ⟨place, hplace, rest, hid ▸ hheads⟩
    · cases hid
  · rintro ⟨place, hplace, rest, hheads⟩
    exact ⟨place, hplace, by rw [run_of_heads hheads]⟩

theorem matchLength_of_heads {text rest : List Ascii} {id : TaskId}
    (h : marker.Heads text id rest) :
    marker.pattern.matchLength text = some (text.length - rest.length) := by
  rw [matchLength, run_of_heads h, Option.map_some]

theorem heads_of_matchLength {text : List Ascii} {length : Nat}
    (h : marker.pattern.matchLength text = some length) :
    ∃ id rest, marker.Heads text id rest ∧ length = text.length - rest.length := by
  obtain ⟨⟨captures, rest⟩, hhead, rfl⟩ := Option.map_eq_some_iff.mp h
  obtain ⟨id, -, hheads⟩ := run_head_iff.mp hhead
  exact ⟨id, rest, hheads, rfl⟩

/-! ## Windows -/

theorem Heads.take {text rest : List Ascii} {id : TaskId} (h : marker.Heads text id rest) {n : Nat}
    (hn : text.length ≤ rest.length + n) :
    ∃ others, marker.Heads (text.take n) id others := by
  obtain ⟨htext, hne, hunits, hlongest⟩ := h
  have hsplit : text = (marker.opening ++ (id ++ marker.closing)) ++ rest := by simp [htext]
  have hlength : (marker.opening ++ (id ++ marker.closing)).length ≤ n := by
    have hall := congrArg List.length hsplit
    rw [List.length_append] at hall
    omega
  obtain ⟨extra, hextra⟩ := Nat.exists_eq_add_of_le hlength
  refine ⟨rest.take extra, ?_, hne, hunits, ?_⟩
  · rw [hsplit, hextra, List.take_length_add_append]
    simp
  · intro unit hunit
    refine hlongest unit ?_
    cases hclosing : marker.closing with
    | cons first others => simpa [hclosing] using hunit
    | nil =>
        rw [hclosing, List.nil_append, List.head?_take] at hunit
        split_ifs at hunit
        simpa using hunit

/-- What a cut text shows is the marker itself, or the marker goes on behind the cut. -/
theorem Heads.of_take {text rest : List Ascii} {id : TaskId} {n : Nat}
    (h : marker.Heads (text.take n) id rest) :
    ∃ whole others, marker.Heads text whole others ∧
      others.length + (text.take n).length ≤ text.length + rest.length ∧
      (whole = id ∨ others.length + n < text.length) := by
  obtain ⟨htext, hne, hunits, hlongest⟩ := h
  have hsplit : text = marker.opening ++ (id ++ (marker.closing ++ (rest ++ text.drop n))) := by
    conv_lhs => rw [← List.take_append_drop n text, htext]
    simp
  have hlength : (text.take n).length + (text.drop n).length = text.length := by
    rw [← List.length_append, List.take_append_drop]
  rcases exists_heads hsplit hne hunits with ⟨others, hheads, rfl⟩ |
    ⟨more, others, hclosing, hmore, hrest, hheads⟩
  · refine ⟨id, _, hheads, ?_, .inl rfl⟩
    rw [List.length_append]
    omega
  · have hempty : rest = [] := by
      cases rest with
      | nil => rfl
      | cons first tail =>
          obtain ⟨next, more, rfl⟩ := List.exists_cons_of_ne_nil hmore
          obtain ⟨rfl, -⟩ := List.cons.inj hrest
          have hfirst := hheads.id_units first (by simp)
          have hlast := hlongest first (by simp [hclosing])
          rw [hfirst] at hlast
          cases hlast
    rw [hempty, List.nil_append] at hrest
    have hdrop := congrArg List.length hrest
    have hpos := List.length_pos_iff.mpr hmore
    rw [List.length_append, List.length_drop] at hdrop
    rw [List.length_drop] at hlength
    exact ⟨id ++ more, others, hheads, by omega, .inr (by omega)⟩

end Marker

def window (transcript : Transcript) (start length : Nat) : List Ascii :=
  (transcript.drop start).take length

theorem drop_window (transcript : Transcript) (start length place : Nat) :
    (window transcript start length).drop place =
      (transcript.drop (start + place)).take (length - place) := by
  rw [window, List.drop_take, List.drop_drop]

namespace Marker

variable {marker : Marker}

theorem At.lt {transcript : Transcript} {start stop : Nat} {id : TaskId}
    (h : marker.At transcript start stop id) : start < stop ∧ stop ≤ transcript.length := by
  obtain ⟨rest, hheads, hstop⟩ := h
  have hlength := congrArg List.length hheads.text_eq
  have hid := List.length_pos_iff.mpr hheads.id_ne
  simp only [List.length_drop, List.length_append] at hlength
  omega

/-- A marker that a window shows whole is found there, unless another one of its kind covers its
start. -/
theorem mem_taskIds_of_at {transcript : Transcript} {start stop base length : Nat} {id : TaskId}
    (h : marker.At transcript start stop id) (hstart : base ≤ start)
    (hstop : stop ≤ base + length)
    (hapart : ∀ start' stop' id', marker.At transcript start' stop' id' → start' < start →
      stop' ≤ start) :
    id ∈ taskIds marker.pattern (window transcript base length) := by
  obtain ⟨hlt, hbound⟩ := h.lt
  obtain ⟨rest, hheads, hrest⟩ := h
  have hdrop : (window transcript base length).drop (start - base) =
      (transcript.drop start).take (length - (start - base)) := by
    rw [drop_window, Nat.add_sub_cancel' hstart]
  obtain ⟨others, hcut⟩ := hheads.take (n := length - (start - base)) (by
    rw [List.length_drop]
    omega)
  rw [← hdrop] at hcut
  have hwindow : (window transcript base length).length =
    min length (transcript.length - base) := by
    rw [window, List.length_take, List.length_drop]
  have hplaces := @mem_matchesFrom_or_covered _ _ 0 0 _ _ _ (Nat.zero_le (start - base))
    (by rw [hwindow]; omega) (matchLength_of_heads hcut)
  rw [Nat.zero_add] at hplaces
  rcases hplaces with hlisted | ⟨place, hplace, hbefore, hcovers⟩
  · exact mem_taskIds.mpr ⟨_, hlisted, others, hcut⟩
  · exfalso
    obtain ⟨first, hfirst, hplace_eq, hle, hmatch⟩ := matchLength_of_mem_matchesFrom hplace
    rw [Nat.zero_add] at hplace_eq
    obtain ⟨id', rest', hheads', hlength⟩ := heads_of_matchLength hmatch
    rw [drop_window] at hheads' hlength
    obtain ⟨whole, tail, hwhole, htail, -⟩ := hheads'.of_take
    rw [List.length_drop] at htail
    have hat : marker.At transcript (base + first) (transcript.length - tail.length) whole := by
      refine ⟨tail, hwhole, Nat.sub_add_cancel ?_⟩
      have htext := congrArg List.length hwhole.text_eq
      simp only [List.length_drop, List.length_append] at htext
      omega
    have hend := hapart _ _ _ hat (by omega)
    have htext := congrArg List.length hheads'.text_eq
    simp only [List.length_append] at htext
    have hid := List.length_pos_iff.mpr hheads'.id_ne
    omega

theorem at_of_mem_taskIds {transcript : Transcript} {base length : Nat} {id : TaskId}
    (h : id ∈ taskIds marker.pattern (window transcript base length)) :
    (∃ start stop, marker.At transcript start stop id) ∨
      ∃ start stop whole, marker.At transcript start stop whole ∧
        start + marker.opening.length < base + length ∧ base + length < stop := by
  obtain ⟨place, -, rest, hheads⟩ := mem_taskIds.mp h
  rw [drop_window] at hheads
  have hshown : marker.opening.length < length - place.1 := by
    have htext := congrArg List.length hheads.text_eq
    have hid := List.length_pos_iff.mpr hheads.id_ne
    simp only [List.length_take, List.length_append] at htext
    omega
  obtain ⟨whole, others, hwhole, -, hsame⟩ := hheads.of_take
  have hothers : others.length ≤ transcript.length := by
    have htext := congrArg List.length hwhole.text_eq
    simp only [List.length_drop, List.length_append] at htext
    omega
  have hat : marker.At transcript (base + place.1) (transcript.length - others.length) whole :=
    ⟨others, hwhole, Nat.sub_add_cancel hothers⟩
  rcases hsame with rfl | hbehind
  · exact .inl ⟨_, _, hat⟩
  · rw [List.length_drop] at hbehind
    exact .inr ⟨_, _, _, hat, by omega, by omega⟩

end Marker

theorem notifies_of_mem_taskIds {text : List Ascii} {id : TaskId}
    (h : id ∈ taskIds taskNotification text) : Notifies text id := by
  obtain ⟨place, -, hid⟩ := List.mem_filterMap.mp h
  split at hid
  · next found others rest hhead =>
      obtain rfl := Option.some.inj hid
      obtain ⟨whole, hdrop, hdenotes⟩ :=
        (mem_run_iff _ _ _ _).mp (List.mem_of_mem_head? hhead)
      simp only [taskNotification, terminalStatus, Denotes, denotes_exactly, denotes_taskId,
        denotes_lazyUpTo] at hdenotes
      obtain ⟨_, _, _, _, rfl, hcaptures, ⟨rfl, rfl⟩, id, _, _, _, rfl, rfl, ⟨rfl, hne, hunits⟩,
        _, _, _, _, rfl, rfl, ⟨rfl, rfl⟩, gap, _, _, _, rfl, rfl, ⟨-, hgap, rfl⟩,
        _, _, _, _, rfl, rfl, ⟨rfl, rfl⟩, status, _, _, _, rfl, rfl, hstatus, rfl, rfl⟩ := hdenotes
      rw [List.nil_append, List.singleton_append, List.cons.injEq, Option.some.injEq] at hcaptures
      obtain ⟨rfl, -⟩ := hcaptures
      refine ⟨text.take place.1, gap, status, rest, ?_, hne, hunits, hgap, ?_⟩
      · conv_lhs => rw [← List.take_append_drop place.1 text, hdrop]
        simp
      · rcases hstatus with ⟨_, -, rfl, -⟩ | ⟨_, -, ⟨_, -, rfl, -⟩ | ⟨_, -, ⟨_, -, rfl, -⟩ |
          ⟨_, -, rfl, -⟩⟩⟩ <;> simp
  · cases hid

theorem Notifies.of_window {transcript : Transcript} {base length : Nat} {id : TaskId}
    (h : Notifies (window transcript base length) id) : Notifies transcript id := by
  obtain ⟨before, gap, status, after, heq, hrest⟩ := h
  refine ⟨transcript.take base ++ before, gap, status,
    after ++ (transcript.drop base).drop length, ?_, hrest⟩
  conv_lhs => rw [← List.take_append_drop base transcript,
    ← List.take_append_drop length (transcript.drop base)]
  rw [show (transcript.drop base).take length = window transcript base length from rfl, heq]
  simp

/-! ## One window -/

theorem mem_foldl_insert {ids : List TaskId} {live : Finset TaskId} {id : TaskId} :
    id ∈ ids.foldl (fun live id => insert id live) live ↔ id ∈ live ∨ id ∈ ids := by
  induction ids generalizing live with
  | nil => simp
  | cons first ids ih =>
      rw [List.foldl_cons, ih, Finset.mem_insert, List.mem_cons, or_comm (a := id = first),
        or_assoc]

theorem mem_foldl_erase {ids : List TaskId} {live : Finset TaskId} {id : TaskId} :
    id ∈ ids.foldl (fun live id => live.erase id) live ↔ id ∈ live ∧ id ∉ ids := by
  induction ids generalizing live with
  | nil => simp
  | cons first ids ih =>
      rw [List.foldl_cons, ih, Finset.mem_erase, List.mem_cons, not_or, and_comm (a := id ≠ first),
        and_assoc]

theorem mem_scanWindow {live : Finset TaskId} {text : List Ascii} {id : TaskId} :
    id ∈ scanWindow live text ↔
      (id ∈ live ∨ ∃ marker ∈ creationMarkers, id ∈ taskIds marker.pattern text) ∧
        id ∉ taskIds taskNotification text ∧ id ∉ taskIds successfullyStopped.pattern text := by
  simp [scanWindow, backgroundTaskCreatePatterns, backgroundTaskTerminalPatterns, creationMarkers,
    mem_foldl_insert, mem_foldl_erase, or_assoc, and_assoc]

end Raft.WakeRecycle

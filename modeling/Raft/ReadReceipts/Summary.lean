import Raft.Foundation.CumulativeCounts
import Raft.Foundation.JsComparison

/-!
# Read receipts

The server sends the read state of each peer, or above a limit a summary with
the number of readers at each frontier.  The client checks either form and
answers for one message who has read it; both forms give one answer.
-/

namespace Raft.ReadReceipts

open Raft.Foundation

inductive ReadReceiptPeerKind where
  | human
  | agent
  deriving DecidableEq

def ReadReceiptPeerKind.text : ReadReceiptPeerKind → JsString
  | human => js "human"
  | agent => js "agent"

structure PeerReadState where
  peerKind : ReadReceiptPeerKind
  peerId : JsString
  maxReadSeq : Nat
  deriving DecidableEq

/-- The rows of `readCountAtSeq` are pairs of a frontier and the number of its readers. -/
structure PeerReadSummary where
  peerCount : Nat
  readCountAtSeq : List (Nat × Nat)
  deriving DecidableEq

inductive PeerReadHydrate where
  | peerReadStates (states : List PeerReadState)
  | peerReadSummary (summary : PeerReadSummary)
  deriving DecidableEq

/-! ## The server -/

def READ_RECEIPT_PEER_STATE_LIMIT : Nat := 50

def buildPeerReadSummary (states : List PeerReadState) : PeerReadSummary :=
  let watermarkCounts := tally (states.map (·.maxReadSeq))
  { peerCount := states.length
    readCountAtSeq := (cumulate 0 (watermarkCounts.entries.insertionSort
      fun left right => right.1 ≤ left.1)).reverse }

/-- The form that the server chooses for the states of the exposed peers. -/
def peerReadHydrate (states : List PeerReadState) : PeerReadHydrate :=
  if states.length ≤ READ_RECEIPT_PEER_STATE_LIMIT then .peerReadStates states
  else .peerReadSummary (buildPeerReadSummary states)

def PeerReadState.toJs (state : PeerReadState) : JsValue :=
  .object [(js "peerKind", .string state.peerKind.text), (js "peerId", .string state.peerId),
    (js "maxReadSeq", .number (.ofNat state.maxReadSeq))]

def rowToJs (row : Nat × Nat) : JsValue :=
  .object [(js "seq", .number (.ofNat row.1)), (js "count", .number (.ofNat row.2))]

def PeerReadSummary.toJs (summary : PeerReadSummary) : JsValue :=
  .object [(js "peerCount", .number (.ofNat summary.peerCount)),
    (js "readCountAtSeq", .array (summary.readCountAtSeq.map rowToJs))]

def PeerReadHydrate.toJs : PeerReadHydrate → JsValue
  | peerReadStates states => .object [(js "peerReadStates", .array (states.map (·.toJs)))]
  | peerReadSummary summary => .object [(js "peerReadSummary", summary.toJs)]

/-! ## The client -/

inductive ReadReceiptScope where
  | peers (peers : List PeerReadState)
  | summary (summary : PeerReadSummary)
  deriving DecidableEq

def isRecord : JsValue → Bool
  | .object _ | .array _ => true
  | _ => false

def hasField (key : JsString) : JsValue → Bool
  | .object fields => fields.any fun field => field.1 = key
  | _ => false

def normalizeSeq : JsValue → Option Nat
  | .number value => value.safeNat
  | _ => none

def normalizeCount : JsValue → Option Nat
  | .number value => value.safeNat
  | _ => none

def normalizeKind : JsValue → Option ReadReceiptPeerKind
  | .string text =>
      if text = js "human" then some .human else if text = js "agent" then some .agent else none
  | _ => none

def normalizePeerId : JsValue → Option JsString
  | .string text => if text = [] then none else some text
  | _ => none

def peerKey (kind : ReadReceiptPeerKind) (peerId : JsString) : JsString :=
  kind.text ++ js ":" ++ peerId

def normalizePeers : (seen : List JsString) → (items : List JsValue) → Option (List PeerReadState)
  | _, [] => some []
  | seen, item :: items => do
      guard (isRecord item)
      let peerKind ← normalizeKind (item.read (js "peerKind"))
      let peerId ← normalizePeerId (item.read (js "peerId"))
      let maxReadSeq ← normalizeSeq (item.read (js "maxReadSeq"))
      guard (peerKey peerKind peerId ∉ seen)
      let peers ← normalizePeers (seen ++ [peerKey peerKind peerId]) items
      some ({ peerKind, peerId, maxReadSeq } :: peers)

/-- Frontiers ascend from `previousSeq`, counts descend from `previousCount`. -/
def normalizeRows (peerCount : Nat) : (previousSeq : Int) → (previousCount : Nat) →
    (rows : List JsValue) → Option (List (Nat × Nat))
  | _, _, [] => some []
  | previousSeq, previousCount, row :: rows => do
      guard (isRecord row)
      let seq ← normalizeSeq (row.read (js "seq"))
      let count ← normalizeCount (row.read (js "count"))
      guard (previousSeq < seq ∧ count ≤ peerCount ∧ count < previousCount)
      let readCountAtSeq ← normalizeRows peerCount seq count rows
      some ((seq, count) :: readCountAtSeq)

def normalizeSummary (summary : JsValue) : Option ReadReceiptScope := do
  let peerCount ← normalizeCount (summary.read (js "peerCount"))
  match summary.read (js "readCountAtSeq") with
  | .array rows =>
      let readCountAtSeq ← normalizeRows peerCount (-1) (peerCount + 1) rows
      some (.summary { peerCount, readCountAtSeq })
  | _ => none

def normalizeReadReceiptHydrate (payload : JsValue) : Option ReadReceiptScope :=
  if !isRecord payload then none
  else if hasField (js "peerReadStates") payload && hasField (js "peerReadSummary") payload then
    none
  else
    match payload.read (js "peerReadStates") with
    | .array items => (normalizePeers [] items).map .peers
    | _ =>
        let summary := payload.read (js "peerReadSummary")
        if isRecord summary then normalizeSummary summary else none

structure ReadReceipt where
  read : Bool
  readCount : Nat
  peerCount : Nat
  deriving DecidableEq

/-- A `messageSeq` that is not a positive safe integer has no receipt. -/
def projectReadReceipt (scope : Option ReadReceiptScope) (messageSeq : Option JsNumber) :
    ReadReceipt :=
  match scope, messageSeq.bind JsNumber.safeNat with
  | some scope, some messageSeq =>
      if messageSeq = 0 then ⟨false, 0, 0⟩
      else
        match scope with
        | .peers peers =>
            let readCount := peers.foldl (fun count peer =>
              count + if messageSeq ≤ peer.maxReadSeq then 1 else 0) 0
            ⟨decide (0 < readCount), readCount, peers.length⟩
        | .summary summary =>
            let readCount :=
              ((summary.readCountAtSeq.find? fun row => messageSeq ≤ row.1).map Prod.snd).getD 0
            ⟨decide (0 < readCount), readCount, summary.peerCount⟩
  | _, _ => ⟨false, 0, 0⟩

/-! ## Both forms are accepted -/

@[simp] theorem normalizeKind_text (kind : ReadReceiptPeerKind) :
    normalizeKind (.string kind.text) = some kind := by
  cases kind <;> decide

theorem peerKey_injective {kind kind' : ReadReceiptPeerKind} {peerId peerId' : JsString}
    (h : peerKey kind peerId = peerKey kind' peerId') : kind = kind' ∧ peerId = peerId' := by
  cases kind <;> cases kind' <;>
    simp [peerKey, ReadReceiptPeerKind.text, js, utf16] at h ⊢ <;> exact h

theorem normalizePeers_cons (seen : List JsString) {state : PeerReadState}
    (hseq : state.maxReadSeq ≤ maxSafeInteger) (items : List JsValue) :
    normalizePeers seen (state.toJs :: items) =
      if state.peerId = [] ∨ peerKey state.peerKind state.peerId ∈ seen then none
      else (normalizePeers (seen ++ [peerKey state.peerKind state.peerId]) items).map
        (state :: ·) := by
  have hkind : state.toJs.read (js "peerKind") = .string state.peerKind.text := rfl
  have hid : state.toJs.read (js "peerId") = .string state.peerId := rfl
  have hmax : state.toJs.read (js "maxReadSeq") = .number (.ofNat state.maxReadSeq) := rfl
  have hrecord : isRecord state.toJs = true := rfl
  rw [normalizePeers, hkind, hid, hmax, hrecord, normalizeKind_text, normalizeSeq,
    JsNumber.safeNat_ofNat hseq, normalizePeerId]
  by_cases hempty : state.peerId = []
  · simp [hempty]
  · by_cases hseen : peerKey state.peerKind state.peerId ∈ seen
    · simp [hempty, hseen]
    · cases hrest : normalizePeers (seen ++ [peerKey state.peerKind state.peerId]) items <;>
        simp [hempty, hseen, hrest]

theorem eq_of_normalizePeers {seen : List JsString} {states peers : List PeerReadState}
    (hseq : ∀ state ∈ states, state.maxReadSeq ≤ maxSafeInteger)
    (h : normalizePeers seen (states.map (·.toJs)) = some peers) : peers = states := by
  induction states generalizing seen peers with
  | nil => exact (Option.some_inj.mp h).symm
  | cons state states ih =>
      obtain ⟨hstate, hothers⟩ := List.forall_mem_cons.mp hseq
      rw [List.map_cons, normalizePeers_cons seen hstate] at h
      split at h
      · cases h
      · obtain ⟨rest, hrest, rfl⟩ := Option.map_eq_some_iff.mp h
        rw [ih hothers hrest]

theorem normalizePeers_eq {seen : List JsString} {states : List PeerReadState}
    (hseq : ∀ state ∈ states, state.maxReadSeq ≤ maxSafeInteger)
    (hids : ∀ state ∈ states, state.peerId ≠ [])
    (hdistinct : (states.map fun state => (state.peerKind, state.peerId)).Nodup)
    (hfresh : ∀ state ∈ states, peerKey state.peerKind state.peerId ∉ seen) :
    normalizePeers seen (states.map (·.toJs)) = some states := by
  induction states generalizing seen with
  | nil => rfl
  | cons state states ih =>
      obtain ⟨hstate, hothers⟩ := List.forall_mem_cons.mp hseq
      obtain ⟨hid, hotherIds⟩ := List.forall_mem_cons.mp hids
      obtain ⟨hnew, hotherNew⟩ := List.forall_mem_cons.mp hfresh
      rw [List.map_cons, List.nodup_cons] at hdistinct
      rw [List.map_cons, normalizePeers_cons seen hstate, if_neg (not_or.mpr ⟨hid, hnew⟩),
        ih hothers hotherIds hdistinct.2, Option.map_some]
      intro other hother
      rw [List.mem_append, List.mem_singleton, not_or]
      refine ⟨hotherNew other hother, fun hsame => hdistinct.1 ?_⟩
      obtain ⟨hkind, hpeer⟩ := peerKey_injective hsame
      exact List.mem_map.mpr ⟨other, hother, Prod.ext hkind hpeer⟩

theorem normalizeRows_eq {peerCount previousCount : Nat} {previousSeq : Int}
    {rows : List (Nat × Nat)}
    (hsafe : ∀ row ∈ rows, row.1 ≤ maxSafeInteger ∧ row.2 ≤ maxSafeInteger)
    (hrows : ∀ row ∈ rows,
      previousSeq < row.1 ∧ row.2 ≤ peerCount ∧ row.2 < previousCount)
    (hascending : rows.Pairwise fun first second => first.1 < second.1)
    (hdecreasing : rows.Pairwise fun first second => second.2 < first.2) :
    normalizeRows peerCount previousSeq previousCount (rows.map rowToJs) = some rows := by
  induction rows generalizing previousSeq previousCount with
  | nil => rfl
  | cons row rows ih =>
      obtain ⟨⟨hseq, hcount⟩, hsafeRest⟩ := List.forall_mem_cons.mp hsafe
      obtain ⟨hfirst, hrest⟩ := List.forall_mem_cons.mp hrows
      rw [List.pairwise_cons] at hascending hdecreasing
      have hseqJs : (rowToJs row).read (js "seq") = .number (.ofNat row.1) := rfl
      have hcountJs : (rowToJs row).read (js "count") = .number (.ofNat row.2) := rfl
      have hrecord : isRecord (rowToJs row) = true := rfl
      have hothers : normalizeRows peerCount row.1 row.2 (rows.map rowToJs) = some rows := by
        refine ih hsafeRest (fun other hother => ?_) hascending.2 hdecreasing.2
        exact ⟨by exact_mod_cast hascending.1 other hother, (hrest other hother).2.1,
          hdecreasing.1 other hother⟩
      rw [List.map_cons, normalizeRows, hseqJs, hcountJs, hrecord, normalizeSeq, normalizeCount,
        JsNumber.safeNat_ofNat hseq, JsNumber.safeNat_ofNat hcount]
      simp [hfirst, hothers]

/-! ## Both forms give one answer -/

theorem countsAtLeast_buildPeerReadSummary (states : List PeerReadState) :
    CountsAtLeast (states.map (·.maxReadSeq)) (buildPeerReadSummary states).readCountAtSeq :=
  countsAtLeast_cumulate _

theorem normalize_peerReadSummary {states : List PeerReadState}
    (hseq : ∀ state ∈ states, state.maxReadSeq ≤ maxSafeInteger)
    (hlength : states.length < 2 ^ 32) :
    normalizeReadReceiptHydrate
        (PeerReadHydrate.peerReadSummary (buildPeerReadSummary states)).toJs =
      some (.summary (buildPeerReadSummary states)) := by
  have hcounts := countsAtLeast_buildPeerReadSummary states
  have hbound : ∀ row ∈ (buildPeerReadSummary states).readCountAtSeq,
      row.2 ≤ states.length := by
    intro row hrow
    rw [hcounts.count row hrow]
    exact List.countP_le_length.trans_eq (List.length_map _)
  have hsafeLength : states.length ≤ maxSafeInteger := by
    rw [maxSafeInteger]
    omega
  have hpeerCount : (buildPeerReadSummary states).toJs.read (js "peerCount") =
      .number (.ofNat states.length) := rfl
  have hrowsJs : (buildPeerReadSummary states).toJs.read (js "readCountAtSeq") =
      .array ((buildPeerReadSummary states).readCountAtSeq.map rowToJs) := rfl
  have hrows : normalizeRows states.length (-1) (states.length + 1)
      ((buildPeerReadSummary states).readCountAtSeq.map rowToJs) =
        some (buildPeerReadSummary states).readCountAtSeq := by
    refine normalizeRows_eq (fun row hrow => ?_) (fun row hrow => ?_) hcounts.ascending
      hcounts.decreasing
    · obtain ⟨state, hstate, heq⟩ := List.mem_map.mp (hcounts.occurs row hrow)
      exact ⟨heq ▸ hseq state hstate, (hbound row hrow).trans hsafeLength⟩
    · have hcount := hbound row hrow
      exact ⟨by omega, hcount, by omega⟩
  change normalizeSummary (buildPeerReadSummary states).toJs = _
  rw [normalizeSummary, hpeerCount, hrowsJs, normalizeCount, JsNumber.safeNat_ofNat hsafeLength]
  simp only [Option.bind_eq_bind, Option.bind_some, hrows]
  rfl

theorem normalize_peerReadStates (states : List PeerReadState) :
    normalizeReadReceiptHydrate (PeerReadHydrate.peerReadStates states).toJs =
      (normalizePeers [] (states.map (·.toJs))).map .peers :=
  rfl

theorem foldl_readCount (states : List PeerReadState) (messageSeq count : Nat) :
    states.foldl (fun count state =>
        count + if messageSeq ≤ state.maxReadSeq then 1 else 0) count =
      count + (states.map (·.maxReadSeq)).countP (messageSeq ≤ ·) := by
  induction states generalizing count with
  | nil => rfl
  | cons state states ih =>
      rw [List.foldl_cons, ih, List.map_cons, List.countP_cons]
      simp only [decide_eq_true_eq]
      omega

theorem projectReadReceipt_summary (states : List PeerReadState) (messageSeq : Option JsNumber) :
    projectReadReceipt (some (.summary (buildPeerReadSummary states))) messageSeq =
      projectReadReceipt (some (.peers states)) messageSeq := by
  simp only [projectReadReceipt]
  cases messageSeq.bind JsNumber.safeNat with
  | none => rfl
  | some messageSeq =>
      simp only [(countsAtLeast_buildPeerReadSummary states).lookup messageSeq, foldl_readCount,
        Nat.zero_add]
      rfl

/-- The summary of a list of peers is accepted, the list itself is when its ids are not empty,
and for every message both forms give the same receipt. -/
theorem peerReadSummary_agrees {states : List PeerReadState}
    (hdistinct : (states.map fun state => (state.peerKind, state.peerId)).Nodup)
    (hseq : ∀ state ∈ states, state.maxReadSeq ≤ maxSafeInteger)
    (hlength : states.length < 2 ^ 32) :
    ∃ summary,
      normalizeReadReceiptHydrate
          (PeerReadHydrate.peerReadSummary (buildPeerReadSummary states)).toJs = some summary ∧
        ((∀ state ∈ states, state.peerId ≠ []) →
          (normalizeReadReceiptHydrate (PeerReadHydrate.peerReadStates states).toJs).isSome =
            true) ∧
        ∀ peers,
          normalizeReadReceiptHydrate (PeerReadHydrate.peerReadStates states).toJs = some peers →
            ∀ messageSeq, projectReadReceipt (some summary) messageSeq =
              projectReadReceipt (some peers) messageSeq := by
  refine ⟨_, normalize_peerReadSummary hseq hlength, fun hids => ?_, fun peers hpeers => ?_⟩
  · rw [normalize_peerReadStates, normalizePeers_eq hseq hids hdistinct (by simp)]
    rfl
  · rw [normalize_peerReadStates] at hpeers
    obtain ⟨accepted, haccepted, rfl⟩ := Option.map_eq_some_iff.mp hpeers
    obtain rfl := eq_of_normalizePeers hseq haccepted
    exact projectReadReceipt_summary accepted

/-- Two readers at one frontier and a peer that never read. -/
theorem peerReadSummary_agrees_ties :
    ∃ summary,
      normalizeReadReceiptHydrate (PeerReadHydrate.peerReadSummary (buildPeerReadSummary
          [⟨.agent, js "a", 7⟩, ⟨.agent, js "b", 7⟩, ⟨.agent, js "c", 0⟩])).toJs =
            some summary ∧
        projectReadReceipt (some summary) (some (.ofNat 7)) = ⟨true, 2, 3⟩ := by
  obtain ⟨summary, haccepted, -, hagrees⟩ := @peerReadSummary_agrees
    [⟨.agent, js "a", 7⟩, ⟨.agent, js "b", 7⟩, ⟨.agent, js "c", 0⟩]
    (by decide) (by decide) (by decide)
  exact ⟨summary, haccepted, (hagrees _ rfl (some (.ofNat 7))).trans (by decide)⟩

end Raft.ReadReceipts

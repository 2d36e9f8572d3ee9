import Raft.AgentActivityEvents.Kinds
import Raft.Foundation.JsText
import Raft.Foundation.JsValue
import Raft.Foundation.LatestWindow

/-!
# Activity and trajectory logs

The rows of the two logs of an agent and how a new row is merged into them.  A
trajectory entry is kept with all its fields, since the key that recognises a
repeated entry is the text of the whole entry.
-/

namespace Raft.AgentActivityEvents

open Raft.Foundation

structure AgentActivityState where
  activity : AgentActivity
  activityDetail : JsString
  detailKind : AgentActivityDetailKind
  deliveryConsumption : Option JsValue
  wakeCrashLoop : Option JsValue
  spawnFailure : Option JsValue

def makeActivityState (activity : AgentActivity) (activityDetail : JsString)
    (detailKind : AgentActivityDetailKind) : AgentActivityState where
  activity := activity
  activityDetail := activityDetail
  detailKind := detailKind
  deliveryConsumption := none
  wakeCrashLoop := none
  spawnFailure := none

inductive TrajectoryContent where
  | thinking (text : JsString)
  | toolStart (toolName toolInput : JsString)
  | text (text : JsString)
  | slockAction (title text : JsString)
  | system (title text : JsString)
  | compactionStarted
  | compactionFinished
  | status (activity : AgentActivity) (activityKind : Option AgentActivity) (detail : JsString)
      (detailKind : Option JsString)

structure TrajectoryEntry where
  content : TrajectoryContent
  producerFactId : Option JsString
  otherFields : JsObject

/-- What the log reads off entries: the label of a tool, and the JSON text of an
entry with its keys in the order of the locale. -/
structure EntryTexts where
  getToolActivityLabel : JsString → JsString
  stableTrajectoryEntryKey : TrajectoryEntry → JsString

def deriveActivityFromTrajectoryEntry (texts : EntryTexts) (entry : TrajectoryEntry) :
    Option AgentActivityState :=
  match entry.content with
  | .thinking text =>
      some (makeActivityState .thinking (if text.isEmpty then js "Thinking…" else text) .none)
  | .toolStart toolName _ =>
      some (makeActivityState .working (texts.getToolActivityLabel toolName)
        (if toolName = js "bash" then .runningCommand else .other))
  | .compactionStarted => some (makeActivityState .working [] .compactingContext)
  | .compactionFinished => some (makeActivityState .online [] .compactionFinished)
  | .status activity activityKind detail detailKind =>
      some (makeActivityState (activityKind.getD activity) detail
        (normalizeActivityDetailKind detailKind))
  | _ => none

structure AgentActivityJoinKeys where
  launchId : Option JsString
  clientSeq : Option Int
  probeId : Option JsString

structure SourceIdentity where
  serverSeq : Option Int
  launchId : Option JsString
  clientSeq : Option Int
  probeId : Option JsString

structure ActivityLogEntry extends SourceIdentity where
  timestamp : Int
  activity : AgentActivity
  detail : JsString
  detailKind : AgentActivityDetailKind

structure TrajectoryLogEntry extends SourceIdentity where
  timestamp : Int
  entry : TrajectoryEntry

def assignSeqAndJoinKeys (serverSeq : Option Int) (joinKeys : Option AgentActivityJoinKeys) :
    SourceIdentity where
  serverSeq := serverSeq
  launchId := joinKeys.bind AgentActivityJoinKeys.launchId
  clientSeq := joinKeys.bind AgentActivityJoinKeys.clientSeq
  probeId := joinKeys.bind AgentActivityJoinKeys.probeId

def hasTrajectoryLogSourceIdentity (item : SourceIdentity) : Bool :=
  item.serverSeq.isSome || item.launchId.isSome || item.clientSeq.isSome || item.probeId.isSome

def numberText (number : Int) : JsString :=
  if number < 0 then js "-" ++ decimalText number.natAbs else decimalText number.natAbs

def joinTexts (texts : List JsString) : JsString := (texts.intersperse (js ":")).flatten

def sourceTexts (item : SourceIdentity) : List JsString :=
  [(item.serverSeq.map numberText).getD (js "na"), item.launchId.getD [],
    (item.clientSeq.map numberText).getD [], item.probeId.getD []]

def activityLogKey (item : ActivityLogEntry) : JsString :=
  joinTexts (numberText item.timestamp :: sourceTexts item.toSourceIdentity ++
    [item.activity.text, item.detail, item.detailKind.text])

def trajectoryLogKey (texts : EntryTexts) (item : TrajectoryLogEntry) : JsString :=
  joinTexts (numberText item.timestamp :: sourceTexts item.toSourceIdentity ++
    [texts.stableTrajectoryEntryKey item.entry])

def trajectoryLogVisibleKey (texts : EntryTexts) (item : TrajectoryLogEntry) : JsString :=
  numberText item.timestamp ++ js ":" ++ texts.stableTrajectoryEntryKey item.entry

def logOrder (first second : Int × Option Int) : Prop :=
  first.1 < second.1 ∨ first.1 = second.1 ∧ first.2.getD (-1) ≤ second.2.getD (-1)

instance (first second : Int × Option Int) : Decidable (logOrder first second) :=
  inferInstanceAs (Decidable (_ ∨ _))

def maxActivityLogEntries : Nat := 200

def maxTrajectoryEntries : Nat := 500

/-- The log with the entry in its place, or nothing when it holds the entry already. -/
def appendActivityLog (existing : List ActivityLogEntry) (entry : ActivityLogEntry) :
    Option (List ActivityLogEntry) :=
  if existing.any fun item => activityLogKey item = activityLogKey entry then none
  else
    some (keepLast maxActivityLogEntries ((existing ++ [entry]).insertionSort
      fun first second =>
        logOrder (first.timestamp, first.serverSeq) (second.timestamp, second.serverSeq)))

def shouldDedupeTrajectoryLogEntries (texts : EntryTexts) (first second : TrajectoryLogEntry) :
    Bool :=
  trajectoryLogVisibleKey texts first = trajectoryLogVisibleKey texts second &&
    ((first.entry.producerFactId.any fun factId => !factId.isEmpty) ||
      !hasTrajectoryLogSourceIdentity first.toSourceIdentity ||
      !hasTrajectoryLogSourceIdentity second.toSourceIdentity)

def prefersIncoming (existing incoming : TrajectoryLogEntry) : Bool :=
  !hasTrajectoryLogSourceIdentity existing.toSourceIdentity &&
    hasTrajectoryLogSourceIdentity incoming.toSourceIdentity

def mergeTrajectoryItem (texts : EntryTexts) (merged : Bool × List TrajectoryLogEntry)
    (item : TrajectoryLogEntry) : Bool × List TrajectoryLogEntry :=
  if merged.2.any fun row => trajectoryLogKey texts row = trajectoryLogKey texts item then merged
  else
    match merged.2.findIdx? fun row => shouldDedupeTrajectoryLogEntries texts row item with
    | some index =>
        if merged.2[index]?.any fun row => prefersIncoming row item then
          (true, merged.2.set index item)
        else merged
    | none => (true, merged.2 ++ [item])

def mergeTrajectoryLogs (texts : EntryTexts) (existing incoming : List TrajectoryLogEntry) :
    Option (List TrajectoryLogEntry) :=
  let merged := incoming.foldl (mergeTrajectoryItem texts) (false, existing)
  if merged.1 then
    some (keepLast maxTrajectoryEntries (merged.2.insertionSort fun first second =>
      logOrder (first.timestamp, first.serverSeq) (second.timestamp, second.serverSeq)))
  else none

end Raft.AgentActivityEvents

import Raft.ActivityPanel.Bodies
import Raft.ActivityPanel.Consumer
import Raft.ActivityServer.ChangeLog

/-!
# The panel and its server

The host drains the requests of the consumer into fetches, and pushes arrive
beside them.  Code between two awaits is one step: a drain up to its first
fetch, and the arrival of a response up to the next fetch of the same drain.
The server answers a fetch at any moment between its start and its arrival.
-/

namespace Raft.ActivityPanel

open Raft.Foundation Raft.Activity Raft.ActivityServer Raft.Sync

inductive ActivityCutoverGate where
  | off
  | shadow
  | on
  deriving DecidableEq

/-- The gate only ever downgrades the verdict of the core. -/
def hostWindowAuthority (gate : ActivityCutoverGate) (consumer : ActivityConsumer)
    (scopeId : SyncScopeId) : ActivityWindowAuthority :=
  if gate ≠ .on then .legacy .gateClosed else consumer.windowAuthority scopeId

structure PanelSetting where
  digest : JsValue → JsString
  localeCompare : JsString → JsString → Int
  /-- `JSON.stringify` of a number. -/
  numberText : JsNumber → JsString
  serverId : JsString
  principalId : JsString
  /-- The window that the fetches of a scope ask for. -/
  filterOf : SyncScopeId → ActivityFilter

namespace PanelSetting

variable (setting : PanelSetting)

def caller (requestId : JsString) : Caller := ⟨requestId, setting.serverId, setting.principalId⟩

def scopeId (filter : ActivityFilter) : SyncScopeId := panelScopeId (setting.caller []) filter

end PanelSetting

/-! ## Fetches -/

inductive FetchParams where
  | snapshot
  | difference (epoch : JsString) (afterWatermark : Int)

inductive Continuation where
  | drain (request : SyncRequestDescription) (rest : List SyncRequestDescription)
  | bootstrap

structure Fetch where
  requestId : JsString
  filter : ActivityFilter
  params : FetchParams
  continuation : Continuation
  body : Option JsValue := none

structure Panel where
  consumer : ActivityConsumer
  requestCounter : Nat := 0
  fetches : List Fetch := []
  service : ActivityService := {}

def createPanel (setting : PanelSetting) : Panel where
  consumer := createActivityConsumer setting.numberText

def nextRequestId (requestCounter : Nat) : JsString :=
  js "web-activity-" ++ decimalText requestCounter

/-- The epoch is the one held at call time, the watermark that of the captured request. -/
def fetchParams (consumer : ActivityConsumer) : SyncRequestDescription → FetchParams
  | .snapshot _ _ _ => .snapshot
  | .difference _ scopeId sinceSeq _ =>
      .difference ((consumer.heldEpoch scopeId).getD (js "0")) sinceSeq

/-- The query parameter `String(sinceSeq)` as the route reads it; it refuses a sign. -/
def afterWatermarkOf : Int → Option Nat
  | .ofNat after => some after
  | .negSucc _ => none

section

variable (setting : PanelSetting)

/-- `none` where the route answers 400. -/
def respond (service : ActivityService) (fetch : Fetch) (input : ReconcileInput) :
    Option JsValue :=
  let caller := setting.caller fetch.requestId
  match fetch.params with
  | .snapshot =>
      some (getActivitySnapshot setting.digest setting.localeCompare caller service.tables input)
  | .difference epoch afterWatermark => do
      let epoch ← asUInt64String (.string epoch)
      let after ← afterWatermarkOf afterWatermark
      match getActivityDifference setting.digest setting.localeCompare caller service.tables input
          epoch.value after with
      | .ok body | .conflict body => return body

namespace Panel

variable (panel : Panel)

def startFetch (filter : ActivityFilter) (params : FetchParams) (continuation : Continuation) :
    Panel :=
  { panel with
    requestCounter := panel.requestCounter + 1
    fetches := panel.fetches ++
      [{ requestId := nextRequestId (panel.requestCounter + 1), filter, params, continuation }] }

def drain : List SyncRequestDescription → Panel
  | [] => panel
  | request :: rest =>
      let issued := { panel with
        consumer :=
          panel.consumer.issueRequest request.scopeId (nextRequestId (panel.requestCounter + 1)) }
      issued.startFetch (setting.filterOf request.scopeId) (fetchParams issued.consumer request)
        (.drain request rest)

/-- A response that throws ends its drain. -/
def receive (fetch : Fetch) (body : JsValue) : Panel :=
  match fetch.continuation with
  | .bootstrap =>
      let scopeId := encodeActivityScopeId (body.read (js "scope"))
      let issued := panel.consumer.issueRequest scopeId fetch.requestId
      match issued.acceptSnapshot body with
      | .error _ => { panel with consumer := issued }
      | .ok (_, consumer) => { panel with consumer }
  | .drain request rest =>
      let accepted :=
        if request.isSnapshot then panel.consumer.acceptSnapshot body
        else panel.consumer.acceptDifference body
      match accepted with
      | .error _ => panel
      | .ok (_, consumer) => drain setting { panel with consumer } rest

def answer (index : Nat) (fetch : Fetch) (input : ReconcileInput) : Panel :=
  match respond setting panel.service fetch input with
  | none => { panel with fetches := panel.fetches.eraseIdx index }
  | some body =>
      { panel with
        service := panel.service.reconcile setting.digest input
        fetches := panel.fetches.set index { fetch with body := some body } }

end Panel

/-! ## Events -/

inductive PanelEvent where
  /-- Another client's read brings the tables up to date. -/
  | reconcile (input : ReconcileInput)
  /-- A push of one log entry; entries arrive late, reordered, repeatedly or never. -/
  | push (filter : ActivityFilter) (index : Nat)
  | drain
  | bootstrap (filter : ActivityFilter)
  | answer (index : Nat) (input : ReconcileInput)
  | deliver (index : Nat)

def panelStep (panel : Panel) : PanelEvent → Panel
  | .reconcile input => { panel with service := panel.service.reconcile setting.digest input }
  | .push filter index =>
      match (panel.service.log filter)[index]? with
      | none => panel
      | some entry =>
          match panel.consumer.acceptPush
              (framePush (setting.caller []) filter entry.epoch entry.toLoggedChange) with
          | .error _ => panel
          | .ok (_, consumer) => { panel with consumer }
  | .drain => panel.drain setting panel.consumer.pendingRequests
  | .bootstrap filter => panel.startFetch filter .snapshot .bootstrap
  | .answer index input =>
      match panel.fetches[index]? with
      | none => panel
      | some fetch =>
          if fetch.body.isSome then panel
          else panel.answer setting index fetch { input with filter := fetch.filter }
  | .deliver index =>
      match panel.fetches[index]? with
      | none => panel
      | some fetch =>
          match fetch.body with
          | none => panel
          | some body =>
              { panel with fetches := panel.fetches.eraseIdx index }.receive setting fetch body

end

end Raft.ActivityPanel

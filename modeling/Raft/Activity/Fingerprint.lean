import Raft.Activity.Domain
import Raft.Foundation.CanonicalJson

/-!
# Activity event fingerprints

The fingerprint renders the accepted fact of an event as one text, in which the
rows, tombstones and updates are texts themselves.
-/

namespace Raft.Activity

open Raft.Foundation

def ActivityFrameWindowFact.fields (fact : ActivityFrameWindowFact) : JsObject :=
  (fact.nextCursor.map fun cursor =>
      (js "nextCursor", cursor.elim JsValue.null JsValue.string)).toList ++
    (fact.hasMore.map fun value => (js "hasMore", JsValue.boolean value)).toList ++
    (fact.complete.map fun value => (js "complete", JsValue.boolean value)).toList ++
    (fact.totalCount.map fun value => (js "totalCount", JsValue.number value)).toList ++
    (fact.totalUnreadCount.map fun value => (js "totalUnreadCount", JsValue.number value)).toList

/-- `value ?? null` -/
def orNull : JsValue → JsValue
  | .undefined => .null
  | value => value

section Rendering

-- `JSON.stringify` of a number
variable (numberText : JsNumber → JsString)

def stableStringify (value : JsValue) : JsString :=
  canonicalText numberText (fun first second => first ≤ second) value

def renderedItems (items : List JsValue) : JsValue :=
  .array (items.map fun item => .string (stableStringify numberText item))

def isFrame (event : JsValue) : Bool := (event.read (js "type")).asString? = some (js "frame")

def eventFact (event : JsValue) : List JsValue :=
  [event.read (js "type"),
    orNull (event.read (js "activityVersion")),
    renderedItems numberText ((event.read (js "rows")).arrayItems.filter isRow),
    renderedItems numberText ((event.read (js "tombstones")).arrayItems.filter isTombstone),
    renderedItems numberText (event.read (js "updates")).arrayItems] ++
  if isFrame event then [.object (acceptedActivityFrameWindowFact event).fields] else []

def fingerprintActivityEvent (event : JsValue) : JsString :=
  stableStringify numberText (.array (eventFact numberText event))

end Rendering

end Raft.Activity

import Raft.Foundation.JsText

/-!
# Target spellings

Which spellings may key consumption evidence.  A spelling with surrounding
white space, an empty one and the spellings of JavaScript's `undefined` are
refused; the `dm:@` head is put into lower case.
-/

namespace Raft.SeenPolicy

open Raft.Foundation

/-- `/^undefined(?::|$)/i` -/
def isUndefinedHead (text : JsString) : Bool :=
  startsWithIgnoringCase (js "undefined") text &&
    match text.drop 9 with
    | [] => true
    | unit :: _ => [unit] = js ":"

/-- `/^#?undefined(?::|$)/i`, `/^dm:@undefined(?::|$)/i` or `/:undefined$/i` -/
def isUndefinedSpelling (text : JsString) : Bool :=
  isUndefinedHead (if js "#" <+: text then text.drop 1 else text) ||
    (startsWithIgnoringCase (js "dm:@") text && isUndefinedHead (text.drop 4)) ||
    endsWithIgnoringCase (js ":undefined") text

def isTrustedCanonicalTarget (value : JsString) : Bool :=
  let trimmed := trim value
  if trimmed = [] ∨ trimmed ≠ value then false else !isUndefinedSpelling trimmed

/-- `null` where the spelling is refused. -/
def canonicalizeConsumedTarget (target : JsString) : Option JsString :=
  let trimmed := trim target
  if trimmed = [] ∨ trimmed ≠ target then none
  else
    let normalized :=
      if startsWithIgnoringCase (js "dm:@") target then js "dm:@" ++ target.drop 4 else target
    if normalized = js "#" ∨ normalized.map lowerUnit = js "dm:@" then none
    else if isTrustedCanonicalTarget normalized then some normalized else none

example : canonicalizeConsumedTarget (js "DM:@Ann:12") = some (js "dm:@Ann:12") := by decide

example : canonicalizeConsumedTarget (js "#Undefined:12") = none := by decide

end Raft.SeenPolicy

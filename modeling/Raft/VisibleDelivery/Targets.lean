import Raft.Foundation.JsText
import Raft.Foundation.JsValue

/-!
# Visible targets

The key under which the model sees a message: a channel, a direct message, a
thread of either or a third-party event.  An event may be addressed by its full
id or by the first eight digits; both spellings have one canonical key.
-/

namespace Raft.VisibleDelivery

open Raft.Foundation

/-- What the language says of Unicode case and zod of UUIDs. -/
structure TextRules where
  toLowerCase : JsString → JsString
  isUuid : JsString → Bool

structure VisibleMessage where
  third_party_event : Option JsString
  seq : Option JsNumber
  id : Option JsString
  message_id : Option JsString
  channel_id : Option JsString
  channel_type : Option JsString
  channel_name : Option JsString
  parent_channel_type : Option JsString
  parent_channel_name : Option JsString

def getMessageShortId (messageId : JsString) : JsString :=
  if js "thread-" <+: messageId then messageId.drop 7 else messageId.take 8

/-! ## Event addresses -/

def isHexDigit (unit : CodeUnit) : Bool :=
  isDigit unit || (0x61 ≤ unit.val && unit.val ≤ 0x66)

/-- Runs of hexadecimal digits of the given lengths, with a dash between two runs. -/
def isHexGroups : List Nat → JsString → Bool
  | [], text => text.isEmpty
  | [size], text => text.length = size && text.all isHexDigit
  | size :: sizes, text =>
      (text.take size).length = size && (text.take size).all isHexDigit &&
        (text.drop size).take 1 = js "-" && isHexGroups sizes (text.drop (size + 1))

/-- The pattern ignores case and its one group is put into lower case. -/
def eventIdFromTarget (target : JsString) : Option JsString :=
  let lowered := target.map lowerUnit
  let id := lowered.drop 12
  if js "agent-event:" <+: lowered ∧ (isHexGroups [8] id ∨ isHexGroups [8, 4, 4, 4, 12] id) then
    some id
  else none

def canonicalVisibleTarget (target : JsString) : JsString :=
  match eventIdFromTarget target with
  | some eventId => js "agent-event:" ++ getMessageShortId eventId
  | none => target

/-! ## The target of a message -/

def interpolated (text : Option JsString) : JsString := text.getD (js "undefined")

def isNonEmpty (text : Option JsString) : Bool := text.any fun text => !text.isEmpty

def computeTarget (channelType channelName parentChannelName parentChannelType : Option JsString) :
    JsString :=
  if channelType = some (js "thread") ∧ isNonEmpty parentChannelName then
    let shortId := getMessageShortId (channelName.getD [])
    if parentChannelType = some (js "dm") then
      js "dm:@" ++ interpolated parentChannelName ++ js ":" ++ shortId
    else js "#" ++ interpolated parentChannelName ++ js ":" ++ shortId
  else if channelType = some (js "dm") then js "dm:@" ++ interpolated channelName
  else js "#" ++ interpolated channelName

variable (rules : TextRules) (message : VisibleMessage)

def formatVisibleTarget : JsString :=
  match message.third_party_event with
  | some eventId => js "agent-event:" ++ getMessageShortId (rules.toLowerCase eventId)
  | none =>
      computeTarget message.channel_type message.channel_name message.parent_channel_name
        message.parent_channel_type

def hasTargetMetadata : Bool :=
  message.third_party_event.isSome ||
    if message.channel_type = some (js "thread") then
      isNonEmpty message.parent_channel_name && isNonEmpty message.channel_name
    else isNonEmpty message.channel_type && isNonEmpty message.channel_name

def visibleMessageId : JsString := (message.message_id.or message.id).getD []

/-! ## Canonical keys -/

theorem lowerUnit_of_isHexDigit {unit : CodeUnit} (h : isHexDigit unit = true) :
    lowerUnit unit = unit := by
  simp only [isHexDigit, isDigit, Bool.or_eq_true, Bool.and_eq_true, decide_eq_true_eq] at h
  exact if_neg (by omega)

theorem isHexGroups_take {text : JsString}
    (h : isHexGroups [8] text = true ∨ isHexGroups [8, 4, 4, 4, 12] text = true) :
    isHexGroups [8] (text.take 8) = true := by
  simp only [isHexGroups, Bool.and_eq_true, decide_eq_true_eq] at h ⊢
  obtain ⟨hlength, hdigits⟩ | ⟨⟨⟨hlength, hdigits⟩, -⟩, -⟩ := h
  · rw [List.take_of_length_le hlength.le]
    exact ⟨hlength, hdigits⟩
  · exact ⟨hlength, hdigits⟩

theorem getMessageShortId_eventId {id : JsString}
    (h : isHexGroups [8] id = true ∨ isHexGroups [8, 4, 4, 4, 12] id = true) :
    getMessageShortId id = id.take 8 := by
  refine if_neg fun hthread => ?_
  have hdigits := isHexGroups_take h
  simp only [isHexGroups, Bool.and_eq_true, List.all_eq_true] at hdigits
  obtain ⟨rest, rfl⟩ := hthread
  exact absurd (hdigits.2 (js "t").head! (by simp [js, utf16])) (by decide)

@[simp] theorem canonicalVisibleTarget_canonicalVisibleTarget (target : JsString) :
    canonicalVisibleTarget (canonicalVisibleTarget target) = canonicalVisibleTarget target := by
  cases hid : eventIdFromTarget target with
  | none => simp [canonicalVisibleTarget, hid]
  | some id =>
      have hpattern : isHexGroups [8] id = true ∨ isHexGroups [8, 4, 4, 4, 12] id = true := by
        simp only [eventIdFromTarget] at hid
        split at hid
        · next h =>
            rw [← Option.some.inj hid]
            exact h.2
        · cases hid
      have hshort := isHexGroups_take hpattern
      have hcanonical : canonicalVisibleTarget target = js "agent-event:" ++ id.take 8 := by
        simp only [canonicalVisibleTarget, hid, getMessageShortId_eventId hpattern]
      have hlowered : (js "agent-event:" ++ id.take 8).map lowerUnit =
          js "agent-event:" ++ id.take 8 := by
        rw [List.map_append]
        have hdigits : (id.take 8).map lowerUnit = id.take 8 := by
          simp only [isHexGroups, Bool.and_eq_true, List.all_eq_true] at hshort
          exact (List.map_congr_left fun unit hunit =>
            lowerUnit_of_isHexDigit (hshort.2 unit hunit)).trans (List.map_id _)
        rw [hdigits]
        rfl
      have hagain : eventIdFromTarget (js "agent-event:" ++ id.take 8) = some (id.take 8) := by
        have hdrop : (js "agent-event:" ++ id.take 8).drop 12 = id.take 8 :=
          List.drop_left' rfl
        rw [eventIdFromTarget, hlowered]
        simp only [hdrop, hshort]
        exact if_pos ⟨List.prefix_append _ _, .inl trivial⟩
      rw [hcanonical, canonicalVisibleTarget, hagain]
      simp [getMessageShortId_eventId (.inl hshort)]

end Raft.VisibleDelivery

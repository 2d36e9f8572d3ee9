import Mathlib.Data.List.Basic
import Raft.Foundation.JsString

/-!
# Activities and their detail kinds

The closed sets of an agent's activities and of the detail kinds that refine
them, with their texts on the wire, and the coarse buckets that two producers of
one fact must agree on.
-/

namespace Raft.AgentActivityEvents

open Raft.Foundation

inductive AgentActivity where
  | online
  | thinking
  | working
  | error
  | offline
  deriving DecidableEq

def AgentActivity.text : AgentActivity → JsString
  | .online => js "online"
  | .thinking => js "thinking"
  | .working => js "working"
  | .error => js "error"
  | .offline => js "offline"

def agentActivities : List AgentActivity := [.online, .thinking, .working, .error, .offline]

/-- `parsePushedActivity`: the text is one of `AGENT_ACTIVITIES`. -/
def parsePushedActivity (raw : Option JsString) : Option AgentActivity :=
  agentActivities.find? fun activity => some activity.text = raw

inductive AgentActivityDetailKind where
  | none
  | messageReceived
  | freshnessHold
  | starting
  | runtimeStarting
  | idle
  | runningCommand
  | checkingMessages
  | compactingContext
  | compactionFinished
  | compactionStale
  | reviewingChanges
  | reviewFinished
  | reviewStale
  | runtimeReconnecting
  | runtimeError
  | runtimeCrashed
  | runtimeUnavailable
  | runtimeStalled
  | deliveryUnconsumed
  | wakeCrashLoopBlocked
  | terminalFailurePaused
  | stalledRecovery
  | stopped
  | ready
  | runtimeInterrupted
  | machineDisconnected
  | computerStarted
  | computerRestarted
  | computerUpgraded
  | computerOperationFailed
  | daemonActivity
  | externalActivity
  | syntheticRepair
  | slockAction
  | systemMessage
  | runtimeProgress
  | providerRequestStatus
  | modelRequestStarted
  | modelResponseStarted
  | toolStarted
  | toolEnd
  | thinkingStarted
  | thinkingEnd
  | subagentActivity
  | other
  deriving DecidableEq

def AgentActivityDetailKind.text : AgentActivityDetailKind → JsString
  | .none => js "none"
  | .messageReceived => js "message_received"
  | .freshnessHold => js "freshness_hold"
  | .starting => js "starting"
  | .runtimeStarting => js "runtime_starting"
  | .idle => js "idle"
  | .runningCommand => js "running_command"
  | .checkingMessages => js "checking_messages"
  | .compactingContext => js "compacting_context"
  | .compactionFinished => js "compaction_finished"
  | .compactionStale => js "compaction_stale"
  | .reviewingChanges => js "reviewing_changes"
  | .reviewFinished => js "review_finished"
  | .reviewStale => js "review_stale"
  | .runtimeReconnecting => js "runtime_reconnecting"
  | .runtimeError => js "runtime_error"
  | .runtimeCrashed => js "runtime_crashed"
  | .runtimeUnavailable => js "runtime_unavailable"
  | .runtimeStalled => js "runtime_stalled"
  | .deliveryUnconsumed => js "delivery_unconsumed"
  | .wakeCrashLoopBlocked => js "wake_crash_loop_blocked"
  | .terminalFailurePaused => js "terminal_failure_paused"
  | .stalledRecovery => js "stalled_recovery"
  | .stopped => js "stopped"
  | .ready => js "ready"
  | .runtimeInterrupted => js "runtime_interrupted"
  | .machineDisconnected => js "machine_disconnected"
  | .computerStarted => js "computer_started"
  | .computerRestarted => js "computer_restarted"
  | .computerUpgraded => js "computer_upgraded"
  | .computerOperationFailed => js "computer_operation_failed"
  | .daemonActivity => js "daemon_activity"
  | .externalActivity => js "external_activity"
  | .syntheticRepair => js "synthetic_repair"
  | .slockAction => js "slock_action"
  | .systemMessage => js "system_message"
  | .runtimeProgress => js "runtime_progress"
  | .providerRequestStatus => js "provider_request_status"
  | .modelRequestStarted => js "model_request_started"
  | .modelResponseStarted => js "model_response_started"
  | .toolStarted => js "tool_started"
  | .toolEnd => js "tool_end"
  | .thinkingStarted => js "thinking_started"
  | .thinkingEnd => js "thinking_end"
  | .subagentActivity => js "subagent_activity"
  | .other => js "other"

def agentActivityDetailKinds : List AgentActivityDetailKind :=
  [.none, .messageReceived, .freshnessHold, .starting, .runtimeStarting, .idle,
    .runningCommand, .checkingMessages, .compactingContext, .compactionFinished,
    .compactionStale, .reviewingChanges, .reviewFinished, .reviewStale,
    .runtimeReconnecting, .runtimeError, .runtimeCrashed, .runtimeUnavailable,
    .runtimeStalled, .deliveryUnconsumed, .wakeCrashLoopBlocked, .terminalFailurePaused,
    .stalledRecovery, .stopped, .ready, .runtimeInterrupted, .machineDisconnected,
    .computerStarted, .computerRestarted, .computerUpgraded, .computerOperationFailed,
    .daemonActivity, .externalActivity, .syntheticRepair, .slockAction, .systemMessage,
    .runtimeProgress, .providerRequestStatus, .modelRequestStarted, .modelResponseStarted,
    .toolStarted, .toolEnd, .thinkingStarted, .thinkingEnd, .subagentActivity, .other]

def normalizeActivityDetailKind (raw : Option JsString) : AgentActivityDetailKind :=
  (agentActivityDetailKinds.find? fun kind => some kind.text = raw).getD .other

inductive AgentActivityDetailBucket where
  | none
  | command
  | compaction
  | runtime
  | lifecycle
  | message
  | review
  | external
  | generic
  deriving DecidableEq

def AgentActivityDetailKind.bucket : AgentActivityDetailKind → AgentActivityDetailBucket
  | .none | .idle => .none
  | .runningCommand | .checkingMessages | .toolStarted | .toolEnd => .command
  | .compactingContext | .compactionFinished | .compactionStale => .compaction
  | .runtimeStarting | .runtimeReconnecting | .runtimeError | .runtimeCrashed
    | .runtimeUnavailable | .runtimeStalled | .deliveryUnconsumed | .runtimeInterrupted
    | .runtimeProgress | .providerRequestStatus | .modelRequestStarted
    | .modelResponseStarted | .thinkingStarted | .thinkingEnd => .runtime
  | .freshnessHold | .starting | .wakeCrashLoopBlocked | .terminalFailurePaused
    | .stalledRecovery | .stopped | .ready | .computerStarted | .computerRestarted
    | .computerUpgraded | .computerOperationFailed | .syntheticRepair => .lifecycle
  | .messageReceived | .slockAction | .systemMessage => .message
  | .reviewingChanges | .reviewFinished | .reviewStale => .review
  | .daemonActivity | .externalActivity | .subagentActivity => .external
  | .machineDisconnected | .other => .generic

end Raft.AgentActivityEvents

import Raft.FeatureFlags.ClientRules
import Mathlib.Data.List.Sort

/-!
# Evaluation of a feature flag

A flag is decided by the first rule that hits, stage by stage, and by its
default when none does.  A rule set without bypass conflicts grants a flag
behind a client rule only as the client rule says, or before that stage.
-/

namespace Raft.FeatureFlags

open Raft.Foundation

inductive FeatureFlagRandomizationUnit where
  | user
  | server
  deriving DecidableEq

def FeatureFlagRandomizationUnit.text : FeatureFlagRandomizationUnit → JsString
  | .user => js "user"
  | .server => js "server"

inductive FeatureFlagPlatform where
  | web
  | mobile
  deriving DecidableEq

def FeatureFlagPlatform.text : FeatureFlagPlatform → JsString
  | .web => js "web"
  | .mobile => js "mobile"

inductive ServerPlan where
  | free
  | founder
  | partner
  | pro
  deriving DecidableEq

def ServerPlan.text : ServerPlan → JsString
  | .free => js "free"
  | .founder => js "founder"
  | .partner => js "partner"
  | .pro => js "pro"

inductive FeatureFlagReason where
  | missing_flag
  | kill_switch
  | flag_disabled
  | missing_user_unit
  | missing_server_unit
  | user_rule
  | platform_rule
  | client_rule
  | server_rule
  | audience_rule
  | lab_rule
  | plan_rule
  | percentage_rule
  | default
  deriving DecidableEq

structure FeatureFlagEvaluation where
  key : JsString
  enabled : Bool
  reason : FeatureFlagReason
  variant : Option JsString
  deriving DecidableEq

structure EvaluateFeatureFlagInput where
  key : JsString
  userId : Option JsString
  serverId : Option JsString
  platform : Option FeatureFlagPlatform
  client : Option FeatureFlagClientFacts

structure FeatureFlagRow where
  key : JsString
  enabled : Bool
  killSwitch : Bool
  randomizationUnit : FeatureFlagRandomizationUnit
  defaultEnabled : Bool
  defaultVariant : Option JsString
  salt : JsString

/-- The three JSON columns are read through `asStringArray` only. -/
structure FeatureFlagRuleRow where
  id : JsString
  stage : FeatureFlagRuleStage
  priority : Int
  decision : FeatureFlagRuleDecision
  values : JsValue
  percentageBasisPoints : Option Int
  variant : Option JsString
  clientOs : Option JsValue
  minClientBuild : Option Int
  clientBuildTypes : Option JsValue
  createdAt : Int

/-- The maps that were read before the evaluation. -/
structure FeatureFlagEvaluationPreload where
  matchingAudienceKeysByIdentity : JsString → Option (List JsString)
  effectiveLabKeysByServer : JsString → Option (List JsString)
  billingEntitlementByServer : JsString → Option ServerPlan
  now : Int

/-- `if (!value)` of an optional string: the empty text counts as absent. -/
def truthy (value : Option JsString) : Option JsString := value.filter (· ≠ [])

theorem truthy_eq_some_iff {value : Option JsString} {text : JsString} :
    truthy value = some text ↔ value = some text ∧ text ≠ [] := by
  simp [truthy, Option.filter_eq_some_iff]

def nonEmptyString : JsValue → Option JsString
  | .string text => if text = [] then none else some text
  | _ => none

def asStringArray : JsValue → List JsString
  | .array items => items.filterMap nonEmptyString
  | _ => []

/-- 2026-04-18T00:00:00Z -/
def TRIAL_START_DATE : Int := 1776470400000

/-- 2026-06-23T12:00:00Z -/
def TRIAL_END_DATE : Int := 1782216000000

def isTrialActive (now : Int) : Bool := TRIAL_START_DATE ≤ now && now < TRIAL_END_DATE

def canUseProBillingFeatures (plan : ServerPlan) (now : Int) : Bool :=
  plan = .pro || plan = .founder || plan = .partner || (plan = .free && isTrialActive now)

/-! ## The stages -/

def rulesForStage (rules : List FeatureFlagRuleRow) (stage : FeatureFlagRuleStage) :
    List FeatureFlagRuleRow :=
  (rules.filter (·.stage = stage)).insertionSort fun a b =>
    a.priority < b.priority ∨ (a.priority = b.priority ∧ a.createdAt ≤ b.createdAt)

@[simp] theorem mem_rulesForStage {rules : List FeatureFlagRuleRow} {stage : FeatureFlagRuleStage}
    {rule : FeatureFlagRuleRow} :
    rule ∈ rulesForStage rules stage ↔ rule ∈ rules ∧ rule.stage = stage := by
  simp [rulesForStage, List.mem_insertionSort]

def fromRule (key : JsString) (rule : FeatureFlagRuleRow) (reason : FeatureFlagReason) :
    FeatureFlagEvaluation :=
  let enabled : Bool := rule.decision = .allow
  ⟨key, enabled, reason, if enabled then truthy rule.variant else none⟩

/-- The loop of every stage: the first rule, in the stage's order, that hits. -/
def firstHit (flag : FeatureFlagRow) (rules : List FeatureFlagRuleRow)
    (stage : FeatureFlagRuleStage) (reason : FeatureFlagReason) (hits : FeatureFlagRuleRow → Bool) :
    Option FeatureFlagEvaluation :=
  ((rulesForStage rules stage).find? hits).map fun rule => fromRule flag.key rule reason

/-- An evaluation that was granted by a rule of the stage which hits. -/
def GrantedBy (flag : FeatureFlagRow) (rules : List FeatureFlagRuleRow)
    (stage : FeatureFlagRuleStage) (reason : FeatureFlagReason)
    (hits : FeatureFlagRuleRow → Prop) (evaluation : FeatureFlagEvaluation) : Prop :=
  ∃ rule ∈ rules, rule.stage = stage ∧ rule.decision = .allow ∧ hits rule ∧
    evaluation = fromRule flag.key rule reason

theorem GrantedBy.mono {flag : FeatureFlagRow} {rules : List FeatureFlagRuleRow}
    {stage : FeatureFlagRuleStage} {reason : FeatureFlagReason}
    {hits others : FeatureFlagRuleRow → Prop} {evaluation : FeatureFlagEvaluation}
    (h : GrantedBy flag rules stage reason hits evaluation)
    (himp : ∀ rule, hits rule → others rule) :
    GrantedBy flag rules stage reason others evaluation := by
  obtain ⟨rule, hrule, hstage, hallow, hhits, rfl⟩ := h
  exact ⟨rule, hrule, hstage, hallow, himp rule hhits, rfl⟩

theorem grantedBy_of_firstHit {flag : FeatureFlagRow} {rules : List FeatureFlagRuleRow}
    {stage : FeatureFlagRuleStage} {reason : FeatureFlagReason} {hits : FeatureFlagRuleRow → Bool}
    {evaluation : FeatureFlagEvaluation}
    (h : firstHit flag rules stage reason hits = some evaluation)
    (henabled : evaluation.enabled = true) :
    GrantedBy flag rules stage reason (fun rule => hits rule = true) evaluation := by
  obtain ⟨rule, hfound, rfl⟩ := Option.map_eq_some_iff.mp h
  obtain ⟨hrule, hstage⟩ := mem_rulesForStage.mp (List.mem_of_find?_eq_some hfound)
  exact ⟨rule, hrule, hstage, by simpa [fromRule] using henabled, List.find?_some hfound, rfl⟩

/-- The four stages that compare one value of the context. -/
inductive ExplicitStage where
  | user
  | platform
  | server
  | plan

def ExplicitStage.stage : ExplicitStage → FeatureFlagRuleStage
  | .user => .user
  | .platform => .platform
  | .server => .server
  | .plan => .plan

def ExplicitStage.reason : ExplicitStage → FeatureFlagReason
  | .user => .user_rule
  | .platform => .platform_rule
  | .server => .server_rule
  | .plan => .plan_rule

def matchExplicitRule (flag : FeatureFlagRow) (rules : List FeatureFlagRuleRow)
    (stage : ExplicitStage) (value : Option JsString) : Option FeatureFlagEvaluation :=
  (truthy value).bind fun value =>
    firstHit flag rules stage.stage stage.reason fun rule =>
      (asStringArray rule.values).contains value

def clientConstraints (rule : FeatureFlagRuleRow) : FeatureFlagClientRuleConstraints where
  clientOs := rule.clientOs.map asStringArray
  minClientBuild := rule.minClientBuild
  clientBuildTypes := rule.clientBuildTypes.map asStringArray

def matchClientRule (flag : FeatureFlagRow) (rules : List FeatureFlagRuleRow)
    (input : EvaluateFeatureFlagInput) : Option FeatureFlagEvaluation :=
  (truthy input.serverId).bind fun serverId =>
    firstHit flag rules .client .client_rule fun rule =>
      (asStringArray rule.values).contains serverId &&
        clientRuleConstraintsSatisfied (clientConstraints rule) input.client

def matchPlanRule (flag : FeatureFlagRow) (rules : List FeatureFlagRuleRow) (plan : ServerPlan)
    (now : Int) : Option FeatureFlagEvaluation :=
  firstHit flag rules .plan .plan_rule fun rule =>
    let values := asStringArray rule.values
    let exactMatch := values.contains plan.text
    let proCohortAllowMatch :=
      rule.decision = .allow && plan ≠ .pro && values.contains (js "pro") &&
        canUseProBillingFeatures plan now
    exactMatch || proCohortAllowMatch

def matchLabRule (flag : FeatureFlagRow) (rules : List FeatureFlagRuleRow)
    (effectiveLabKeys : Option (List JsString)) : Option FeatureFlagEvaluation :=
  effectiveLabKeys.bind fun effectiveLabKeys =>
    if effectiveLabKeys.isEmpty then none
    else
      firstHit flag rules .lab .lab_rule fun rule =>
        (asStringArray rule.values).any effectiveLabKeys.contains

def matchAudienceRule (flag : FeatureFlagRow) (rules : List FeatureFlagRuleRow)
    (input : EvaluateFeatureFlagInput)
    (matchingAudienceKeysByIdentity : JsString → Option (List JsString)) :
    Option FeatureFlagEvaluation :=
  let keysOf (kind : JsString) (id : Option JsString) : List JsString :=
    ((truthy id).bind fun id => matchingAudienceKeysByIdentity (kind ++ id)).getD []
  let matchingAudienceKeys :=
    keysOf (js "user:") input.userId ++ keysOf (js "server:") input.serverId
  if matchingAudienceKeys.isEmpty then none
  else
    firstHit flag rules .audience .audience_rule fun rule =>
      (asStringArray rule.values).any matchingAudienceKeys.contains

section

-- The first four bytes of the SHA-256 digest of a text, as a big-endian number.
variable (digest : JsString → Nat)

def computeFeatureFlagBucket (key salt : JsString) (unit : FeatureFlagRandomizationUnit)
    (unitId : JsString) : Nat :=
  digest (salt ++ js ":" ++ key ++ js ":" ++ unit.text ++ js ":" ++ unitId) % 10000

def matchPercentageRule (flag : FeatureFlagRow) (rules : List FeatureFlagRuleRow)
    (input : EvaluateFeatureFlagInput) : Option FeatureFlagEvaluation :=
  let unitId := if flag.randomizationUnit = .server then input.serverId else input.userId
  (truthy unitId).bind fun unitId =>
    let bucket := computeFeatureFlagBucket digest flag.key flag.salt flag.randomizationUnit unitId
    firstHit flag rules .percentage .percentage_rule fun rule =>
      rule.percentageBasisPoints.any fun threshold => (bucket : Int) < threshold

def missingRandomizationUnitReason (flag : FeatureFlagRow) (input : EvaluateFeatureFlagInput) :
    Option FeatureFlagReason :=
  if flag.randomizationUnit = .user ∧ truthy input.userId = none then some .missing_user_unit
  else if flag.randomizationUnit = .server ∧ truthy input.serverId = none then
    some .missing_server_unit
  else none

/-- The stages in their order; each runs only when no earlier one decided. -/
def evaluateFlagRow (flag : Option FeatureFlagRow) (rules : List FeatureFlagRuleRow)
    (input : EvaluateFeatureFlagInput) (preload : FeatureFlagEvaluationPreload) :
    FeatureFlagEvaluation :=
  match flag with
  | none => ⟨input.key, false, .missing_flag, none⟩
  | some flag =>
    if flag.killSwitch then ⟨input.key, false, .kill_switch, none⟩
    else if !flag.enabled then ⟨input.key, false, .flag_disabled, none⟩
    else
      let userRule := matchExplicitRule flag rules .user input.userId
      let platformRule := matchExplicitRule flag rules .platform (input.platform.map (·.text))
      let clientRule := matchClientRule flag rules input
      let serverRule := matchExplicitRule flag rules .server input.serverId
      let audienceRule :=
        matchAudienceRule flag rules input preload.matchingAudienceKeysByIdentity
      let labRule := (truthy input.serverId).bind fun serverId =>
        matchLabRule flag rules (preload.effectiveLabKeysByServer serverId)
      let planRule := (truthy input.serverId).bind fun serverId =>
        if (rulesForStage rules .plan).length > 0 then
          (preload.billingEntitlementByServer serverId).bind fun plan =>
            matchPlanRule flag rules plan preload.now
        else none
      let missingUnit := (missingRandomizationUnitReason flag input).map fun reason =>
        ⟨input.key, false, reason, none⟩
      let percentageRule := matchPercentageRule digest flag rules input
      (userRule <|> platformRule <|> clientRule <|> serverRule <|> audienceRule <|> labRule <|>
        planRule <|> missingUnit <|> percentageRule).getD
        ⟨input.key, flag.defaultEnabled, .default,
          if flag.defaultEnabled then truthy flag.defaultVariant else none⟩

def conflictCheckRows (rows : List FeatureFlagRuleRow) : List FeatureFlagRuleForConflictCheck :=
  rows.map fun row =>
    ⟨row.id, row.stage, row.decision, asStringArray row.values, row.percentageBasisPoints⟩

/-! ## No bypass -/

/-- What an empty conflict report gives for a server that a client allow lists. -/
structure NoBypass (flag : FeatureFlagRow) (rules : List FeatureFlagRuleRow)
    (serverId : JsString) : Prop where
  stage : ∀ rule ∈ rules, rule.decision = .allow →
    rule.stage ≠ .audience ∧ rule.stage ≠ .lab ∧ rule.stage ≠ .plan
  server : ∀ rule ∈ rules, rule.decision = .allow → rule.stage = .server →
    serverId ∉ asStringArray rule.values
  percentage : ∀ rule ∈ rules, rule.decision = .allow → rule.stage = .percentage →
    rule.percentageBasisPoints.getD 0 ≤ 0
  default : flag.defaultEnabled = false

theorem noBypass_of_conflicts_eq_nil {flag : FeatureFlagRow} {rules : List FeatureFlagRuleRow}
    {serverId : JsString}
    (hconflicts : findClientRuleBypassConflicts (conflictCheckRows rules)
      (some flag.defaultEnabled) = [])
    (hlisted : ∃ rule ∈ rules, rule.stage = .client ∧ rule.decision = .allow ∧
      serverId ∈ asStringArray rule.values) : NoBypass flag rules serverId := by
  obtain ⟨clientRule, hclientRule, hclient, hallow, hserverId⟩ := hlisted
  rw [findClientRuleBypassConflicts_eq_nil_iff] at hconflicts
  obtain ⟨hlater, hdefault⟩ :=
    hconflicts _ (List.mem_map_of_mem hclientRule) hclient hallow
  have hnone := fun rule (hrule : rule ∈ rules) (hdecision : rule.decision = .allow) =>
    (conflictsWith_eq_nil_iff _ _).mp (hlater _ (List.mem_map_of_mem hrule) hdecision)
  exact {
    stage := fun rule hrule hdecision =>
      have h := hnone rule hrule hdecision
      ⟨h.1, h.2.1, h.2.2.1⟩
    server := fun rule hrule hdecision hstage =>
      (hnone rule hrule hdecision).2.2.2.1 hstage serverId hserverId
    percentage := fun rule hrule hdecision => (hnone rule hrule hdecision).2.2.2.2
    default := hdefault }

/-! Each stage after the client one grants nothing to such a server. -/

section

variable {flag : FeatureFlagRow} {rules : List FeatureFlagRuleRow}
  {input : EvaluateFeatureFlagInput} {evaluation : FeatureFlagEvaluation} {serverId : JsString}

theorem NoBypass.serverRule (h : NoBypass flag rules serverId)
    (hserver : input.serverId = some serverId)
    (hmatch : matchExplicitRule flag rules .server input.serverId = some evaluation) :
    evaluation.enabled = false := by
  by_contra henabled
  obtain ⟨value, hvalue, hhit⟩ := Option.bind_eq_some_iff.mp hmatch
  obtain ⟨rule, hrule, hstage, hallow, hlists, -⟩ :=
    grantedBy_of_firstHit hhit (by simpa using henabled)
  have hid : serverId = value := by
    rw [truthy_eq_some_iff, hserver] at hvalue
    exact Option.some.inj hvalue.1
  exact h.server rule hrule hallow hstage (hid ▸ List.contains_iff_mem.mp hlists)

theorem NoBypass.firstHit (h : NoBypass flag rules serverId) {stage : FeatureFlagRuleStage}
    {reason : FeatureFlagReason} {hits : FeatureFlagRuleRow → Bool}
    (hforbidden : stage = .audience ∨ stage = .lab ∨ stage = .plan)
    (hhit : FeatureFlags.firstHit flag rules stage reason hits = some evaluation) :
    evaluation.enabled = false := by
  by_contra henabled
  obtain ⟨rule, hrule, rfl, hallow, -⟩ := grantedBy_of_firstHit hhit (by simpa using henabled)
  obtain ⟨haudience, hlab, hplan⟩ := h.stage rule hrule hallow
  rcases hforbidden with hstage | hstage | hstage
  · exact haudience hstage
  · exact hlab hstage
  · exact hplan hstage

theorem NoBypass.audienceRule (h : NoBypass flag rules serverId)
    {keys : JsString → Option (List JsString)}
    (hmatch : matchAudienceRule flag rules input keys = some evaluation) :
    evaluation.enabled = false := by
  simp only [matchAudienceRule] at hmatch
  split at hmatch
  · exact absurd hmatch (by simp)
  · exact h.firstHit (.inl rfl) hmatch

theorem NoBypass.labRule (h : NoBypass flag rules serverId) {keys : Option (List JsString)}
    (hmatch : matchLabRule flag rules keys = some evaluation) : evaluation.enabled = false := by
  obtain ⟨labKeys, -, hrest⟩ := Option.bind_eq_some_iff.mp hmatch
  split at hrest
  · exact absurd hrest (by simp)
  · exact h.firstHit (.inr (.inl rfl)) hrest

theorem NoBypass.planRule (h : NoBypass flag rules serverId) {plan : ServerPlan} {now : Int}
    (hmatch : matchPlanRule flag rules plan now = some evaluation) :
    evaluation.enabled = false :=
  h.firstHit (.inr (.inr rfl)) hmatch

/-- A bucket is not below a threshold of zero or less. -/
theorem NoBypass.percentageRule (h : NoBypass flag rules serverId)
    (hmatch : matchPercentageRule digest flag rules input = some evaluation) :
    evaluation.enabled = false := by
  by_contra henabled
  obtain ⟨unitId, -, hhit⟩ := Option.bind_eq_some_iff.mp hmatch
  obtain ⟨rule, hrule, hstage, hallow, hbelow, -⟩ :=
    grantedBy_of_firstHit hhit (by simpa using henabled)
  have hpoints := h.percentage rule hrule hallow hstage
  cases hthreshold : rule.percentageBasisPoints with
  | none => simp [hthreshold] at hbelow
  | some threshold =>
      simp only [hthreshold, Option.any_some, decide_eq_true_eq, Option.getD_some] at hbelow hpoints
      omega

end

theorem granted_of_stage {Granted : FeatureFlagEvaluation → Prop}
    {stage rest : Option FeatureFlagEvaluation} {fallback : FeatureFlagEvaluation}
    (hstage : ∀ evaluation, stage = some evaluation → evaluation.enabled = true →
      Granted evaluation)
    (hrest : (rest.getD fallback).enabled = true → Granted (rest.getD fallback)) :
    ((stage <|> rest).getD fallback).enabled = true → Granted ((stage <|> rest).getD fallback) := by
  cases stage with
  | none => exact hrest
  | some evaluation => exact hstage evaluation rfl

theorem granted_of_closed_stage {Granted : FeatureFlagEvaluation → Prop}
    {stage rest : Option FeatureFlagEvaluation} {fallback : FeatureFlagEvaluation}
    (hstage : ∀ evaluation, stage = some evaluation → evaluation.enabled = false)
    (hrest : (rest.getD fallback).enabled = true → Granted (rest.getD fallback)) :
    ((stage <|> rest).getD fallback).enabled = true → Granted ((stage <|> rest).getD fallback) :=
  granted_of_stage
    (fun evaluation hdecided henabled =>
      absurd henabled (by simp [hstage evaluation hdecided])) hrest

/-- The grants that a client rule leaves open: by a user rule, by a platform rule, or by a
client rule of the server whose constraints the reported facts meet. -/
def GrantedWithinClientRules (flag : FeatureFlagRow) (rules : List FeatureFlagRuleRow)
    (input : EvaluateFeatureFlagInput) (serverId : JsString)
    (evaluation : FeatureFlagEvaluation) : Prop :=
  GrantedBy flag rules .user .user_rule
      (fun rule => ∃ userId, input.userId = some userId ∧ userId ∈ asStringArray rule.values)
      evaluation ∨
    GrantedBy flag rules .platform .platform_rule
      (fun rule => ∃ platform, input.platform = some platform ∧
        platform.text ∈ asStringArray rule.values) evaluation ∨
    GrantedBy flag rules .client .client_rule
      (fun rule => serverId ∈ asStringArray rule.values ∧
        ConstraintsMet (clientConstraints rule) input.client) evaluation

theorem grantedBy_of_matchExplicitRule {flag : FeatureFlagRow} {rules : List FeatureFlagRuleRow}
    {stage : ExplicitStage} {value : Option JsString} {evaluation : FeatureFlagEvaluation}
    (hmatch : matchExplicitRule flag rules stage value = some evaluation)
    (henabled : evaluation.enabled = true) :
    GrantedBy flag rules stage.stage stage.reason
      (fun rule => ∃ text, value = some text ∧ text ∈ asStringArray rule.values) evaluation := by
  obtain ⟨text, htext, hhit⟩ := Option.bind_eq_some_iff.mp hmatch
  exact (grantedBy_of_firstHit hhit henabled).mono fun rule hlists =>
    ⟨text, (truthy_eq_some_iff.mp htext).1, List.contains_iff_mem.mp hlists⟩

theorem grantedBy_of_matchClientRule {flag : FeatureFlagRow} {rules : List FeatureFlagRuleRow}
    {input : EvaluateFeatureFlagInput} {serverId : JsString} {evaluation : FeatureFlagEvaluation}
    (hserver : input.serverId = some serverId)
    (hmatch : matchClientRule flag rules input = some evaluation)
    (henabled : evaluation.enabled = true) :
    GrantedBy flag rules .client .client_rule
      (fun rule => serverId ∈ asStringArray rule.values ∧
        ConstraintsMet (clientConstraints rule) input.client) evaluation := by
  obtain ⟨text, htext, hhit⟩ := Option.bind_eq_some_iff.mp hmatch
  rw [truthy_eq_some_iff, hserver] at htext
  obtain rfl := Option.some.inj htext.1
  refine (grantedBy_of_firstHit hhit henabled).mono fun rule hhits => ?_
  rw [Bool.and_eq_true, clientRuleConstraintsSatisfied_iff] at hhits
  exact ⟨List.contains_iff_mem.mp hhits.1, hhits.2⟩

/-- Without bypass conflicts, a server behind a client allow gets the flag only through a rule
that runs earlier or through a client allow whose constraints its client meets. -/
theorem evaluateFlagRow_not_bypassed {flag : FeatureFlagRow} {rules : List FeatureFlagRuleRow}
    {input : EvaluateFeatureFlagInput} {preload : FeatureFlagEvaluationPreload}
    {serverId : JsString}
    (hconflicts : findClientRuleBypassConflicts (conflictCheckRows rules)
      (some flag.defaultEnabled) = [])
    (hserver : input.serverId = some serverId)
    (hlisted : ∃ rule ∈ rules, rule.stage = .client ∧ rule.decision = .allow ∧
      serverId ∈ asStringArray rule.values)
    (henabled : (evaluateFlagRow digest (some flag) rules input preload).enabled = true) :
    GrantedWithinClientRules flag rules input serverId
      (evaluateFlagRow digest (some flag) rules input preload) := by
  have hnoBypass := noBypass_of_conflicts_eq_nil hconflicts hlisted
  revert henabled
  rw [evaluateFlagRow]
  split
  · simp
  split
  · simp
  refine granted_of_stage (fun evaluation hmatch henabled =>
    .inl (grantedBy_of_matchExplicitRule hmatch henabled)) ?_
  refine granted_of_stage (fun evaluation hmatch henabled => .inr (.inl ?_)) ?_
  · refine (grantedBy_of_matchExplicitRule hmatch henabled).mono fun rule => ?_
    rintro ⟨text, htext, hlists⟩
    obtain ⟨platform, hplatform, rfl⟩ := Option.map_eq_some_iff.mp htext
    exact ⟨platform, hplatform, hlists⟩
  refine granted_of_stage (fun evaluation hmatch henabled =>
    .inr (.inr (grantedBy_of_matchClientRule hserver hmatch henabled))) ?_
  -- From here on the static check closes every stage, and the default.
  refine granted_of_closed_stage (fun evaluation hmatch =>
    hnoBypass.serverRule hserver hmatch) ?_
  refine granted_of_closed_stage (fun evaluation hmatch => hnoBypass.audienceRule hmatch) ?_
  refine granted_of_closed_stage (fun evaluation hmatch => ?_) ?_
  · obtain ⟨_, -, hmatch⟩ := Option.bind_eq_some_iff.mp hmatch
    exact hnoBypass.labRule hmatch
  refine granted_of_closed_stage (fun evaluation hmatch => ?_) ?_
  · obtain ⟨_, -, hmatch⟩ := Option.bind_eq_some_iff.mp hmatch
    split at hmatch
    · obtain ⟨plan, -, hmatch⟩ := Option.bind_eq_some_iff.mp hmatch
      exact hnoBypass.planRule hmatch
    · exact absurd hmatch (by simp)
  refine granted_of_closed_stage (fun evaluation hmatch => ?_) ?_
  · obtain ⟨reason, -, rfl⟩ := Option.map_eq_some_iff.mp hmatch
    rfl
  cases hpercentage : matchPercentageRule digest flag rules input with
  | none => simp [hnoBypass.default]
  | some evaluation => simp [hnoBypass.percentageRule digest hpercentage]

end

def buildFloorRule : FeatureFlagRuleRow where
  id := js "rule"
  stage := .client
  priority := 0
  decision := .allow
  values := .array [.string (js "s")]
  percentageBasisPoints := none
  variant := none
  clientOs := none
  minClientBuild := some 5
  clientBuildTypes := none
  createdAt := 0

def buildFloorFlag : FeatureFlagRow where
  key := js "flag"
  enabled := true
  killSwitch := false
  randomizationUnit := .server
  defaultEnabled := false
  defaultVariant := none
  salt := js "salt"

def newBuildInput : EvaluateFeatureFlagInput where
  key := js "flag"
  userId := none
  serverId := some (js "s")
  platform := some .mobile
  client := some ⟨some .android, some (.finite 7), none⟩

theorem evaluateFlagRow_newBuild :
    GrantedWithinClientRules buildFloorFlag [buildFloorRule] newBuildInput (js "s")
      (evaluateFlagRow (fun _ => 0) (some buildFloorFlag) [buildFloorRule] newBuildInput
        ⟨fun _ => none, fun _ => none, fun _ => none, 0⟩) :=
  evaluateFlagRow_not_bypassed (fun _ => 0) (by decide) rfl
    ⟨buildFloorRule, by simp, rfl, rfl, by decide⟩ (by decide)

end Raft.FeatureFlags

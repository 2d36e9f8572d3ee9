import Raft.Foundation.JsValue

/-!
# Client rules of a feature flag

A client rule names its servers and constrains what the calling client reported
about itself.  The static check lists every rule of a later stage, and the
default, that could grant the flag to a client which fails the constraints.
-/

namespace Raft.FeatureFlags

open Raft.Foundation

inductive FeatureFlagRuleStage where
  | user
  | platform
  | client
  | server
  | audience
  | lab
  | plan
  | percentage
  deriving DecidableEq

inductive FeatureFlagRuleDecision where
  | allow
  | deny
  deriving DecidableEq

inductive FeatureFlagClientOs where
  | android
  | ios
  | ohos
  deriving DecidableEq

def FeatureFlagClientOs.text : FeatureFlagClientOs → JsString
  | .android => js "android"
  | .ios => js "ios"
  | .ohos => js "ohos"

inductive FeatureFlagClientBuildType where
  | release
  | alpha
  | debug
  deriving DecidableEq

def FeatureFlagClientBuildType.text : FeatureFlagClientBuildType → JsString
  | .release => js "release"
  | .alpha => js "alpha"
  | .debug => js "debug"

/-- What the calling client reported about itself; `null` and absent are alike. -/
structure FeatureFlagClientFacts where
  os : Option FeatureFlagClientOs
  buildNumber : Option JsNumber
  buildType : Option FeatureFlagClientBuildType

structure FeatureFlagClientRuleConstraints where
  clientOs : Option (List JsString)
  minClientBuild : Option Int
  clientBuildTypes : Option (List JsString)

/-- `build < minimum` -/
def buildBelow (build : JsNumber) (minimum : Int) : Bool :=
  match build with
  | .finite value => value < minimum
  | .negativeZero => 0 < minimum
  | .infinity negative => negative
  | .nan => false

def clientRuleConstraintsSatisfied (rule : FeatureFlagClientRuleConstraints)
    (client : Option FeatureFlagClientFacts) : Bool :=
  let osSatisfied :=
    match rule.clientOs with
    | none => true
    | some clientOs => (client.bind (·.os)).any fun os => clientOs.contains os.text
  let buildTypeSatisfied :=
    match rule.clientBuildTypes with
    | none => true
    | some clientBuildTypes =>
        (client.bind (·.buildType)).any fun buildType => clientBuildTypes.contains buildType.text
  let buildSatisfied :=
    match rule.minClientBuild with
    | none => true
    | some minClientBuild =>
        (client.bind (·.buildNumber)).any fun build =>
          build.isSafeInteger && !buildBelow build minClientBuild
  osSatisfied && buildTypeSatisfied && buildSatisfied &&
    (rule.clientOs.isSome || rule.minClientBuild.isSome || rule.clientBuildTypes.isSome)

/-- At least one fact is constrained, and every constrained fact was reported and passes. -/
structure ConstraintsMet (rule : FeatureFlagClientRuleConstraints)
    (client : Option FeatureFlagClientFacts) : Prop where
  os : ∀ clientOs, rule.clientOs = some clientOs →
    ∃ facts os, client = some facts ∧ facts.os = some os ∧ os.text ∈ clientOs
  buildType : ∀ clientBuildTypes, rule.clientBuildTypes = some clientBuildTypes →
    ∃ facts buildType, client = some facts ∧ facts.buildType = some buildType ∧
      buildType.text ∈ clientBuildTypes
  build : ∀ minClientBuild, rule.minClientBuild = some minClientBuild →
    ∃ facts build, client = some facts ∧ facts.buildNumber = some build ∧
      build.isSafeInteger = true ∧ buildBelow build minClientBuild = false
  constrained : rule.clientOs ≠ none ∨ rule.minClientBuild ≠ none ∨ rule.clientBuildTypes ≠ none

/-- A reported fact passes a test exactly when there are facts, they hold it, and it passes. -/
theorem any_bind_iff {Fact : Type} (client : Option FeatureFlagClientFacts)
    (field : FeatureFlagClientFacts → Option Fact) (test : Fact → Bool) :
    (client.bind field).any test = true ↔
      ∃ facts fact, client = some facts ∧ field facts = some fact ∧ test fact = true := by
  rcases client with _ | facts
  · simp
  · cases hfact : field facts <;> simp [hfact]

theorem clientRuleConstraintsSatisfied_iff (rule : FeatureFlagClientRuleConstraints)
    (client : Option FeatureFlagClientFacts) :
    clientRuleConstraintsSatisfied rule client = true ↔ ConstraintsMet rule client := by
  obtain ⟨clientOs, minClientBuild, clientBuildTypes⟩ := rule
  simp only [clientRuleConstraintsSatisfied, Bool.and_eq_true, Bool.or_eq_true]
  constructor
  · rintro ⟨⟨⟨hos, hbuildType⟩, hbuild⟩, hconstrained⟩
    refine ⟨?_, ?_, ?_, ?_⟩
    · rintro _ rfl
      simpa [any_bind_iff] using hos
    · rintro _ rfl
      simpa [any_bind_iff] using hbuildType
    · rintro _ rfl
      simpa [any_bind_iff] using hbuild
    · simpa [Option.isSome_iff_ne_none, or_assoc] using hconstrained
  · intro h
    refine ⟨⟨⟨?_, ?_⟩, ?_⟩, ?_⟩
    · cases clientOs with
      | none => rfl
      | some clientOs => simpa [any_bind_iff] using h.os clientOs rfl
    · cases clientBuildTypes with
      | none => rfl
      | some clientBuildTypes => simpa [any_bind_iff] using h.buildType clientBuildTypes rfl
    · cases minClientBuild with
      | none => rfl
      | some minClientBuild => simpa [any_bind_iff] using h.build minClientBuild rfl
    · simpa [Option.isSome_iff_ne_none, or_assoc] using h.constrained

/-! ## The static check -/

structure FeatureFlagRuleForConflictCheck where
  id : JsString
  stage : FeatureFlagRuleStage
  decision : FeatureFlagRuleDecision
  values : List JsString
  percentageBasisPoints : Option Int

inductive FeatureFlagClientRuleBypassKind where
  | server_allow
  | audience_allow
  | lab_allow
  | plan_allow
  | percentage_allow
  | default_enabled
  deriving DecidableEq

structure FeatureFlagClientRuleBypassConflict where
  kind : FeatureFlagClientRuleBypassKind
  clientRuleId : JsString
  bypassRuleId : Option JsString
  serverId : Option JsString

def conflictsWith (clientRule later : FeatureFlagRuleForConflictCheck) :
    List FeatureFlagClientRuleBypassConflict :=
  match later.stage with
  | .server =>
      (clientRule.values.eraseDups.filter later.values.contains).map fun serverId =>
        ⟨.server_allow, clientRule.id, some later.id, some serverId⟩
  | .audience => [⟨.audience_allow, clientRule.id, some later.id, none⟩]
  | .lab => [⟨.lab_allow, clientRule.id, some later.id, none⟩]
  | .plan => [⟨.plan_allow, clientRule.id, some later.id, none⟩]
  | .percentage =>
      if 0 < later.percentageBasisPoints.getD 0 then
        [⟨.percentage_allow, clientRule.id, some later.id, none⟩]
      else []
  | .user | .platform | .client => []

def findClientRuleBypassConflicts (rules : List FeatureFlagRuleForConflictCheck)
    (defaultEnabled : Option Bool) : List FeatureFlagClientRuleBypassConflict :=
  let clientAllows := rules.filter fun rule => rule.stage = .client ∧ rule.decision = .allow
  let laterAllows := rules.filter fun rule => rule.decision = .allow
  clientAllows.flatMap fun clientRule =>
    laterAllows.flatMap (conflictsWith clientRule) ++
      if defaultEnabled.getD false then
        [⟨.default_enabled, clientRule.id, none, none⟩]
      else []

theorem conflictsWith_eq_nil_iff (clientRule later : FeatureFlagRuleForConflictCheck) :
    conflictsWith clientRule later = [] ↔
      later.stage ≠ .audience ∧ later.stage ≠ .lab ∧ later.stage ≠ .plan ∧
      (later.stage = .server → ∀ serverId ∈ clientRule.values, serverId ∉ later.values) ∧
      (later.stage = .percentage → later.percentageBasisPoints.getD 0 ≤ 0) := by
  obtain ⟨id, stage, decision, values, points⟩ := later
  cases stage <;> simp [conflictsWith]

theorem findClientRuleBypassConflicts_eq_nil_iff (rules : List FeatureFlagRuleForConflictCheck)
    (defaultEnabled : Option Bool) :
    findClientRuleBypassConflicts rules defaultEnabled = [] ↔
      ∀ clientRule ∈ rules, clientRule.stage = .client → clientRule.decision = .allow →
        (∀ later ∈ rules, later.decision = .allow → conflictsWith clientRule later = []) ∧
        defaultEnabled.getD false = false := by
  simp [findClientRuleBypassConflicts, List.flatMap_eq_nil_iff]

end Raft.FeatureFlags

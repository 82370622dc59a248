import VirtualKubelet.Rollout.Ledger

/-!
# The administrator policy

`internal/topologyrollout/policy.go`: the configuration an administrator
writes as one JSON value into a ConfigMap, its validation, and the parsed
policy the controllers work with. Validation also fills the defaults and drops
a disabled drain section, so it returns the configuration it accepts.

`ValidConfig` carries the fact that a configuration came out of the validation;
`ParsedAdminPolicy` is built on it, and nothing after the parser has to ask
again whether a ceiling is positive.

The JSON text is represented by the configuration it decodes to, and the two
digests `AdminPolicyHashes` takes of the canonical text are left open in
`PolicyDigests`: no result depends on how they are computed. As in the ledger,
a text raised while ranging over a map leaves the entry out.
-/

namespace VirtualKubelet.Rollout

open Go

structure LabelSelectorRequirement where
  key : String
  operator : String
  values : List String

structure LabelSelector where
  matchLabels : Map String
  matchExpressions : List LabelSelectorRequirement

/-- `metav1.LabelSelectorAsSelector`, by the error it returns. -/
class Selectors where
  asSelectorError : LabelSelector → Option String

structure AdminDisruptionProtection where
  name : String
  reason : String
  selector : LabelSelector

structure AdminRiskGroup where
  name : String
  selector : LabelSelector
  maxConcurrentTransfers : Int
  maxUnavailable : Int
  maxAggregateTransferBytesPerSecond : Int

structure AdminWorkloadDrainPolicy where
  enabled : Bool
  allowedNamespaces : List String
  maxTimeoutSeconds : Int
  maxPods : Int
  maxTerminationGraceSeconds : Int

structure AdminPolicyConfig where
  appHostingServiceAccountName : String
  networkManagementServiceAccountName : String
  configLeaseNamespace : String
  version : String
  fleetSelector : LabelSelector
  requiredTopologyKeys : List String
  projectedTopologyKeys : List String
  globalMaxConcurrentTransfers : Int
  globalMaxUnavailable : Int
  domainMaxConcurrentTransfers : Map Int
  domainMaxUnavailable : Map Int
  healthFreshnessSeconds : Int
  maxCampaignTargets : Int
  maxActiveReservations : Int
  maxLedgerBytes : Int
  workloadDrain : Option AdminWorkloadDrainPolicy
  disruptionProtections : List AdminDisruptionProtection
  riskGroups : List AdminRiskGroup
  ledgerName : String

def policyVersion : String := "v1"

def defaultMaxCampaignTargets : Int := 100

def maxProjectedTopologyKeys : Nat := 16

def orDefault (value fallback : Int) : Int := if value = 0 then fallback else value

/-- The counts left at zero get their defaults. The drain section is absent in
the original contract; an explicitly disabled one means the same. -/
def AdminPolicyConfig.withDefaults (cfg : AdminPolicyConfig) : AdminPolicyConfig :=
  { cfg with
    maxCampaignTargets := orDefault cfg.maxCampaignTargets defaultMaxCampaignTargets
    maxActiveReservations := orDefault cfg.maxActiveReservations defaultMaxActiveRecords
    maxLedgerBytes := orDefault cfg.maxLedgerBytes defaultMaxSerializedBytes
    workloadDrain := cfg.workloadDrain.filter (·.enabled) }

theorem orDefault_orDefault (value fallback : Int) :
    orDefault (orDefault value fallback) fallback = orDefault value fallback := by
  unfold orDefault
  split_ifs <;> rfl

theorem withDefaults_withDefaults (cfg : AdminPolicyConfig) :
    cfg.withDefaults.withDefaults = cfg.withDefaults := by
  simp only [AdminPolicyConfig.withDefaults, orDefault_orDefault, Option.filter_filter,
    Bool.and_self]

/-! ## Validation -/

def startsWith (s start : String) : Bool := start.toList.isPrefixOf s.toList

def outside (low high value : Int) : Bool := decide (value < low) || decide (high < value)

@[simp] theorem outside_eq_false : outside low high value = false ↔ low ≤ value ∧ value ≤ high := by
  simp [outside]

def joined (what : String) (problems : List String) : String :=
  what ++ ": " ++ String.intercalate "; " problems

/-- The bounds every selector keeps, whatever its keys must be. -/
def selectorEmpty (s : LabelSelector) : Bool :=
  s.matchLabels.len == 0 && s.matchExpressions.length == 0

def selectorTooLarge (s : LabelSelector) : Bool :=
  decide (32 < s.matchLabels.len) || decide (32 < s.matchExpressions.length)

def labelTooLong (key value : String) : Prop := 96 < key.utf8ByteSize ∨ 63 < value.utf8ByteSize

instance {key value : String} : Decidable (labelTooLong key value) := by
  unfold labelTooLong; infer_instance

def requirementTooLong (r : LabelSelectorRequirement) : Bool :=
  decide (96 < r.key.utf8ByteSize) || decide (32 < r.values.length)

section

variable [Upstream] [Selectors]

def configIdentityError (cfg : AdminPolicyConfig) : Option String :=
  let app := Upstream.isDNS1123Label cfg.appHostingServiceAccountName
  let network := Upstream.isDNS1123Label cfg.networkManagementServiceAccountName
  let lease := Upstream.isDNS1123Label cfg.configLeaseNamespace
  firstError
    [(cfg.version != policyVersion,
      "unsupported administrator topology policy version \"" ++ cfg.version ++ "\""),
     (decide (app ≠ []), joined "appHostingServiceAccountName is invalid" app),
     (decide (network ≠ []), joined "networkManagementServiceAccountName is invalid" network),
     (cfg.appHostingServiceAccountName == cfg.networkManagementServiceAccountName,
      "appHostingServiceAccountName and networkManagementServiceAccountName must be different"),
     (cfg.configLeaseNamespace != "" && decide (lease ≠ []),
      joined "configLeaseNamespace is invalid" lease)]

def fleetRequirementError (r : LabelSelectorRequirement) : Option String :=
  firstError
    [(requirementTooLong r,
      "fleetSelector expressions support 96-character keys and at most 32 values"),
     (!startsWith r.key "topology.cisco.vk/",
      "fleetSelector key \"" ++ r.key ++
        "\" must use the admission-protected topology.cisco.vk/ prefix"),
     (r.values.any fun value => decide (63 < value.utf8ByteSize),
      "fleetSelector expression values must be at most 63 characters")]

def fleetSelectorError (s : LabelSelector) : Option String :=
  (firstError
    [(selectorEmpty s, "fleetSelector must be non-empty"),
     (selectorTooLarge s,
      "fleetSelector supports at most 32 matchLabels and 32 matchExpressions"),
     (decide (¬ s.matchLabels.Every fun key value => ¬ labelTooLong key value),
      "fleetSelector matchLabels keys and values must be at most 96 and 63 characters"),
     (decide (¬ s.matchLabels.Every fun key _ => startsWith key "topology.cisco.vk/" = true),
      "fleetSelector key must use the admission-protected topology.cisco.vk/ prefix")]).or <|
  (s.matchExpressions.findSome? fleetRequirementError).or <|
  (Selectors.asSelectorError s).map ("fleetSelector is invalid: " ++ ·)

def ceilingsError (cfg : AdminPolicyConfig) : Option String :=
  firstError
    [(outside 1 defaultMaxCampaignTargets cfg.globalMaxUnavailable,
      "globalMaxUnavailable must be between 1 and 100"),
     (outside 1 defaultMaxCampaignTargets cfg.globalMaxConcurrentTransfers,
      "globalMaxConcurrentTransfers must be between 1 and 100"),
     (outside 1 defaultMaxCampaignTargets cfg.maxCampaignTargets,
      "maxCampaignTargets must be between 1 and 100"),
     (outside 1 defaultMaxActiveRecords cfg.maxActiveReservations,
      "maxActiveReservations must be between 1 and 256"),
     (outside 4096 defaultMaxSerializedBytes cfg.maxLedgerBytes,
      "maxLedgerBytes must be between 4096 and 262144"),
     (outside 30 3600 cfg.healthFreshnessSeconds,
      "healthFreshnessSeconds must be between 30 and 3600")]

/-- The loop over `allowedNamespaces`, with the namespaces already seen. -/
def allowedNamespacesError : List String → List String → Option String
  | _, [] => none
  | seen, ns :: rest =>
    let problems := Upstream.isDNS1123Label ns
    if problems ≠ [] then
      some (joined ("workloadDrain.allowedNamespaces contains invalid namespace \"" ++ ns ++ "\"")
        problems)
    else if ns ∈ seen then
      some ("workloadDrain.allowedNamespaces contains duplicate \"" ++ ns ++ "\"")
    else allowedNamespacesError (ns :: seen) rest

def workloadDrainError (drain : AdminWorkloadDrainPolicy) : Option String :=
  (firstError [(outside 1 16 drain.allowedNamespaces.length,
    "workloadDrain.allowedNamespaces must contain between 1 and 16 entries")]).or <|
  (allowedNamespacesError [] drain.allowedNamespaces).or <|
  firstError
    [(outside 300 7200 drain.maxTimeoutSeconds,
      "workloadDrain.maxTimeoutSeconds must be between 300 and 7200"),
     (outside 1 32 drain.maxPods, "workloadDrain.maxPods must be between 1 and 32"),
     (outside 30 600 drain.maxTerminationGraceSeconds,
      "workloadDrain.maxTerminationGraceSeconds must be between 30 and 600"),
     (decide (drain.maxTimeoutSeconds < drain.maxTerminationGraceSeconds + 120),
      "workloadDrain.maxTimeoutSeconds must be at least maxTerminationGraceSeconds plus 120 seconds")]

/-- One expression of a rule's selector; the key must be a required one. -/
def ruleRequirementError (rule : String) (required : List String)
    (r : LabelSelectorRequirement) : Option String :=
  firstError
    [(decide (r.key ∉ required),
      rule ++ " selector key \"" ++ r.key ++ "\" must be present in requiredTopologyKeys"),
     (requirementTooLong r,
      rule ++ " expressions support 96-character keys and at most 32 values"),
     (r.values.any fun value => decide (63 < value.utf8ByteSize),
      rule ++ " expression values must be at most 63 characters")]

/-- The selector checks that disruption protections and risk groups share;
`rule` is how the texts name the rule. -/
def ruleSelectorError (rule : String) (required : List String) (s : LabelSelector) :
    Option String :=
  (firstError
    [(selectorEmpty s, rule ++ " selector must be non-empty"),
     (selectorTooLarge s,
      rule ++ " selector supports at most 32 matchLabels and 32 matchExpressions"),
     (decide (¬ s.matchLabels.Every fun key _ => key ∈ required),
      rule ++ " selector key must be present in requiredTopologyKeys"),
     (decide (¬ s.matchLabels.Every fun key value => ¬ labelTooLong key value),
      rule ++ " selector keys and values must be at most 96 and 63 characters")]).or <|
  (s.matchExpressions.findSome? (ruleRequirementError rule required)).or <|
  (Selectors.asSelectorError s).map (rule ++ " selector is invalid: " ++ ·)

/-- The loop over named rules: every name is a label and used once, then the
rule's own checks. -/
def namedRulesError {α : Type} (field : String) (name : α → String)
    (check : α → Option String) : Nat → List String → List α → Option String
  | _, _, [] => none
  | i, seen, rule :: rest =>
    let problems := Upstream.isDNS1123Label (name rule)
    (firstError
      [(decide (problems ≠ []),
        joined (field ++ "[" ++ toString i ++ "].name is invalid") problems),
       (decide (name rule ∈ seen),
        field ++ " contains duplicate name \"" ++ name rule ++ "\"")]).or <|
    (check rule).or <|
    namedRulesError field name check (i + 1) (name rule :: seen) rest

def validateDisruptionProtections (cfg : AdminPolicyConfig) : Option String :=
  (firstError [(decide (16 < cfg.disruptionProtections.length),
    "disruptionProtections may contain at most 16 rules")]).or <|
  namedRulesError "disruptionProtections" (·.name)
    (fun rule =>
      let what := "disruption protection \"" ++ rule.name ++ "\""
      (firstError [(rule.reason != "CriticalService" && rule.reason != "SingletonPath",
        what ++ " reason must be CriticalService or SingletonPath")]).or <|
      ruleSelectorError what cfg.requiredTopologyKeys rule.selector)
    0 [] cfg.disruptionProtections

def riskGroupLimitsError (what : String) (group : AdminRiskGroup) : Option String :=
  firstError
    [(outside 1 defaultMaxCampaignTargets group.maxConcurrentTransfers,
      what ++ " maxConcurrentTransfers must be between 1 and 100"),
     (outside 1 defaultMaxCampaignTargets group.maxUnavailable,
      what ++ " maxUnavailable must be between 1 and 100"),
     (outside 0 (2 ^ 40) group.maxAggregateTransferBytesPerSecond,
      what ++ " maxAggregateTransferBytesPerSecond must be between 1 and 1099511627776 when set"),
     (decide (0 < group.maxAggregateTransferBytesPerSecond) &&
        decide (group.maxAggregateTransferBytesPerSecond < group.maxConcurrentTransfers),
      what ++ " maxAggregateTransferBytesPerSecond must provide at least one byte per second for every transfer slot")]

def validateRiskGroups (cfg : AdminPolicyConfig) : Option String :=
  (firstError [(decide (16 < cfg.riskGroups.length),
    "riskGroups may contain at most 16 groups")]).or <|
  namedRulesError "riskGroups" (·.name)
    (fun group =>
      let what := "risk group \"" ++ group.name ++ "\""
      (riskGroupLimitsError what group).or <|
      ruleSelectorError what cfg.requiredTopologyKeys group.selector)
    0 [] cfg.riskGroups

/-- The loop of `validateTopologyKeys`, with the keys already seen. -/
def topologyKeysError (field : String) : List String → List String → Option String
  | _, [] => none
  | seen, key :: rest =>
    let problems := Upstream.isQualifiedName key
    (firstError
      [(decide (96 < key.utf8ByteSize),
        field ++ " contains key \"" ++ key ++ "\" longer than 96 characters"),
       (decide (key ∈ seen), field ++ " contains duplicate \"" ++ key ++ "\""),
       (key != "topology.kubernetes.io/region" && key != "topology.kubernetes.io/zone" &&
          !startsWith key "topology.cisco.vk/" && !startsWith key "operations.cisco.vk/" &&
          !startsWith key "distribution.cisco.vk/",
        field ++ " contains unsupported key \"" ++ key ++ "\""),
       (decide (problems ≠ []),
        joined (field ++ " contains invalid key \"" ++ key ++ "\"") problems)]).or <|
    topologyKeysError field (key :: seen) rest

def validateTopologyKeys (field : String) (keys : List String) : Option String :=
  topologyKeysError field [] keys

def requiredKeysError (cfg : AdminPolicyConfig) : Option String :=
  (firstError
    [(cfg.requiredTopologyKeys.length == 0 ||
        decide (maxProjectedTopologyKeys < cfg.requiredTopologyKeys.length),
      "requiredTopologyKeys must contain between 1 and 16 entries"),
     (decide (maxProjectedTopologyKeys < cfg.projectedTopologyKeys.length),
      "projectedTopologyKeys exceeds 16 entries")]).or <|
  (validateTopologyKeys "requiredTopologyKeys" cfg.requiredTopologyKeys).or <|
  (validateTopologyKeys "projectedTopologyKeys" cfg.projectedTopologyKeys).or <|
  firstError
    [(cfg.projectedTopologyKeys.any fun key =>
        startsWith key "operations.cisco.vk/" || startsWith key "distribution.cisco.vk/",
      "non-scheduling key cannot be projected to scheduler-visible Node labels"),
     (cfg.projectedTopologyKeys.any fun key => decide (key ∉ cfg.requiredTopologyKeys),
      "projected topology key must also be required")]

/-- The topology keys with a budget of either kind. -/
def AdminPolicyConfig.domainKeys (cfg : AdminPolicyConfig) : Finset String :=
  cfg.domainMaxUnavailable.keys ∪ cfg.domainMaxConcurrentTransfers.keys

def domainBudgetsError (cfg : AdminPolicyConfig) : Option String :=
  let unavailable := cfg.domainMaxUnavailable
  let transfers := cfg.domainMaxConcurrentTransfers
  firstError
    [(unavailable.len == 0 || transfers.len == 0,
      "domainMaxUnavailable and domainMaxConcurrentTransfers must be non-empty"),
     (decide (maxProjectedTopologyKeys < unavailable.len) ||
        decide (maxProjectedTopologyKeys < transfers.len),
      "domain budget maps may each contain at most 16 entries"),
     (decide (¬ unavailable.Every fun key _ => key ∈ cfg.requiredTopologyKeys),
      "budget key must be present in requiredTopologyKeys"),
     (decide (¬ unavailable.Every fun _ value =>
        outside 1 defaultMaxCampaignTargets value = false),
      "domainMaxUnavailable must be between 1 and 100"),
     (decide (¬ transfers.Every fun key _ => key ∈ cfg.requiredTopologyKeys),
      "transfer budget key must be present in requiredTopologyKeys"),
     (decide (¬ transfers.Every fun _ value =>
        outside 1 defaultMaxCampaignTargets value = false),
      "domainMaxConcurrentTransfers must be between 1 and 100"),
     (decide (maxProjectedTopologyKeys < cfg.domainKeys.card),
      "combined domain budgets may contain at most 16 topology keys")]

/-- The checks, on a configuration whose defaults are filled. None of the
checks before a default reads the defaulted field. -/
def configError (cfg : AdminPolicyConfig) : Option String :=
  let ledgerName := Upstream.isDNS1123Subdomain cfg.ledgerName
  (configIdentityError cfg).or <|
  (fleetSelectorError cfg.fleetSelector).or <|
  (ceilingsError cfg).or <|
  (cfg.workloadDrain.bind workloadDrainError).or <|
  (validateDisruptionProtections cfg).or <|
  (validateRiskGroups cfg).or <|
  (firstError [(decide (ledgerName ≠ []), joined "ledgerName is invalid" ledgerName)]).or <|
  (requiredKeysError cfg).or <|
  domainBudgetsError cfg

/-- `validateAdminPolicyConfig`, with the configuration as it leaves it. -/
def validateAdminPolicyConfig (cfg : AdminPolicyConfig) : Except String AdminPolicyConfig :=
  match configError cfg.withDefaults with
  | some e => .error e
  | none => .ok cfg.withDefaults

theorem validateAdminPolicyConfig_ok {cfg c : AdminPolicyConfig} :
    validateAdminPolicyConfig cfg = .ok c ↔
      configError c = none ∧ c = cfg.withDefaults := by
  rw [validateAdminPolicyConfig]
  split
  · rename_i e he
    simp only [reduceCtorEq, false_iff]
    rintro ⟨hnone, rfl⟩
    rw [hnone] at he
    cases he
  · rename_i he
    constructor
    · intro h
      cases h
      exact ⟨he, rfl⟩
    · rintro ⟨-, rfl⟩
      rfl

/-! ## Parsed policies -/

/-- A configuration that the validation returned. -/
def ValidConfig : Type :=
  { c : AdminPolicyConfig // ∃ written, validateAdminPolicyConfig written = .ok c }

/-- The policy ConfigMap. `config` is what the value under `policy.json`
decodes to, `none` when it is not one JSON value of the known fields. -/
structure PolicyConfigMap where
  uid : String
  resourceVersion : String
  mapNamespace : String
  mapName : String
  annotations : Map String
  config : Option AdminPolicyConfig

def policyManagedAnnotation : String := "topology.cisco.vk/managed-policy"

def configLeaseNamespaceAnnotation : String := "topology.cisco.vk/config-lease-namespace"

def admissionPrefixAnnotation : String := "topology.cisco.vk/admission-policy-prefix"

def ledgerUIDAnnotation : String := "topology.cisco.vk/ledger-uid"

def decodeAdminPolicyConfig (cm : PolicyConfigMap) : Except String ValidConfig :=
  if cm.uid == "" || cm.resourceVersion == "" then
    .error "administrator topology policy has no Kubernetes identity"
  else if cm.annotations.get "" policyManagedAnnotation != "true" then
    .error "administrator topology policy is not marked managed"
  else
    match cm.config with
    | none => .error "decode administrator topology policy"
    | some written =>
      match h : validateAdminPolicyConfig written with
      | .error e => .error e
      | .ok cfg =>
        if cm.annotations.find configLeaseNamespaceAnnotation ≠ some cfg.configLeaseNamespace then
          .error "administrator topology policy config Lease namespace annotation does not match policy.json"
        else .ok ⟨cfg, written, h⟩

def inspectAdminPolicy (cm : PolicyConfigMap) : Except String (ValidConfig × String) :=
  match decodeAdminPolicyConfig cm with
  | .error e => .error e
  | .ok cfg =>
    match Selectors.asSelectorError cfg.1.fleetSelector with
    | some e => .error ("parse fleet selector: " ++ e)
    | none =>
      let admission := trimSpace (cm.annotations.get "" admissionPrefixAnnotation)
      let problems := Upstream.isDNS1123Subdomain admission
      if problems ≠ [] then
        .error (joined "administrator topology policy has invalid admission policy prefix" problems)
      else .ok (cfg, admission)

structure ParsedAdminPolicy where
  config : ValidConfig
  policyNamespace : String
  policyName : String
  ledgerUID : String
  policyUID : String
  resourceVersion : String

/-- The second parse of the fleet selector cannot fail: `inspectAdminPolicy`
has just made it. -/
def parseAdminPolicy (cm : PolicyConfigMap) : Except String ParsedAdminPolicy :=
  match inspectAdminPolicy cm with
  | .error e => .error e
  | .ok (cfg, _) =>
    let ledgerUID := trimSpace (cm.annotations.get "" ledgerUIDAnnotation)
    if ledgerUID == "" then .error "administrator topology policy has no bound ledger UID"
    else .ok ⟨cfg, cm.mapNamespace, cm.mapName, ledgerUID, cm.uid, cm.resourceVersion⟩

namespace ValidConfig

variable (c : ValidConfig)

theorem noError : configError c.1 = none := by
  obtain ⟨written, h⟩ := c.2
  exact (validateAdminPolicyConfig_ok.mp h).1

/-- Validating again changes nothing, so the digests of a parsed policy are
taken of the very configuration it holds. -/
theorem validates : validateAdminPolicyConfig c.1 = .ok c.1 := by
  obtain ⟨written, h⟩ := c.2
  obtain ⟨hnone, hfilled⟩ := validateAdminPolicyConfig_ok.mp h
  refine validateAdminPolicyConfig_ok.mpr ⟨hnone, ?_⟩
  rw [hfilled, withDefaults_withDefaults]

theorem ceilings : ceilingsError c.1 = none := by
  have h := c.noError
  simp only [configError, Option.or_eq_none_iff] at h
  exact h.2.2.1

theorem domainBudgets : domainBudgetsError c.1 = none := by
  have h := c.noError
  simp only [configError, Option.or_eq_none_iff] at h
  exact h.2.2.2.2.2.2.2.2

end ValidConfig

end

/-! ## Digests -/

/-- The SHA-256 texts `AdminPolicyHashes` takes of the canonical JSON of a
configuration: of all of it, and of the part a frozen plan depends on. -/
class PolicyDigests where
  semantic : AdminPolicyConfig → String
  structural : AdminPolicyConfig → String

def adminPolicyHashes [Upstream] [Selectors] [PolicyDigests] (cfg : AdminPolicyConfig) :
    Except String (String × String) :=
  match validateAdminPolicyConfig cfg with
  | .error e => .error e
  | .ok cfg => .ok (PolicyDigests.semantic cfg, PolicyDigests.structural cfg)

end VirtualKubelet.Rollout

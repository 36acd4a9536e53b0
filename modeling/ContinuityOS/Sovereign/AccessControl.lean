import ContinuityOS.Sovereign.Labels

/-! # Access control by roles

Access is decided by tenant, by the permissions of the roles, by clearance and by one of the
dissemination controls. The other controls are not looked at, so a label can refuse a reader
who is let in here.
-/
namespace ContinuityOS.Sovereign

inductive SovereignRole where
  | sovereignCommander
  | tenantAdmin
  | operatorAnalyst
  | securityAuditor
  | scifAirgapOperator
  | natoLiaisonViewer
deriving DecidableEq

inductive Permission where
  | readPublic
  | readProtected
  | readSecret
  | readTopSecret
  | ingestTelemetry
  | compilePlan
  | triggerWargame
  | mutateNetwork
  | verifyLedger
  | exportCop
  | manageCluster
  | adminTenants
deriving DecidableEq

def Permission.value : Permission → String
  | readPublic => "read_public"
  | readProtected => "read_protected"
  | readSecret => "read_secret"
  | readTopSecret => "read_top_secret"
  | ingestTelemetry => "ingest_telemetry"
  | compilePlan => "compile_plan"
  | triggerWargame => "trigger_wargame"
  | mutateNetwork => "mutate_network"
  | verifyLedger => "verify_ledger"
  | exportCop => "export_cop"
  | manageCluster => "manage_cluster"
  | adminTenants => "admin_tenants"

def rolePermissions : SovereignRole → List Permission
  | .sovereignCommander =>
    [.readPublic, .readProtected, .readSecret, .readTopSecret, .ingestTelemetry, .compilePlan,
      .triggerWargame, .mutateNetwork, .verifyLedger, .exportCop, .manageCluster, .adminTenants]
  | .tenantAdmin =>
    [.readPublic, .readProtected, .readSecret, .ingestTelemetry, .compilePlan, .triggerWargame,
      .mutateNetwork, .verifyLedger, .exportCop, .manageCluster]
  | .operatorAnalyst =>
    [.readPublic, .readProtected, .readSecret, .ingestTelemetry, .compilePlan, .triggerWargame,
      .exportCop]
  | .securityAuditor => [.readPublic, .readProtected, .readSecret, .verifyLedger]
  | .scifAirgapOperator =>
    [.readPublic, .readProtected, .readSecret, .ingestTelemetry, .compilePlan, .manageCluster,
      .verifyLedger]
  | .natoLiaisonViewer => [.readPublic, .readProtected, .exportCop]

structure SovereignIdentity where
  userId : String
  tenantId : String
  roles : List SovereignRole
  clearanceLevel : DataClassification
  citizenshipNation : String

structure AuthorizationDecision where
  userId : String
  tenantId : String
  isAuthorized : Bool
  requestedPermission : Permission
  resourceClassification : DataClassification
  rejectionReason : Option String

section Evaluate
variable (identity : SovereignIdentity) (targetTenantId : String) (requiredPermission : Permission)
  (resourceClassification : DataClassification)
  (requiredDissemination : Option DisseminationControl)

/-- The reason to refuse access, if there is one. -/
def rejectionReason : Option String :=
  if identity.tenantId ≠ targetTenantId ∧ .sovereignCommander ∉ identity.roles then
    some ("Cross-tenant isolation violation: User tenant '" ++ identity.tenantId ++
      "' cannot access target tenant '" ++ targetTenantId ++ "'")
  else if requiredPermission ∉ identity.roles.flatMap rolePermissions then
    some ("Role lacks permission '" ++ requiredPermission.value ++ "'")
  else if identity.clearanceLevel.level < resourceClassification.level then
    some ("Insufficient security clearance: User has '" ++ identity.clearanceLevel.value ++
      "' but resource requires '" ++ resourceClassification.value ++ "'")
  else if requiredDissemination = some .canadianEyesOnly ∧ identity.citizenshipNation ≠ "CAN" then
    some ("Nationality restriction: Resource is CANADIAN_EYES_ONLY but user is '" ++
      identity.citizenshipNation ++ "'")
  else none

def evaluateAccess : AuthorizationDecision where
  userId := identity.userId
  tenantId := identity.tenantId
  isAuthorized := (rejectionReason identity targetTenantId requiredPermission
    resourceClassification requiredDissemination).isNone
  requestedPermission := requiredPermission
  resourceClassification := resourceClassification
  rejectionReason := rejectionReason identity targetTenantId requiredPermission
    resourceClassification requiredDissemination

variable {identity targetTenantId requiredPermission resourceClassification requiredDissemination}

theorem evaluateAccess_authorized_iff :
    (evaluateAccess identity targetTenantId requiredPermission resourceClassification
        requiredDissemination).isAuthorized = true ↔
      (identity.tenantId = targetTenantId ∨ .sovereignCommander ∈ identity.roles) ∧
      (∃ role ∈ identity.roles, requiredPermission ∈ rolePermissions role) ∧
      resourceClassification.level ≤ identity.clearanceLevel.level ∧
      (requiredDissemination = some .canadianEyesOnly → identity.citizenshipNation = "CAN") := by
  have hperms : requiredPermission ∈ identity.roles.flatMap rolePermissions ↔
      ∃ role ∈ identity.roles, requiredPermission ∈ rolePermissions role := List.mem_flatMap
  rw [← hperms]
  unfold evaluateAccess rejectionReason
  split_ifs with htenant hpermission hclearance hnation
  · simp [htenant]
  · simp [hclearance]
  · simp [hnation]
  · rw [not_and_or, not_not, not_not] at htenant
    rw [not_and, not_not] at hnation
    simp only [Option.isNone_none, true_iff]
    exact ⟨htenant, hpermission, not_lt.mp hclearance, hnation⟩
  · simp [hpermission]

end Evaluate

/-- The name that a label uses for a control. -/
def DisseminationControl.labelName : DisseminationControl → Option String
  | canadianEyesOnly => some "CANADIAN_EYES_ONLY"
  | fiveEyes => some "CAN_US_FVEY"
  | noforn => some "NOFORN"
  | natoSecret => none

/-- The label of a Canadian resource under one control. -/
def controlLabel (classification : DataClassification) (name : String) : SecurityLabel where
  classification := classification
  compartments := ∅
  disseminationControls := {name}
  releasableTo := ∅
  ownerNation := "CAN"

/-- Nations that a control admits, where the evaluator does not ask for one. -/
def AdmitsNation (nation : String) : DisseminationControl → Prop
  | .canadianEyesOnly => True
  | .fiveEyes => nation ∈ fiveEyesNations
  | .noforn => nation = "CAN"
  | .natoSecret => True

section Agreement

theorem upper_canadianEyesOnly : upper "CANADIAN_EYES_ONLY" = "CANADIAN_EYES_ONLY" := by decide

theorem upper_fiveEyes : upper "CAN_US_FVEY" = "CAN_US_FVEY" := by decide

theorem upper_noforn : upper "NOFORN" = "NOFORN" := by decide

theorem controlled_controlLabel (classification : DataClassification) {name : String}
    (hupper : upper name = name) (other : String) :
    (controlLabel classification name).controlled other = decide (other = name) := by
  simp [SecurityLabel.controlled, controlLabel, hupper]

/-- An access granted under a control is one that the label of the control admits exactly when
the reader's nation is admitted, which is checked for one control only. -/
theorem evaluateAccess_agrees_iff (identity : SovereignIdentity) (targetTenantId : String)
    (requiredPermission : Permission) (resourceClassification : DataClassification)
    (control : DisseminationControl) (name : String)
    (hname : control.labelName = some name)
    (hgranted : (evaluateAccess identity targetTenantId requiredPermission resourceClassification
      (some control)).isAuthorized = true) :
    (controlLabel resourceClassification name).isAuthorized identity.clearanceLevel
        identity.citizenshipNation ∅ = true ↔
      AdmitsNation identity.citizenshipNation control := by
  obtain ⟨-, -, hlevel, hcanadian⟩ := evaluateAccess_authorized_iff.mp hgranted
  rw [SecurityLabel.isAuthorized_iff]
  cases control with
  | canadianEyesOnly =>
    cases hname
    have hnation := hcanadian rfl
    simp only [controlled_controlLabel _ upper_canadianEyesOnly, decide_eq_true_eq]
    simp [AdmitsNation, hnation, hlevel, controlLabel]
  | fiveEyes =>
    cases hname
    simp only [controlled_controlLabel _ upper_fiveEyes, decide_eq_true_eq]
    simp [AdmitsNation, hlevel, controlLabel]
  | noforn =>
    cases hname
    simp only [controlled_controlLabel _ upper_noforn, decide_eq_true_eq]
    simp [AdmitsNation, hlevel, controlLabel]
  | natoSecret => cases hname

/-- An analyst of an allied or foreign nation. -/
def analystFrom (nation : String) : SovereignIdentity where
  userId := "u"
  tenantId := "t"
  roles := [.operatorAnalyst]
  clearanceLevel := .secret
  citizenshipNation := nation

theorem evaluateAccess_analyst (nation : String) {control : DisseminationControl}
    (h : control ≠ .canadianEyesOnly) :
    (evaluateAccess (analystFrom nation) "t" .compilePlan .secret (some control)).isAuthorized
      = true := by
  rw [evaluateAccess_authorized_iff]
  refine ⟨Or.inl rfl, ⟨.operatorAnalyst, List.mem_singleton_self _, ?_⟩, le_refl _, ?_⟩
  · decide
  · exact fun heq => absurd (Option.some.inj heq) h

theorem evaluateAccess_agrees_usa :
    (controlLabel .secret "CAN_US_FVEY").isAuthorized .secret "USA" ∅ = true ↔
      AdmitsNation "USA" .fiveEyes :=
  evaluateAccess_agrees_iff (analystFrom "USA") "t" .compilePlan .secret .fiveEyes "CAN_US_FVEY" rfl
    (evaluateAccess_analyst "USA" (by decide))

/-- An analyst from elsewhere reads a resource for five nations. -/
theorem evaluateAccess_disagrees :
    ¬ ∀ (identity : SovereignIdentity) (targetTenantId : String) (requiredPermission : Permission)
      (resourceClassification : DataClassification) (control : DisseminationControl)
      (name : String), control.labelName = some name →
      (evaluateAccess identity targetTenantId requiredPermission resourceClassification
        (some control)).isAuthorized = true →
      (controlLabel resourceClassification name).isAuthorized identity.clearanceLevel
        identity.citizenshipNation ∅ = true := by
  intro hagree
  have hadmitted := hagree (analystFrom "RUS") "t" .compilePlan .secret .fiveEyes "CAN_US_FVEY" rfl
    (evaluateAccess_analyst "RUS" (by decide))
  have hfive := ((SecurityLabel.isAuthorized_iff _ _ _ _).mp hadmitted).2.2.2.1
  rw [controlled_controlLabel _ upper_fiveEyes] at hfive
  exact absurd (hfive (Or.inl (decide_eq_true rfl))) (by decide)

end Agreement

end ContinuityOS.Sovereign

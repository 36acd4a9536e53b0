import Mathlib.Data.Prod.Lex
import ContinuityOS.Library.Fallible
import ContinuityOS.Library.Sorting
import ContinuityOS.Reconcile.Completeness

/-! # Advisory remediation

Every check that is not compliant gives options: those of its template, or a generic one that must
pass the length checks of an option. The options of a plan are ranked, never carried out.
-/
namespace ContinuityOS.Reconcile
open Library

structure RemediationOption where
  name : String
  description : String
  addressesCheck : String
  estimatedContinuityImprovement : ℚ
  estimatedCost : Option ℚ := none
  dependencyChanges : List String := []
  constraints : List String := []
  confidence : ℚ := 1 / 2
  requiresHumanApproval : Bool := true
  priority : ℕ := 1
deriving DecidableEq

structure RemediationPlan where
  options : List RemediationOption
  totalEstimatedImprovement : ℚ
  advisoryNotice : String :=
    "All remediation options are advisory. Human review and approval " ++
    "is required before any action is taken. ContinuityOS does not " ++
    "automatically execute remediation actions."
  summary : String

/-- The fields of an option that fail their checks. -/
structure InvalidOption where
  fields : List String
deriving DecidableEq

structure RemediationTemplate where
  name : String
  description : String
  improvement : ℚ
  priority : ℕ
deriving DecidableEq

def remediationTemplates : List (String × List RemediationTemplate) :=
  [("SATCOM_PROVIDER_COUNT",
    [{ name := "Add second SATCOM provider"
       description := "Contract an independent satellite communications provider " ++
         "to eliminate single-provider dependency"
       improvement := 15 / 100, priority := 1 },
     { name := "Deploy backup HF radio"
       description := "Install HF radio as independent communications fallback"
       improvement := 8 / 100, priority := 2 }]),
   ("FUEL_RESERVE",
    [{ name := "Emergency fuel resupply"
       description := "Schedule priority fuel delivery via available route"
       improvement := 12 / 100, priority := 1 },
     { name := "Reduce non-essential fuel consumption"
       description := "Implement fuel conservation measures to extend reserves"
       improvement := 6 / 100, priority := 2 }]),
   ("MEDICAL_RESERVE",
    [{ name := "Emergency medical resupply"
       description := "Schedule priority medical supply delivery"
       improvement := 10 / 100, priority := 1 }]),
   ("ROUTE_COUNT",
    [{ name := "Activate alternate route"
       description := "Open secondary supply route through alternate corridor"
       improvement := 15 / 100, priority := 1 },
     { name := "Pre-position critical supplies"
       description := "Forward-deploy critical inventory to reduce route dependency"
       improvement := 8 / 100, priority := 2 }]),
   ("NAVIGATION_SOURCE_COUNT",
    [{ name := "Add independent navigation source"
       description := "Deploy additional GNSS/PNT receiver or inertial navigation backup"
       improvement := 10 / 100, priority := 1 }]),
   ("OVERALL_CONTINUITY",
    [{ name := "Reduce dependency concentration"
       description := "Diversify critical service providers across independent vendors"
       improvement := 10 / 100, priority := 1 },
     { name := "Increase reserve inventory"
       description := "Build additional strategic reserves for critical commodities"
       improvement := 8 / 100, priority := 2 },
     { name := "Add second communications provider"
       description := "Contract independent backup communications service"
       improvement := 12 / 100, priority := 1 }])]

def templatesFor (checkId : String) : List RemediationTemplate :=
  (Bindings.lookup remediationTemplates checkId).getD []

def fromTemplate (check : ReconciliationCheck) (template : RemediationTemplate) :
    RemediationOption where
  name := template.name
  description := template.description
  addressesCheck := check.checkId
  estimatedContinuityImprovement := template.improvement
  confidence := 5 / 10
  priority := template.priority

/-- The option for a check without templates. -/
def genericOption (check : ReconciliationCheck) : RemediationOption where
  name := "Address " ++ check.checkId
  description :=
    stripText ("Remediate: " ++ check.description ++ ". " ++ check.deficit.getD "")
  addressesCheck := check.checkId
  estimatedContinuityImprovement := 5 / 100
  confidence := 3 / 10
  priority := 3

/-- The declared bounds of an option's texts, its improvement, confidence and priority. -/
def RemediationOption.invalidFields (option : RemediationOption) : List String :=
  (if 1 ≤ option.name.length ∧ option.name.length ≤ 256 then [] else ["name"]) ++
  (if 1 ≤ option.description.length ∧ option.description.length ≤ 1024 then []
    else ["description"]) ++
  (if 0 ≤ option.estimatedContinuityImprovement ∧ option.estimatedContinuityImprovement ≤ 1 then []
    else ["estimated_continuity_improvement"]) ++
  (if 0 ≤ option.confidence ∧ option.confidence ≤ 1 then [] else ["confidence"]) ++
  if 1 ≤ option.priority ∧ option.priority ≤ 5 then [] else ["priority"]

/-- The option, when its fields pass their checks. -/
def validated (option : RemediationOption) : Except InvalidOption RemediationOption :=
  if option.invalidFields = [] then .ok option else .error ⟨option.invalidFields⟩

def generateOptionsForCheck (check : ReconciliationCheck) :
    Except InvalidOption (List RemediationOption) :=
  if templatesFor check.checkId = [] then [genericOption check].mapM validated
  else ((templatesFor check.checkId).map (fromTemplate check)).mapM validated

/-- The checks that need options. -/
def openChecks (reconciliation : ReconciliationResult) : List ReconciliationCheck :=
  reconciliation.checks.filter fun check => check.status ≠ .compliant

/-- The lower priority number first, then the greater improvement. -/
def rank (option : RemediationOption) : ℕ ×ₗ ℚ :=
  toLex (option.priority, -option.estimatedContinuityImprovement)

def planOf (reconciliation : ReconciliationResult) (options : List RemediationOption) :
    RemediationPlan :=
  let ranked := sortedBy rank options
  let total := min 1 (ranked.map RemediationOption.estimatedContinuityImprovement).sum
  let failed := (reconciliation.checks.filter fun check => check.status = .fail).length
  { options := ranked
    totalEstimatedImprovement := roundDigits 6 total
    summary := String.intercalate "; " <|
      [s!"{ranked.length} remediation options generated"] ++
      (if ranked = [] then [] else ["estimated total improvement: " ++ percent total]) ++
      if failed = 0 then [] else [s!"{failed} critical failures addressed"] }

def generateRemediation (reconciliation : ReconciliationResult) :
    Except InvalidOption RemediationPlan := do
  let options ← (openChecks reconciliation).mapM generateOptionsForCheck
  return planOf reconciliation options.flatten

/-- What a check is answered with when its options pass their checks. -/
def optionsOf (check : ReconciliationCheck) : List RemediationOption :=
  if templatesFor check.checkId = [] then [genericOption check]
  else (templatesFor check.checkId).map (fromTemplate check)

/-- The generic option for the check, where one is made, passes its checks. -/
def Presentable (check : ReconciliationCheck) : Prop :=
  templatesFor check.checkId = [] → (genericOption check).invalidFields = []

section Options
variable {check : ReconciliationCheck}

/-- The bounds that a template meets. -/
def RemediationTemplate.Sound (template : RemediationTemplate) : Prop :=
  (1 ≤ template.name.length ∧ template.name.length ≤ 256) ∧
    (1 ≤ template.description.length ∧ template.description.length ≤ 1024) ∧
    (0 < template.improvement ∧ template.improvement ≤ 1) ∧
    1 ≤ template.priority ∧ template.priority ≤ 5

instance (template : RemediationTemplate) : Decidable template.Sound :=
  inferInstanceAs (Decidable (_ ∧ _))

theorem template_sound {checkId : String} {template : RemediationTemplate}
    (h : template ∈ templatesFor checkId) : template.Sound := by
  have hall : ∀ entry ∈ remediationTemplates, ∀ template ∈ entry.2, template.Sound := by
    decide +kernel
  rw [templatesFor] at h
  cases hfound : Bindings.lookup remediationTemplates checkId with
  | none => simp [hfound] at h
  | some templates =>
    rw [hfound, Option.getD_some] at h
    exact hall _ (Bindings.mem_of_lookup _ _ _ hfound) template h

/-- What a plan relies on in each of its options. -/
structure OptionFor (check : ReconciliationCheck) (option : RemediationOption) : Prop where
  addresses : option.addressesCheck = check.checkId
  approval : option.requiresHumanApproval = true
  improves : 0 < option.estimatedContinuityImprovement
  valid : option.invalidFields = []

theorem optionFor_of_mem (h : Presentable check) {option : RemediationOption}
    (hmem : option ∈ optionsOf check) : OptionFor check option := by
  rw [optionsOf] at hmem
  split_ifs at hmem with hnone
  · rw [List.mem_singleton.mp hmem]
    exact ⟨rfl, rfl, by norm_num [genericOption], h hnone⟩
  · obtain ⟨template, htemplate, rfl⟩ := List.mem_map.mp hmem
    obtain ⟨hname, hdescription, himprovement, hpriority⟩ := template_sound htemplate
    refine ⟨rfl, rfl, himprovement.1, ?_⟩
    have hconfidence : (0 : ℚ) ≤ 5 / 10 ∧ (5 / 10 : ℚ) ≤ 1 := by norm_num
    dsimp only [RemediationOption.invalidFields, fromTemplate]
    rw [if_pos hname, if_pos hdescription, if_pos ⟨himprovement.1.le, himprovement.2⟩,
      if_pos hconfidence, if_pos hpriority]
    rfl

theorem optionsOf_ne_nil (check : ReconciliationCheck) : optionsOf check ≠ [] := by
  rw [optionsOf]
  split_ifs with hnone
  · exact List.cons_ne_nil _ _
  · exact fun h => hnone (List.map_eq_nil_iff.mp h)

theorem generateOptionsForCheck_ok (h : Presentable check) :
    generateOptionsForCheck check = .ok (optionsOf check) := by
  have hvalidated : ∀ option ∈ optionsOf check, validated option = .ok option :=
    fun option hmem => if_pos (optionFor_of_mem h hmem).valid
  have hmap := mapM_eq_ok hvalidated
  rw [List.map_id'] at hmap
  rw [← hmap, generateOptionsForCheck, optionsOf]
  split_ifs <;> rfl

theorem generateOptionsForCheck_error (h : ¬ Presentable check) :
    generateOptionsForCheck check = .error ⟨(genericOption check).invalidFields⟩ := by
  obtain ⟨hnone, hinvalid⟩ := Classical.not_imp.mp h
  rw [generateOptionsForCheck, if_pos hnone, List.mapM_cons, validated, if_neg hinvalid,
    error_bind]

theorem mem_openChecks {reconciliation : ReconciliationResult} :
    check ∈ openChecks reconciliation ↔
      check ∈ reconciliation.checks ∧ check.status ≠ .compliant := by
  rw [openChecks, List.mem_filter, decide_eq_true_eq]

end Options

section Plan
variable {reconciliation : ReconciliationResult}

theorem generateRemediation_ok (h : ∀ check ∈ openChecks reconciliation, Presentable check) :
    generateRemediation reconciliation =
      .ok (planOf reconciliation ((openChecks reconciliation).flatMap optionsOf)) := by
  have hmap := mapM_eq_ok fun check hcheck => generateOptionsForCheck_ok (h check hcheck)
  rw [generateRemediation, hmap, ok_bind]
  rfl

theorem generateRemediation_error (h : ¬ ∀ check ∈ openChecks reconciliation, Presentable check) :
    ∃ check ∈ openChecks reconciliation, ¬ Presentable check ∧
      generateRemediation reconciliation = .error ⟨(genericOption check).invalidFields⟩ := by
  have hfails : ¬ ∃ options, (openChecks reconciliation).mapM generateOptionsForCheck =
      .ok options := by
    intro hok
    refine h fun check hcheck => by_contra fun hnot => ?_
    obtain ⟨options, hoptions⟩ := mapM_ok_iff.mp hok check hcheck
    rw [generateOptionsForCheck_error hnot] at hoptions
    cases hoptions
  obtain ⟨check, hcheck, error, hfail, hall⟩ := mapM_error hfails
  have hnot : ¬ Presentable check := by
    intro hpresentable
    rw [generateOptionsForCheck_ok hpresentable] at hfail
    cases hfail
  rw [generateOptionsForCheck_error hnot] at hfail
  refine ⟨check, hcheck, hnot, ?_⟩
  rw [generateRemediation, hall, error_bind, ← Except.error.inj hfail]

theorem mem_planOf {options : List RemediationOption} {option : RemediationOption} :
    option ∈ (planOf reconciliation options).options ↔ option ∈ options := mem_sortedBy _ _ _

theorem planOf_eq_nil {options : List RemediationOption} :
    (planOf reconciliation options).options = [] ↔ options = [] := by
  rw [← List.length_eq_zero_iff, ← List.length_eq_zero_iff, planOf,
    (sortedBy_perm rank options).length_eq]

theorem flatMap_optionsOf_eq_nil {found : List ReconciliationCheck} :
    found.flatMap optionsOf = [] ↔ found = [] := by
  cases found with
  | nil => simp
  | cons check found => simp [optionsOf_ne_nil]

theorem openChecks_eq_nil : openChecks reconciliation = [] ↔
    ∀ check ∈ reconciliation.checks, check.status = .compliant := by
  simp [openChecks]

theorem planOf_ranked (options : List RemediationOption) :
    (planOf reconciliation options).options.Pairwise fun a b => a.priority < b.priority ∨
      a.priority = b.priority ∧
        b.estimatedContinuityImprovement ≤ a.estimatedContinuityImprovement := by
  refine (pairwise_sortedBy rank options).imp fun {a b} hle => ?_
  have hlex := Prod.Lex.le_iff.mp hle
  simpa [rank] using hlex

end Plan

/-- From a desired and an observed state to ranked options: they answer every requirement that is
not met and nothing else, and they are held back only when an option for a check without templates
cannot be written down. -/
theorem remediate_reconcile (floatText : ℚ → String) (desired : DesiredState)
    (actual : ActualState) :
    (∃ plan, generateRemediation (reconcile floatText desired actual) = .ok plan ∧
      (plan.options = [] ↔ CheckedRequirementsMet desired actual) ∧
      (∀ check ∈ checks floatText desired actual, check.status ≠ .compliant →
        ∃ option ∈ plan.options, OptionFor check option) ∧
      (∀ option ∈ plan.options, ∃ check ∈ checks floatText desired actual,
        check.status ≠ .compliant ∧ OptionFor check option) ∧
      plan.options.Pairwise (fun a b => a.priority < b.priority ∨ a.priority = b.priority ∧
        b.estimatedContinuityImprovement ≤ a.estimatedContinuityImprovement) ∧
      0 ≤ plan.totalEstimatedImprovement ∧ plan.totalEstimatedImprovement ≤ 1 ∧
      plan.totalEstimatedImprovement = roundDigits 6 (min 1
        (plan.options.map RemediationOption.estimatedContinuityImprovement).sum)) ∨
    ∃ check ∈ checks floatText desired actual, check.status ≠ .compliant ∧
      templatesFor check.checkId = [] ∧ (genericOption check).invalidFields ≠ [] ∧
      generateRemediation (reconcile floatText desired actual) =
        .error ⟨(genericOption check).invalidFields⟩ := by
  set reconciliation := reconcile floatText desired actual with hreconciliation
  by_cases hall : ∀ check ∈ openChecks reconciliation, Presentable check
  · have hanswered : ∀ check ∈ openChecks reconciliation, ∀ option ∈ optionsOf check,
        OptionFor check option := fun check hcheck _ => optionFor_of_mem (hall check hcheck)
    refine Or.inl ⟨_, generateRemediation_ok hall, ?_, fun check hcheck hopen => ?_,
      fun option hoption => ?_, ?_, ?_, ?_, rfl⟩
    · rw [← checks_compliant_iff floatText, planOf_eq_nil, flatMap_optionsOf_eq_nil,
        openChecks_eq_nil]
      rfl
    · have hlisted : check ∈ openChecks reconciliation := mem_openChecks.mpr ⟨hcheck, hopen⟩
      obtain ⟨option, hoption⟩ := List.exists_mem_of_ne_nil _ (optionsOf_ne_nil check)
      exact ⟨option, mem_planOf.mpr (List.mem_flatMap.mpr ⟨check, hlisted, hoption⟩),
        hanswered check hlisted option hoption⟩
    · obtain ⟨check, hcheck, hmem⟩ := List.mem_flatMap.mp (mem_planOf.mp hoption)
      obtain ⟨hlisted, hopen⟩ := mem_openChecks.mp hcheck
      exact ⟨check, hlisted, hopen, hanswered check hcheck option hmem⟩
    · exact planOf_ranked _
    · refine roundDigits_nonneg 6 (le_min zero_le_one (List.sum_nonneg fun improvement hmem => ?_))
      obtain ⟨option, hoption, rfl⟩ := List.mem_map.mp hmem
      obtain ⟨check, hcheck, hanswer⟩ := List.mem_flatMap.mp ((mem_sortedBy _ _ _).mp hoption)
      exact (hanswered check hcheck option hanswer).improves.le
    · exact roundDigits_le_one 6 (min_le_left _ _)
  · obtain ⟨check, hcheck, hnot, herror⟩ := generateRemediation_error hall
    obtain ⟨hmem, hopen⟩ := mem_openChecks.mp hcheck
    obtain ⟨hnone, hinvalid⟩ := Classical.not_imp.mp hnot
    exact Or.inr ⟨check, hmem, hopen, hnone, hinvalid, herror⟩

end ContinuityOS.Reconcile

import ContinuityOS.Library.KeySearch
import ContinuityOS.Sovereign.Labels

/-! # Smart cards and attributes

The subject of a certificate is read by searches for keys, and the citizenship found decides
about resources for Canadian eyes only. A country that is not among the known names counts as
Canada, and the country is searched for anywhere in the subject.
-/
namespace ContinuityOS.Sovereign
open Library

structure AuthenticatedIdentity where
  identityId : String
  commonName : String
  organization : String
  citizenship : String
  clearanceLevel : DataClassification
  roles : List String
  authenticatedVia : String
deriving DecidableEq

/-- The code points of digits, the superscripts and circled ones among them. -/
def digitRanges : List (ℕ × ℕ) :=
  [(0x30, 0x39), (0xB2, 0xB3), (0xB9, 0xB9), (0x660, 0x669), (0x6F0, 0x6F9), (0x7C0, 0x7C9),
    (0x966, 0x96F), (0x9E6, 0x9EF), (0xA66, 0xA6F), (0xAE6, 0xAEF), (0xB66, 0xB6F),
    (0xBE6, 0xBEF), (0xC66, 0xC6F), (0xCE6, 0xCEF), (0xD66, 0xD6F), (0xDE6, 0xDEF),
    (0xE50, 0xE59), (0xED0, 0xED9), (0xF20, 0xF29), (0x1040, 0x1049), (0x1090, 0x1099),
    (0x1369, 0x1371), (0x17E0, 0x17E9), (0x1810, 0x1819), (0x1946, 0x194F), (0x19D0, 0x19DA),
    (0x1A80, 0x1A89), (0x1A90, 0x1A99), (0x1B50, 0x1B59), (0x1BB0, 0x1BB9), (0x1C40, 0x1C49),
    (0x1C50, 0x1C59), (0x2070, 0x2070), (0x2074, 0x2079), (0x2080, 0x2089), (0x2460, 0x2468),
    (0x2474, 0x247C), (0x2488, 0x2490), (0x24EA, 0x24EA), (0x24F5, 0x24FD), (0x24FF, 0x24FF),
    (0x2776, 0x277E), (0x2780, 0x2788), (0x278A, 0x2792), (0xA620, 0xA629), (0xA8D0, 0xA8D9),
    (0xA900, 0xA909), (0xA9D0, 0xA9D9), (0xA9F0, 0xA9F9), (0xAA50, 0xAA59), (0xABF0, 0xABF9),
    (0xFF10, 0xFF19), (0x104A0, 0x104A9), (0x10A40, 0x10A43), (0x10D30, 0x10D39),
    (0x10E60, 0x10E68), (0x11052, 0x1105A), (0x11066, 0x1106F), (0x110F0, 0x110F9),
    (0x11136, 0x1113F), (0x111D0, 0x111D9), (0x112F0, 0x112F9), (0x11450, 0x11459),
    (0x114D0, 0x114D9), (0x11650, 0x11659), (0x116C0, 0x116C9), (0x11730, 0x11739),
    (0x118E0, 0x118E9), (0x11950, 0x11959), (0x11C50, 0x11C59), (0x11D50, 0x11D59),
    (0x11DA0, 0x11DA9), (0x16A60, 0x16A69), (0x16AC0, 0x16AC9), (0x16B50, 0x16B59),
    (0x1D7CE, 0x1D7FF), (0x1E140, 0x1E149), (0x1E2F0, 0x1E2F9), (0x1E950, 0x1E959),
    (0x1F100, 0x1F10A), (0x1FBF0, 0x1FBF9)]

def isDigits (text : List Char) : Bool :=
  !text.isEmpty && text.all fun c => digitRanges.any fun range =>
    range.1 ≤ c.toNat && c.toNat ≤ range.2

/-- The text behind the first match of a key, up to a comma. -/
def searchSubject (key : String) (subjectDn : String) : Option String :=
  (searchKey ',' key.toList subjectDn.toList).map fun found => String.ofList (strip found)

def citizenshipOf (country : String) : String :=
  if country ∈ ["US", "USA"] then "USA"
  else if country ∈ ["GB", "GBR", "UK"] then "GBR"
  else if country ∈ ["AU", "AUS"] then "AUS"
  else "CAN"

/-- Only the first of the organisational units is used. -/
def parseX509Subject (subjectDn : String) : AuthenticatedIdentity :=
  let rawCn := (searchSubject "CN=" subjectDn).getD "UNKNOWN_OFFICER"
  let org := (searchSubject "OU=" subjectDn).getD "Department of National Defence"
  let country := ((searchSubject "C=" subjectDn).map upper).getD "CAN"
  let parts := splitOn '.' rawCn.toList
  let last := parts.getLastD []
  { identityId := if 1 < parts.length ∧ isDigits last then String.ofList last else rawCn
    commonName := if 1 < parts.length then String.ofList ([' '].intercalate parts.dropLast) else rawCn
    organization := org
    citizenship := citizenshipOf country
    clearanceLevel := .protectedB
    roles := ["Analyst", "Operator"]
    authenticatedVia := "CAC_PIV" }

namespace ABACPolicyEvaluator

def hierarchy : List DataClassification :=
  [.unclassified, .restricted, .protectedB, .secret, .topSecret]

/-- `none` is the error for a classification outside the hierarchy. -/
def authorizeAccess (identity : AuthenticatedIdentity) (resource : DataClassification)
    (requiresCanadianEyesOnly requiresFiveEyes : Bool) : Option (Bool × String) := do
  let userRank ← hierarchy.idxOf? identity.clearanceLevel
  let reqRank ← hierarchy.idxOf? resource
  if userRank < reqRank then
    return (false, "ACCESS_DENIED: Clearance '" ++ identity.clearanceLevel.value ++
      "' insufficient for resource '" ++ resource.value ++ "'")
  else if requiresCanadianEyesOnly ∧ identity.citizenship ≠ "CAN" then
    return (false, "ACCESS_DENIED: Resource restricted to Canadian Eyes Only " ++
      "(Identity citizenship is '" ++ identity.citizenship ++ "')")
  else if requiresFiveEyes ∧ identity.citizenship ∉ fiveEyesNations then
    return (false, "ACCESS_DENIED: Resource restricted to Five Eyes Allied Personnel " ++
      "(Identity citizenship is '" ++ identity.citizenship ++ "')")
  else return (true, "AUTHORIZED")

end ABACPolicyEvaluator

section CanadianEyesOnly
open ABACPolicyEvaluator

/-- The names of countries that do not count as Canada. -/
def allyNames : List String := ["US", "USA", "GB", "GBR", "UK", "AU", "AUS"]

/-- The first `C=` with text behind it within its part of the subject counts, also where it is
the end of another attribute. -/
def NamesAlly (subjectDn : String) : Prop :=
  ∃ found ∈ (splitOn ',' subjectDn.toList).findSome? fun part =>
    (textBehind "C=".toList part).filter fun text => ¬ text.isEmpty,
  upper (String.ofList (strip found)) ∈ allyNames

theorem citizenshipOf_ne_can (country : String) :
    citizenshipOf country ≠ "CAN" ↔ country ∈ allyNames := by
  have hnames : country ∈ allyNames ↔
      country ∈ ["US", "USA"] ∨ country ∈ ["GB", "GBR", "UK"] ∨ country ∈ ["AU", "AUS"] := by
    simp only [allyNames, List.mem_cons, List.not_mem_nil, or_false, or_assoc]
  rw [hnames, citizenshipOf]
  split_ifs with hus hgb hau
  · exact iff_of_true (by decide) (Or.inl hus)
  · exact iff_of_true (by decide) (Or.inr (Or.inl hgb))
  · exact iff_of_true (by decide) (Or.inr (Or.inr hau))
  · exact iff_of_false (not_not.mpr rfl) (by rintro (h | h | h) <;> contradiction)

theorem citizenship_parseX509Subject_ne_can (subjectDn : String) :
    (parseX509Subject subjectDn).citizenship ≠ "CAN" ↔ NamesAlly subjectDn := by
  have hkey : ',' ∉ "C=".toList ∧ "C=".toList ≠ [] := by decide
  have hsearch := searchKey_eq_findSome? hkey.1 hkey.2 subjectDn.toList
  rw [parseX509Subject, citizenshipOf_ne_can, NamesAlly, ← hsearch, searchSubject]
  cases searchKey ',' "C=".toList subjectDn.toList with
  | none => exact iff_of_false (by decide) (by simp)
  | some found => simp

theorem authorizeAccess_canadian {identity : AuthenticatedIdentity} {userRank reqRank : ℕ}
    {resource : DataClassification} (huser : hierarchy.idxOf? identity.clearanceLevel = some userRank)
    (hreq : hierarchy.idxOf? resource = some reqRank) :
    (∃ reason, authorizeAccess identity resource true false = some (false, reason)) ↔
      userRank < reqRank ∨ identity.citizenship ≠ "CAN" := by
  simp only [authorizeAccess, huser, hreq, Option.bind_eq_bind, Option.bind_some]
  split_ifs with hrank hcitizen hallied
  · exact iff_of_true ⟨_, rfl⟩ (Or.inl hrank)
  · exact iff_of_true ⟨_, rfl⟩ (Or.inr hcitizen.2)
  · exact hallied.1.elim
  · refine iff_of_false ?_ ?_
    · rintro ⟨reason, hreason⟩
      cases hreason
    · rintro (h | h)
      · exact hrank h
      · exact hcitizen ⟨trivial, h⟩

/-- A card is kept from a resource for Canadian eyes only exactly when the resource is above the
clearance that every card gets, or the subject's first `C=` is followed by an ally's name. -/
theorem canadianEyesOnly_denied_iff (subjectDn : String) (resource : DataClassification)
    (hresource : resource ∈ hierarchy) :
    (∃ reason, authorizeAccess (parseX509Subject subjectDn) resource true false =
      some (false, reason)) ↔
      resource = .secret ∨ resource = .topSecret ∨ NamesAlly subjectDn := by
  have huser : hierarchy.idxOf? (parseX509Subject subjectDn).clearanceLevel = some 2 := rfl
  rw [← citizenship_parseX509Subject_ne_can, ← or_assoc]
  simp only [hierarchy, List.mem_cons, List.not_mem_nil, or_false] at hresource
  rcases hresource with rfl | rfl | rfl | rfl | rfl
  all_goals
    rw [authorizeAccess_canadian huser rfl]
    simp

theorem canadianEyesOnly_denied_us :
    (∃ reason, authorizeAccess (parseX509Subject "CN=SMITH.JOHN.D.1234567890, OU=DoD, C=US")
      .restricted true false = some (false, reason)) ↔
      DataClassification.restricted = .secret ∨ DataClassification.restricted = .topSecret ∨
        NamesAlly "CN=SMITH.JOHN.D.1234567890, OU=DoD, C=US" :=
  canadianEyesOnly_denied_iff _ _ (by decide)

/-- Parts of the form attribute=value between commas. -/
def IsSubject (subjectDn : String) : Prop := ∀ part ∈ splitOn ',' subjectDn.toList, '=' ∈ part

instance (subjectDn : String) : Decidable (IsSubject subjectDn) :=
  inferInstanceAs (Decidable (∀ part ∈ splitOn ',' subjectDn.toList, '=' ∈ part))

/-- Some part gives a country other than Canada. -/
def HasForeignCountry (subjectDn : String) : Prop :=
  ∃ part ∈ splitOn ',' subjectDn.toList, ∃ country, strip part = "C=".toList ++ country ∧
    upper (String.ofList (strip country)) ∉ ["CA", "CAN"]

/-- A Russian certificate is let in. -/
theorem not_canadianEyesOnly_denied :
    ¬ ∀ subjectDn resource, IsSubject subjectDn → HasForeignCountry subjectDn →
      resource ∈ hierarchy →
      ∃ reason, authorizeAccess (parseX509Subject subjectDn) resource true false =
        some (false, reason) := by
  intro h
  have hsubject : IsSubject "CN=X, C=RU" := by decide
  have hforeign : HasForeignCountry "CN=X, C=RU" :=
    ⟨" C=RU".toList, by decide, "RU".toList, by decide, by decide⟩
  obtain ⟨reason, hdenied⟩ := h "CN=X, C=RU" .protectedB hsubject hforeign (by decide)
  have hgranted : authorizeAccess (parseX509Subject "CN=X, C=RU") .protectedB true false =
      some (true, "AUTHORIZED") := by decide
  rw [hgranted] at hdenied
  cases hdenied

end CanadianEyesOnly

end ContinuityOS.Sovereign

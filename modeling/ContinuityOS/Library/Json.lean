import Mathlib.Data.String.Basic
import Mathlib.Tactic
import ContinuityOS.Library.Sorting

/-! # JSON values and their compact text

A dictionary is the list of its members in insertion order. Numbers with a fraction or an
exponent keep their literal. Text is written without spaces and leaves everything outside
the control range unescaped.
-/
namespace ContinuityOS.Library

inductive Json where
  | null
  | bool (value : Bool)
  | int (value : ℤ)
  | float (literal : String)
  | string (value : String)
  | array (items : List Json)
  | object (members : List (String × Json))

namespace Json

def hexQuad (c : Char) : List Char :=
  ['0', '0', if c.toNat < 16 then '0' else '1', Nat.digitChar (c.toNat % 16)]

def escape (c : Char) : List Char :=
  if c = '"' then ['\\', '"']
  else if c = '\\' then ['\\', '\\']
  else if c = '\n' then ['\\', 'n']
  else if c = '\r' then ['\\', 'r']
  else if c = '\t' then ['\\', 't']
  else if c = '\x0c' then ['\\', 'f']
  else if c = '\x08' then ['\\', 'b']
  else if c < ' ' then '\\' :: 'u' :: hexQuad c
  else [c]

def quote (s : String) : List Char := '"' :: (s.toList.flatMap escape ++ ['"'])

mutual
def dumps : Json → List Char
  | .null => "null".toList
  | .bool true => "true".toList
  | .bool false => "false".toList
  | .int n => (toString n).toList
  | .float literal => literal.toList
  | .string s => quote s
  | .array items => '[' :: (dumpsItems items ++ [']'])
  | .object members => '\x7b' :: (dumpsMembers members ++ ['\x7d'])
def dumpsItems : List Json → List Char
  | [] => []
  | [item] => dumps item
  | item :: items => dumps item ++ ',' :: dumpsItems items
def dumpsMembers : List (String × Json) → List Char
  | [] => []
  | [(key, value)] => quote key ++ ':' :: dumps value
  | (key, value) :: members => quote key ++ ':' :: (dumps value ++ ',' :: dumpsMembers members)
end

mutual
/-- Every dictionary with its keys in code point order. -/
def sortKeys : Json → Json
  | .array items => .array (sortKeysItems items)
  | .object members => .object (sortedBy Prod.fst (sortKeysMembers members))
  | j => j
def sortKeysItems : List Json → List Json
  | [] => []
  | item :: items => sortKeys item :: sortKeysItems items
def sortKeysMembers : List (String × Json) → List (String × Json)
  | [] => []
  | (key, value) :: members => (key, sortKeys value) :: sortKeysMembers members
end

mutual
/-- The characters of every string and key. -/
def chars : Json → List Char
  | .string s => s.toList
  | .array items => charsItems items
  | .object members => charsMembers members
  | _ => []
def charsItems : List Json → List Char
  | [] => []
  | item :: items => chars item ++ charsItems items
def charsMembers : List (String × Json) → List Char
  | [] => []
  | (key, value) :: members => key.toList ++ chars value ++ charsMembers members
end

/-- Quoting drops no character. -/
theorem length_le_quote (s : String) : s.toList.length ≤ (quote s).length := by
  have hescape : ∀ c, 0 < (escape c).length := by
    intro c
    rw [escape]
    split_ifs <;> exact Nat.succ_pos _
  have htext : ∀ text : List Char, text.length ≤ (text.flatMap escape).length := by
    intro text
    induction text with
    | nil => exact le_refl 0
    | cons c text ih =>
      have hc := hescape c
      rw [List.flatMap_cons, List.length_append, List.length_cons]
      omega
  have hwhole := htext s.toList
  rw [quote, List.length_cons, List.length_append]
  omega

section Shown

/-- Printable, or one of the characters listed. -/
def Shown (own : List Char) (c : Char) : Prop := ' ' ≤ c ∧ (c ≤ '~' ∨ c ∈ own)

theorem Shown.mono {own more : List Char} {c : Char} (h : Shown own c) (hsub : own ⊆ more) :
    Shown more c := ⟨h.1, h.2.imp_right fun hc => hsub hc⟩

theorem shown_of_toNat {own : List Char} {c : Char} (hlow : 32 ≤ c.toNat) (hhigh : c.toNat ≤ 126) :
    Shown own c := ⟨hlow, Or.inl hhigh⟩

/-- A text of printable characters. -/
def printable (text : List Char) : Bool := text.all fun c => 32 ≤ c.toNat && c.toNat ≤ 126

theorem shown_of_printable {own text : List Char} (h : printable text = true) :
    ∀ c ∈ text, Shown own c := by
  intro c hc
  have hboth := List.all_eq_true.mp h c hc
  rw [Bool.and_eq_true, decide_eq_true_eq, decide_eq_true_eq] at hboth
  exact shown_of_toNat hboth.1 hboth.2

theorem isDigit_of_mem_toString (n : ℕ) {c : Char} (hc : c ∈ (toString n).toList) : c.isDigit := by
  rw [Nat.toString_eq_repr, Nat.toList_repr] at hc
  exact Nat.isDigit_of_mem_toDigits (by omega) (by omega) hc

theorem digits_shown {own : List Char} (n : ℕ) : ∀ c ∈ (toString n).toList, Shown own c := by
  intro c hc
  obtain ⟨hlow, hhigh⟩ := Char.isDigit_iff_toNat.mp (isDigit_of_mem_toString n hc)
  exact shown_of_toNat (le_trans (by decide) hlow) (le_trans hhigh (by decide))

theorem int_shown {own : List Char} (n : ℤ) : ∀ c ∈ (toString n).toList, Shown own c := by
  intro c hc
  rw [Int.toString_eq_repr, Int.repr_eq_if] at hc
  split_ifs at hc
  · exact digits_shown n.toNat c hc
  · rw [String.toList_append, List.mem_append] at hc
    cases hc with
    | inl hsign => exact shown_of_printable (by decide) c hsign
    | inr hdigits => exact digits_shown (-n).toNat c hdigits

theorem hexQuad_shown {own : List Char} (c : Char) : ∀ d ∈ hexQuad c, Shown own d := by
  have hdigit : ∀ k < 16, 32 ≤ (Nat.digitChar k).toNat ∧ (Nat.digitChar k).toNat ≤ 126 := by decide
  obtain ⟨hlow, hhigh⟩ := hdigit (c.toNat % 16) (Nat.mod_lt _ (by omega))
  simp only [hexQuad, List.forall_mem_cons]
  refine ⟨shown_of_toNat (by decide) (by decide), shown_of_toNat (by decide) (by decide), ?_,
    shown_of_toNat hlow hhigh, List.forall_mem_nil _⟩
  split_ifs
  · exact shown_of_toNat (by decide) (by decide)
  · exact shown_of_toNat (by decide) (by decide)

theorem escape_shown {own : List Char} {c : Char} (hc : c ∈ own) : ∀ d ∈ escape c, Shown own d := by
  unfold escape
  split_ifs with hquote hslash hnewline hreturn htab hform hback hcontrol
  iterate 7 exact shown_of_printable (by decide)
  · simp only [List.forall_mem_cons]
    exact ⟨shown_of_toNat (by decide) (by decide), shown_of_toNat (by decide) (by decide),
      hexQuad_shown c⟩
  · intro d hd
    rw [List.mem_singleton.mp hd]
    exact ⟨not_lt.mp hcontrol, Or.inr hc⟩

theorem bracketed_shown {own inner : List Char} {opened closed : Char} (hopened : Shown own opened)
    (hclosed : Shown own closed) (h : ∀ d ∈ inner, Shown own d) :
    ∀ d ∈ opened :: (inner ++ [closed]), Shown own d := by
  simp only [List.forall_mem_cons, List.forall_mem_append]
  exact ⟨hopened, h, hclosed, List.forall_mem_nil _⟩

theorem quote_shown {own : List Char} {s : String} (h : s.toList ⊆ own) :
    ∀ d ∈ quote s, Shown own d := by
  have hmark : Shown own '"' := shown_of_toNat (by decide) (by decide)
  refine bracketed_shown hmark hmark fun d hd => ?_
  obtain ⟨c, hc, hdc⟩ := List.mem_flatMap.mp hd
  exact escape_shown (h hc) d hdc

mutual
/-- The characters of the numbers that keep their literal. -/
def literals : Json → List Char
  | .float literal => literal.toList
  | .array items => literalsItems items
  | .object members => literalsMembers members
  | _ => []
def literalsItems : List Json → List Char
  | [] => []
  | item :: items => literals item ++ literalsItems items
def literalsMembers : List (String × Json) → List Char
  | [] => []
  | (_, value) :: members => literals value ++ literalsMembers members
end

theorem shown_of_subset {own more text : List Char} (h : ∀ d ∈ text, Shown own d)
    (hsub : own ⊆ more) : ∀ d ∈ text, Shown more d := fun d hd => (h d hd).mono hsub

theorem comma_shown {own : List Char} : Shown own ',' := shown_of_toNat (by decide) (by decide)

theorem colon_shown {own : List Char} : Shown own ':' := shown_of_toNat (by decide) (by decide)

mutual
/-- Text is printable up to the characters of its strings and keys. -/
theorem dumps_shown : ∀ j : Json, printable j.literals = true → ∀ d ∈ j.dumps, Shown j.chars d
  | .null, _ => shown_of_printable (by decide)
  | .bool true, _ => shown_of_printable (by decide)
  | .bool false, _ => shown_of_printable (by decide)
  | .int n, _ => int_shown n
  | .float _, h => shown_of_printable h
  | .string _, _ => quote_shown (List.Subset.refl _)
  | .array items, h => bracketed_shown (shown_of_toNat (by decide) (by decide))
      (shown_of_toNat (by decide) (by decide)) (dumpsItems_shown items h)
  | .object members, h => bracketed_shown (shown_of_toNat (by decide) (by decide))
      (shown_of_toNat (by decide) (by decide)) (dumpsMembers_shown members h)
theorem dumpsItems_shown : ∀ items : List Json, printable (literalsItems items) = true →
    ∀ d ∈ dumpsItems items, Shown (charsItems items) d
  | [], _ => List.forall_mem_nil _
  | [item], h => by
    rw [literalsItems, literalsItems, List.append_nil] at h
    rw [dumpsItems, charsItems, charsItems, List.append_nil]
    exact dumps_shown item h
  | item :: next :: items, h => by
    rw [literalsItems, printable, List.all_append, Bool.and_eq_true] at h
    rw [dumpsItems, charsItems, List.forall_mem_append, List.forall_mem_cons]
    · exact ⟨shown_of_subset (dumps_shown item h.1) (List.subset_append_left _ _), comma_shown,
        shown_of_subset (dumpsItems_shown (next :: items) h.2) (List.subset_append_right _ _)⟩
    · exact List.cons_ne_nil _ _
theorem dumpsMembers_shown : ∀ members : List (String × Json),
    printable (literalsMembers members) = true →
      ∀ d ∈ dumpsMembers members, Shown (charsMembers members) d
  | [], _ => List.forall_mem_nil _
  | [(key, value)], h => by
    rw [literalsMembers, literalsMembers, List.append_nil] at h
    rw [dumpsMembers, charsMembers, charsMembers, List.append_nil, List.forall_mem_append,
      List.forall_mem_cons]
    exact ⟨quote_shown (List.subset_append_left _ _), colon_shown,
      shown_of_subset (dumps_shown value h) (List.subset_append_right _ _)⟩
  | (key, value) :: next :: members, h => by
    rw [literalsMembers, printable, List.all_append, Bool.and_eq_true] at h
    rw [dumpsMembers, charsMembers]
    · simp only [List.forall_mem_append, List.forall_mem_cons]
      refine ⟨quote_shown fun c hc => ?_, colon_shown, ?_, comma_shown, ?_⟩
      · exact List.mem_append_left _ (List.mem_append_left _ hc)
      · exact shown_of_subset (dumps_shown value h.1) fun c hc =>
          List.mem_append_left _ (List.mem_append_right _ hc)
      · exact shown_of_subset (dumpsMembers_shown (next :: members) h.2)
          (List.subset_append_right _ _)
    · exact List.cons_ne_nil _ _
end

theorem forall_mem_charsMembers {P : Char → Prop} {members : List (String × Json)} :
    (∀ c ∈ charsMembers members, P c) ↔
      ∀ m ∈ members, (∀ c ∈ m.1.toList, P c) ∧ ∀ c ∈ m.2.chars, P c := by
  induction members with
  | nil => simp [charsMembers]
  | cons m members ih =>
    rw [charsMembers, List.forall_mem_append, List.forall_mem_append, ih, List.forall_mem_cons]

end Shown

end Json

example : String.ofList ((Json.object [("b", .array [.int (-3), .null]), ("a", .string "x\"\n")]).sortKeys.dumps)
    = "\x7b\"a\":\"x\\\"\\n\",\"b\":[-3,null]\x7d" := by decide +kernel

end ContinuityOS.Library

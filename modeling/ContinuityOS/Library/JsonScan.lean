import Mathlib.Data.Bool.AllAny
import ContinuityOS.Library.Json

/-! # Brackets and quotes of JSON text

A scan follows the depth of brackets and whether a string or an escape is open. What is cut off
the end of a dictionary's text is never balanced: the cut leaves a bracket too many, or it
exchanges the inside and the outside of strings.
-/
namespace ContinuityOS.Library

/-- Where a scan stands, with the depth of brackets. -/
inductive ScanState where
  | outside (depth : ℕ)
  | inside (depth : ℕ)
  | escaped (depth : ℕ)
deriving DecidableEq

namespace ScanState

/-- No step from a closing bracket without its opening one, or a backslash outside strings. -/
def step : ScanState → Char → Option ScanState
  | .outside depth, c =>
    if c = '"' then some (.inside depth)
    else if c = '\\' then none
    else if c = '\x7b' ∨ c = '[' then some (.outside (depth + 1))
    else if c = '\x7d' ∨ c = ']' then if depth = 0 then none else some (.outside (depth - 1))
    else some (.outside depth)
  | .inside depth, c =>
    if c = '"' then some (.outside depth)
    else if c = '\\' then some (.escaped depth)
    else some (.inside depth)
  | .escaped depth, _ => some (.inside depth)

def depth : ScanState → ℕ
  | .outside depth | .inside depth | .escaped depth => depth

/-- The same place, more brackets deep. -/
def shift (k : ℕ) : ScanState → ScanState
  | .outside depth => .outside (depth + k)
  | .inside depth => .inside (depth + k)
  | .escaped depth => .escaped (depth + k)

theorem step_shift {s t : ScanState} {c : Char} (k : ℕ) (h : s.step c = some t) :
    (s.shift k).step c = some (t.shift k) := by
  cases s with
  | outside depth =>
    rw [step] at h
    rw [shift, step]
    split_ifs at h ⊢ with _ _ _ _ hzero hshifted
    all_goals first
      | omega
      | (rw [← Option.some.inj h, shift])
    · congr 2
      omega
    · congr 2
      omega
  | inside depth =>
    rw [step] at h
    rw [shift, step]
    split_ifs at h ⊢
    all_goals rw [← Option.some.inj h, shift]
  | escaped depth =>
    rw [step] at h
    rw [shift, step, ← Option.some.inj h, shift]

end ScanState

open ScanState

def scan : ScanState → List Char → Option ScanState
  | s, [] => some s
  | s, c :: text => (s.step c).bind fun t => scan t text

/-- A text that ends where it starts, outside strings and brackets. -/
def Balanced (text : List Char) : Prop := scan (.outside 0) text = some (.outside 0)

theorem scan_cons_eq_some {s t : ScanState} {c : Char} {text : List Char} :
    scan s (c :: text) = some t ↔ ∃ u, s.step c = some u ∧ scan u text = some t := by
  rw [scan, Option.bind_eq_some_iff]

theorem scan_append_eq_some {s t : ScanState} {front back : List Char} :
    scan s (front ++ back) = some t ↔ ∃ u, scan s front = some u ∧ scan u back = some t := by
  induction front generalizing s with
  | nil => simp [scan]
  | cons c front ih =>
    rw [List.cons_append, scan_cons_eq_some]
    constructor
    · rintro ⟨u, hstep, hrest⟩
      obtain ⟨v, hfront, hback⟩ := ih.mp hrest
      exact ⟨v, scan_cons_eq_some.mpr ⟨u, hstep, hfront⟩, hback⟩
    · rintro ⟨v, hwhole, hback⟩
      obtain ⟨u, hstep, hfront⟩ := scan_cons_eq_some.mp hwhole
      exact ⟨u, hstep, ih.mpr ⟨v, hfront, hback⟩⟩

theorem scan_shift {s t : ScanState} {text : List Char} (k : ℕ) (h : scan s text = some t) :
    scan (s.shift k) text = some (t.shift k) := by
  induction text generalizing s with
  | nil => exact congrArg (fun u => (Option.some u).map (ScanState.shift k)) (Option.some.inj h)
  | cons c text ih =>
    obtain ⟨u, hstep, hrest⟩ := scan_cons_eq_some.mp h
    exact scan_cons_eq_some.mpr ⟨u.shift k, step_shift k hstep, ih hrest⟩

section Suffix

/-- One scan is inside a string where the other is outside. -/
inductive Opposite : ScanState → ScanState → Prop where
  | outside (d e : ℕ) : Opposite (.outside d) (.inside e)
  | inside (d e : ℕ) : Opposite (.inside d) (.outside e)

theorem Opposite.symm {s t : ScanState} (h : Opposite s t) : Opposite t s := by
  cases h with
  | outside d e => exact .inside e d
  | inside d e => exact .outside e d

theorem step_outside_opposite {d e : ℕ} {c : Char} {s t : ScanState}
    (hs : (outside d).step c = some s) (ht : (inside e).step c = some t) : Opposite s t := by
  rw [ScanState.step] at hs
  rw [ScanState.step] at ht
  split_ifs at hs ht
  all_goals rw [← Option.some.inj hs, ← Option.some.inj ht]
  · exact .inside d e
  · exact .outside _ e
  · exact .outside _ e
  · exact .outside _ e

theorem scan_opposite {text : List Char} {s t s' t' : ScanState} (h : Opposite s t)
    (hs : scan s text = some s') (ht : scan t text = some t') : Opposite s' t' := by
  induction text generalizing s t with
  | nil =>
    rw [← Option.some.inj hs, ← Option.some.inj ht]
    exact h
  | cons c text ih =>
    obtain ⟨u, hu, hsrest⟩ := scan_cons_eq_some.mp hs
    obtain ⟨v, hv, htrest⟩ := scan_cons_eq_some.mp ht
    cases h with
    | outside d e => exact ih (step_outside_opposite hu hv) hsrest htrest
    | inside d e => exact ih (step_outside_opposite hv hu).symm hsrest htrest

/-- What leads back outside all brackets does not do so from deeper brackets. -/
theorem scan_shift_ne {s : ScanState} {text : List Char} {d : ℕ} (hd : 0 < d)
    (h : scan s text = some (.outside 0)) : scan (s.shift d) text ≠ some (.outside 0) := by
  intro hshifted
  have hsame := (scan_shift d h).symm.trans hshifted
  rw [ScanState.shift, Option.some.injEq, ScanState.outside.injEq] at hsame
  omega

/-- A scan of the rest that starts outside strings and brackets does not end there. -/
theorem not_balanced_of_scan {s : ScanState} {text : List Char} (hdepth : 0 < s.depth)
    (h : scan s text = some (.outside 0)) : ¬ Balanced text := by
  intro hbalanced
  cases s with
  | outside d =>
    have hshifted : scan ((outside 0).shift d) text = some (.outside 0) := by
      rw [ScanState.shift, Nat.zero_add]
      exact h
    exact scan_shift_ne hdepth hbalanced hshifted
  | inside d => cases scan_opposite (.outside 0 d) hbalanced h
  | escaped d =>
    cases text with
    | nil => cases h
    | cons c text =>
      obtain ⟨u, hu, hrest⟩ := scan_cons_eq_some.mp hbalanced
      have hinside : scan (.inside d) text = some (.outside 0) := h
      by_cases hquote : c = '"'
      · rw [step, if_pos hquote, Option.some.injEq] at hu
        rw [← hu] at hrest
        have hshifted : scan ((inside 0).shift d) text = some (.outside 0) := by
          rw [ScanState.shift, Nat.zero_add]
          exact hinside
        exact scan_shift_ne hdepth hrest hshifted
      · rw [step, if_neg hquote] at hu
        have hopposite : Opposite u (.inside d) := by
          split_ifs at hu
          all_goals
            rw [← Option.some.inj hu]
            exact .outside _ d
        cases scan_opposite hopposite hrest hinside

/-- The text of a dictionary: a balanced text between its brackets. -/
def IsDictionary (text : List Char) : Prop :=
  ∃ inner, text = '\x7b' :: (inner ++ ['\x7d']) ∧ Balanced inner

/-- What is cut off the end of a dictionary's text is not balanced. -/
theorem IsDictionary.not_balanced {text front back : List Char} (h : IsDictionary text)
    (hsplit : text = front ++ back) (hfront : front ≠ []) (hback : back ≠ []) : ¬ Balanced back := by
  obtain ⟨inner, rfl, hinner⟩ := h
  obtain ⟨c, front, rfl⟩ := List.exists_cons_of_ne_nil hfront
  obtain ⟨back, last, rfl⟩ : ∃ rest last, back = rest ++ [last] :=
    ⟨back.dropLast, back.getLast hback, (List.dropLast_append_getLast hback).symm⟩
  rw [List.cons_append, List.cons.injEq, ← List.append_assoc] at hsplit
  obtain ⟨rfl, hinside⟩ := hsplit
  obtain ⟨rfl, hlast⟩ := List.append_inj' hinside rfl
  obtain ⟨s, hs, hrest⟩ := scan_append_eq_some.mp hinner
  have hclosed : scan (s.shift 1) (back ++ [last]) = some (.outside 0) := by
    refine scan_append_eq_some.mpr ⟨_, scan_shift 1 hrest, ?_⟩
    rw [← hlast]
    rfl
  have hdepth : 0 < (s.shift 1).depth := by
    cases s <;> exact Nat.succ_pos _
  exact not_balanced_of_scan hdepth hclosed

end Suffix

section Dumps
open Json

/-- No bracket, quote or backslash. -/
def Plain (c : Char) : Prop := c ∉ ['"', '\\', '\x7b', '[', '\x7d', ']']

instance (c : Char) : Decidable (Plain c) := inferInstanceAs (Decidable (c ∉ _))

/-- A text of characters that each leave the scan where it is. -/
theorem scan_of_step_eq {s : ScanState} {text : List Char} (h : ∀ c ∈ text, s.step c = some s) :
    scan s text = some s := by
  induction text with
  | nil => rfl
  | cons c text ih =>
    obtain ⟨hc, htext⟩ := List.forall_mem_cons.mp h
    exact scan_cons_eq_some.mpr ⟨s, hc, ih htext⟩

theorem scan_plain {text : List Char} (h : ∀ c ∈ text, Plain c) (d : ℕ) :
    scan (.outside d) text = some (.outside d) := by
  refine scan_of_step_eq fun c hc => ?_
  have hplain := h c hc
  simp only [Plain, List.mem_cons, List.not_mem_nil, or_false, not_or] at hplain
  simp [ScanState.step, hplain]

theorem scan_inside {text : List Char} (h : ∀ c ∈ text, Plain c) (d : ℕ) :
    scan (.inside d) text = some (.inside d) := by
  refine scan_of_step_eq fun c hc => ?_
  have hplain := h c hc
  simp only [Plain, List.mem_cons, List.not_mem_nil, or_false, not_or] at hplain
  simp [ScanState.step, hplain]

theorem scan_escape (c : Char) (d : ℕ) : scan (.inside d) (escape c) = some (.inside d) := by
  unfold escape
  split_ifs with hquote hslash
  iterate 7 rfl
  · refine scan_cons_eq_some.mpr ⟨.escaped d, rfl, scan_cons_eq_some.mpr ⟨.inside d, rfl, ?_⟩⟩
    have hdigit : ∀ k < 16, Plain (Nat.digitChar k) := by decide
    refine scan_inside ?_ d
    simp only [hexQuad, List.forall_mem_cons]
    refine ⟨by decide, by decide, ?_, hdigit _ (Nat.mod_lt _ (by omega)), List.forall_mem_nil _⟩
    split_ifs <;> decide
  · refine scan_cons_eq_some.mpr ⟨.inside d, ?_, rfl⟩
    rw [ScanState.step, if_neg hquote, if_neg hslash]

theorem scan_quote (s : String) (d : ℕ) : scan (.outside d) (quote s) = some (.outside d) := by
  have hinside : ∀ text : List Char,
      scan (.inside d) (text.flatMap escape) = some (.inside d) := by
    intro text
    induction text with
    | nil => rfl
    | cons c text ih =>
      rw [List.flatMap_cons]
      exact scan_append_eq_some.mpr ⟨.inside d, scan_escape c d, ih⟩
  refine scan_cons_eq_some.mpr ⟨.inside d, rfl, ?_⟩
  exact scan_append_eq_some.mpr ⟨.inside d, hinside s.toList, rfl⟩

theorem int_plain (n : ℤ) : ∀ c ∈ (toString n).toList, Plain c := by
  have hdigits : ∀ k : ℕ, ∀ c ∈ (toString k).toList, Plain c := by
    intro k c hc hmem
    have hdigit := isDigit_of_mem_toString k hc
    simp only [List.mem_cons, List.not_mem_nil, or_false] at hmem
    rcases hmem with rfl | rfl | rfl | rfl | rfl | rfl <;> cases hdigit
  intro c hc
  rw [Int.toString_eq_repr, Int.repr_eq_if] at hc
  split_ifs at hc
  · exact hdigits n.toNat c hc
  · rw [String.toList_append, List.mem_append] at hc
    rcases hc with hsign | hdigit
    · rw [List.mem_singleton.mp hsign]
      decide
    · exact hdigits (-n).toNat c hdigit

theorem scan_bracketed {opened closed : Char} {inner : List Char} {d : ℕ}
    (hopened : (ScanState.outside d).step opened = some (.outside (d + 1)))
    (hinner : scan (.outside (d + 1)) inner = some (.outside (d + 1)))
    (hclosed : (ScanState.outside (d + 1)).step closed = some (.outside d)) :
    scan (.outside d) (opened :: (inner ++ [closed])) = some (.outside d) := by
  refine scan_cons_eq_some.mpr ⟨_, hopened, scan_append_eq_some.mpr ⟨_, hinner, ?_⟩⟩
  exact scan_cons_eq_some.mpr ⟨_, hclosed, rfl⟩

mutual
/-- Printing a value leaves the scan where it was. -/
theorem scan_dumps : ∀ (j : Json) (d : ℕ), (∀ c ∈ j.literals, Plain c) →
    scan (.outside d) j.dumps = some (.outside d)
  | .null, d, _ => scan_plain (List.all_iff_forall_prop.mp (by decide)) d
  | .bool true, d, _ => scan_plain (List.all_iff_forall_prop.mp (by decide)) d
  | .bool false, d, _ => scan_plain (List.all_iff_forall_prop.mp (by decide)) d
  | .int n, d, _ => scan_plain (int_plain n) d
  | .float _, d, h => scan_plain h d
  | .string s, d, _ => scan_quote s d
  | .array items, d, h => scan_bracketed rfl (scan_dumpsItems items (d + 1) h) rfl
  | .object members, d, h => scan_bracketed rfl (scan_dumpsMembers members (d + 1) h) rfl
theorem scan_dumpsItems : ∀ (items : List Json) (d : ℕ), (∀ c ∈ literalsItems items, Plain c) →
    scan (.outside d) (dumpsItems items) = some (.outside d)
  | [], _, _ => rfl
  | [item], d, h => by
    rw [literalsItems, literalsItems, List.append_nil] at h
    exact scan_dumps item d h
  | item :: next :: items, d, h => by
    rw [literalsItems, List.forall_mem_append] at h
    rw [dumpsItems]
    · refine scan_append_eq_some.mpr ⟨_, scan_dumps item d h.1, ?_⟩
      exact scan_cons_eq_some.mpr ⟨_, rfl, scan_dumpsItems (next :: items) d h.2⟩
    · exact List.cons_ne_nil _ _
theorem scan_dumpsMembers : ∀ (members : List (String × Json)) (d : ℕ),
    (∀ c ∈ literalsMembers members, Plain c) →
      scan (.outside d) (dumpsMembers members) = some (.outside d)
  | [], _, _ => rfl
  | [(key, value)], d, h => by
    rw [literalsMembers, literalsMembers, List.append_nil] at h
    refine scan_append_eq_some.mpr ⟨_, scan_quote key d, ?_⟩
    exact scan_cons_eq_some.mpr ⟨_, rfl, scan_dumps value d h⟩
  | (key, value) :: next :: members, d, h => by
    rw [literalsMembers, List.forall_mem_append] at h
    rw [dumpsMembers]
    · refine scan_append_eq_some.mpr ⟨_, scan_quote key d, ?_⟩
      refine scan_cons_eq_some.mpr ⟨_, rfl, scan_append_eq_some.mpr ⟨_, scan_dumps value d h.1, ?_⟩⟩
      exact scan_cons_eq_some.mpr ⟨_, rfl, scan_dumpsMembers (next :: members) d h.2⟩
    · exact List.cons_ne_nil _ _
end

theorem isDictionary_dumps {members : List (String × Json)}
    (h : ∀ c ∈ literalsMembers members, Plain c) : IsDictionary (Json.object members).dumps :=
  ⟨dumpsMembers members, rfl, scan_dumpsMembers members 0 h⟩

end Dumps

end ContinuityOS.Library

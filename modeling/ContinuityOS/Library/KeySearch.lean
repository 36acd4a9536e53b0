import ContinuityOS.Library.Text

/-! # Searching for the text behind a key

An unanchored search for a key and the text behind it, up to a separator. A key without the
separator is found within one piece of the text, so the search goes from piece to piece.
-/
namespace ContinuityOS.Library

/-- The text up to the separator behind a key at the front, if there is any. -/
def groupAt (sep : Char) (key text : List Char) : Option (List Char) :=
  if key <+: text ∧ (text.drop key.length).takeWhile (· ≠ sep) ≠ [] then
    some ((text.drop key.length).takeWhile (· ≠ sep))
  else none

/-- The first match at any place. -/
def searchKey (sep : Char) (key : List Char) : List Char → Option (List Char)
  | [] => groupAt sep key []
  | c :: text => (groupAt sep key (c :: text)).or (searchKey sep key text)

/-- The text behind the first occurrence of a key. -/
def textBehind (key : List Char) : List Char → Option (List Char)
  | [] => none
  | c :: text => if key <+: c :: text then some ((c :: text).drop key.length) else textBehind key text

section Pieces
variable {sep : Char} {key : List Char}

theorem prefix_append_sep (hsep : sep ∉ key) {piece rest : List Char} :
    key <+: piece ++ sep :: rest ↔ key <+: piece := by
  constructor
  · intro h
    rcases List.prefix_or_prefix_of_prefix h (List.prefix_append piece (sep :: rest)) with h' | h'
    · exact h'
    · obtain ⟨more, rfl⟩ := h'
      rw [List.prefix_append_right_inj, List.prefix_cons_iff] at h
      rcases h with rfl | ⟨more', rfl, -⟩
      · rw [List.append_nil]
      · exact absurd (List.mem_append_right _ List.mem_cons_self) hsep
  · exact fun h => h.trans (List.prefix_append _ _)

theorem takeWhile_piece {piece : List Char} (hpiece : sep ∉ piece) :
    piece.takeWhile (· ≠ sep) = piece :=
  List.takeWhile_eq_self_iff.mpr fun _ hc => decide_eq_true (ne_of_mem_of_not_mem hc hpiece)

theorem takeWhile_append_sep {piece rest : List Char} (hpiece : sep ∉ piece) :
    (piece ++ sep :: rest).takeWhile (· ≠ sep) = piece := by
  have hkept : ∀ c ∈ piece, decide (c ≠ sep) = true := fun _ hc =>
    decide_eq_true (ne_of_mem_of_not_mem hc hpiece)
  rw [List.takeWhile_append_of_pos hkept, List.takeWhile_cons_of_neg (by simp), List.append_nil]

theorem groupAt_append_sep (hsep : sep ∉ key) {piece rest : List Char} (hpiece : sep ∉ piece) :
    groupAt sep key (piece ++ sep :: rest) = groupAt sep key piece := by
  rw [groupAt, groupAt]
  simp only [prefix_append_sep hsep]
  by_cases h : key <+: piece
  · have hdrop : sep ∉ piece.drop key.length := fun hmem => hpiece (List.mem_of_mem_drop hmem)
    rw [List.drop_append_of_le_length h.length_le, takeWhile_append_sep hdrop, takeWhile_piece hdrop]
  · rw [if_neg fun hand => h hand.1, if_neg fun hand => h hand.1]

theorem searchKey_append_sep (hsep : sep ∉ key) (hkey : key ≠ []) {piece rest : List Char}
    (hpiece : sep ∉ piece) : searchKey sep key (piece ++ sep :: rest) =
      (searchKey sep key piece).or (searchKey sep key rest) := by
  induction piece with
  | nil =>
    have hnone : groupAt sep key [] = none := if_neg fun hand => hkey (List.prefix_nil.mp hand.1)
    have hfirst : groupAt sep key ([] ++ sep :: rest) = groupAt sep key [] :=
      groupAt_append_sep hsep List.not_mem_nil
    rw [List.nil_append] at hfirst ⊢
    rw [searchKey, searchKey, hfirst, hnone, Option.none_or]
  | cons c piece ih =>
    have hfirst : groupAt sep key (c :: piece ++ sep :: rest) = groupAt sep key (c :: piece) :=
      groupAt_append_sep hsep hpiece
    rw [List.cons_append] at hfirst ⊢
    rw [searchKey, searchKey, hfirst, ih fun hmem => hpiece (List.mem_cons_of_mem _ hmem),
      Option.or_assoc]

theorem searchKey_short {text : List Char} (h : text.length ≤ key.length) :
    searchKey sep key text = none := by
  have hgroup : ∀ text : List Char, text.length ≤ key.length → groupAt sep key text = none := by
    intro text h
    refine if_neg fun hand => hand.2 ?_
    rw [List.drop_eq_nil_of_le h, List.takeWhile_nil]
  induction text with
  | nil => exact hgroup [] h
  | cons c text ih =>
    rw [searchKey, hgroup _ h, Option.none_or]
    exact ih (Nat.le_of_succ_le h)

/-- Within one piece the first occurrence of the key counts, if there is text behind it. -/
theorem searchKey_piece (hkey : key ≠ []) {piece : List Char} (hpiece : sep ∉ piece) :
    searchKey sep key piece = (textBehind key piece).filter fun text => ¬ text.isEmpty := by
  induction piece with
  | nil => exact if_neg fun hand => hkey (List.prefix_nil.mp hand.1)
  | cons c piece ih =>
    have hdrop : sep ∉ (c :: piece).drop key.length := fun hmem =>
      hpiece (List.mem_of_mem_drop hmem)
    rw [searchKey, textBehind, groupAt, takeWhile_piece hdrop]
    by_cases h : key <+: c :: piece
    · by_cases hnil : (c :: piece).drop key.length = []
      · have hlength := List.drop_eq_nil_iff.mp hnil
        rw [if_neg fun hand => hand.2 hnil, if_pos h, hnil, Option.none_or,
          searchKey_short (Nat.le_of_succ_le hlength)]
        rfl
      · rw [if_pos ⟨h, hnil⟩, if_pos h, Option.some_or, Option.filter_some_pos]
        simpa using hnil
    · rw [if_neg fun hand => h hand.1, if_neg h, Option.none_or,
        ih fun hmem => hpiece (List.mem_cons_of_mem _ hmem)]

/-- The search goes through the pieces. -/
theorem searchKey_eq_findSome? (hsep : sep ∉ key) (hkey : key ≠ []) (text : List Char) :
    searchKey sep key text =
      (splitOn sep text).findSome? fun piece =>
        (textBehind key piece).filter fun text => ¬ text.isEmpty := by
  induction hn : text.length using Nat.strong_induction_on generalizing text with
  | _ n ih =>
    by_cases hmem : sep ∈ text
    · obtain ⟨piece, rest, rfl, hpiece⟩ := List.eq_append_cons_of_mem hmem
      have hless : rest.length < n := by
        rw [← hn, List.length_append, List.length_cons]
        omega
      rw [searchKey_append_sep hsep hkey hpiece, searchKey_piece hkey hpiece, ih _ hless rest rfl,
        splitOn_append, splitOn_of_not_mem hpiece, List.singleton_append, List.findSome?_cons]
      cases (textBehind key piece).filter fun text => ¬ text.isEmpty <;> rfl
    · rw [searchKey_piece hkey hmem, splitOn_of_not_mem hmem, List.findSome?_singleton]

end Pieces

end ContinuityOS.Library

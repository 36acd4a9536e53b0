import Mathlib.Algebra.Order.Group.Defs
import Mathlib.Data.List.Basic
import Mathlib.Tactic

/-! # Admission in a sliding window

A queue keeps the times that were admitted, and drops those out of the window when the next time
comes. With a clock that does not go back, what is left of the queue are the admitted times in the
window, so no window holds more of them than the limit.
-/
namespace ContinuityOS.Library.SlidingWindow

universe u
variable {α : Type u} [AddCommGroup α] [LinearOrder α]

/-- What is left of the queue at a time. -/
def live (window : α) (queue : List α) (now : α) : List α :=
  queue.dropWhile fun t => t ≤ now - window

def Admits (limit : ℕ) (window : α) (queue : List α) (now : α) : Prop :=
  (live window queue now).length < limit

instance (limit : ℕ) (window : α) (queue : List α) (now : α) :
    Decidable (Admits limit window queue now) := inferInstanceAs (Decidable (_ < _))

def next (limit : ℕ) (window : α) (queue : List α) (now : α) : List α :=
  if Admits limit window queue now then live window queue now ++ [now] else live window queue now

/-- The queue after the times. -/
def queueAfter (limit : ℕ) (window : α) (times : List α) : List α :=
  times.foldl (next limit window) []

/-- The admitted ones among the times that come to a queue. -/
def admittedFrom (limit : ℕ) (window : α) : List α → List α → List α
  | _, [] => []
  | queue, now :: times => (if Admits limit window queue now then [now] else []) ++
      admittedFrom limit window (next limit window queue now) times

def admitted (limit : ℕ) (window : α) (times : List α) : List α :=
  admittedFrom limit window [] times

/-- The times of a list in the window that ends at a time. -/
def inWindow (window : α) (times : List α) (t : α) : List α :=
  times.filter fun a => t - window < a ∧ a ≤ t

section Runs
variable (limit : ℕ) (window : α)

theorem admittedFrom_append (queue times more : List α) :
    admittedFrom limit window queue (times ++ more) = admittedFrom limit window queue times ++
      admittedFrom limit window (times.foldl (next limit window) queue) more := by
  induction times generalizing queue with
  | nil => rfl
  | cons now times ih =>
    rw [List.cons_append, admittedFrom, admittedFrom, ih, List.foldl_cons, List.append_assoc]

theorem admitted_concat (times : List α) (now : α) :
    admitted limit window (times ++ [now]) = admitted limit window times ++
      if Admits limit window (queueAfter limit window times) now then [now] else [] := by
  rw [admitted, admittedFrom_append, admittedFrom, admittedFrom, List.append_nil]
  rfl

theorem queueAfter_concat (times : List α) (now : α) :
    queueAfter limit window (times ++ [now]) =
      next limit window (queueAfter limit window times) now := by
  rw [queueAfter, List.foldl_append]
  rfl

theorem admitted_sublist (times : List α) : (admitted limit window times).Sublist times := by
  induction times using List.reverseRecOn with
  | nil => exact List.Sublist.refl []
  | append_singleton times now ih =>
    rw [admitted_concat]
    refine ih.append ?_
    split_ifs
    · exact List.Sublist.refl [now]
    · exact List.nil_sublist [now]

theorem next_subset (queue : List α) (now : α) :
    ∀ a ∈ next limit window queue now, a ∈ queue ∨ a = now := by
  intro a ha
  have hlive : ∀ b ∈ live window queue now, b ∈ queue := fun b hb =>
    (List.dropWhile_sublist _).subset hb
  unfold next at ha
  split_ifs at ha
  · rcases List.mem_append.mp ha with ha | ha
    · exact Or.inl (hlive a ha)
    · exact Or.inr (List.mem_singleton.mp ha)
  · exact Or.inl (hlive a ha)

/-- Where the clock does not go back the queue is in order. -/
theorem queueAfter_sorted {times : List α} (h : times.Pairwise (· ≤ ·)) :
    (queueAfter limit window times).Pairwise (· ≤ ·) ∧
      ∀ a ∈ queueAfter limit window times, a ∈ times := by
  induction times using List.reverseRecOn with
  | nil => exact ⟨List.Pairwise.nil, List.forall_mem_nil _⟩
  | append_singleton times now ih =>
    rw [List.pairwise_append] at h
    obtain ⟨hsorted, hmem⟩ := ih h.1
    have hlive : (live window (queueAfter limit window times) now).Pairwise (· ≤ ·) :=
      hsorted.sublist (List.dropWhile_sublist _)
    rw [queueAfter_concat]
    constructor
    · unfold next
      split_ifs
      · refine List.pairwise_append.mpr ⟨hlive, List.pairwise_singleton _ _, fun a ha b hb => ?_⟩
        exact h.2.2 a (hmem a ((List.dropWhile_sublist _).subset ha)) b hb
      · exact hlive
    · intro a ha
      rw [List.mem_append, List.mem_singleton]
      exact (next_subset limit window _ now a ha).imp_left (hmem a)

/-- In an ordered queue what is dropped is what lies before the window. -/
theorem live_eq_filter {queue : List α} (h : queue.Pairwise (· ≤ ·)) (now : α) :
    live window queue now = queue.filter fun a => now - window < a := by
  induction h with
  | nil => rfl
  | @cons a queue ha hqueue ih =>
    by_cases hold : a ≤ now - window
    · rw [live, List.dropWhile_cons_of_pos (by simpa using hold),
        List.filter_cons_of_neg (by simpa using hold)]
      exact ih
    · rw [live, List.dropWhile_cons_of_neg (by simpa using hold), eq_comm, List.filter_eq_self]
      intro b hb
      rw [decide_eq_true_eq]
      rcases List.mem_cons.mp hb with rfl | hb
      · exact not_le.mp hold
      · exact (not_le.mp hold).trans_le (ha b hb)

theorem inWindow_eq_filter {times : List α} {now : α} (hnow : ∀ a ∈ times, a ≤ now) :
    inWindow window times now = times.filter fun a => now - window < a :=
  List.filter_congr fun a ha => by simp [hnow a ha]

/-- Once the first of a full queue has left the window, the next time is admitted. -/
theorem admits_of_first {first : α} {rest : List α} {now : α}
    (hlength : (first :: rest).length ≤ limit) (hfirst : first ≤ now - window) :
    Admits limit window (first :: rest) now := by
  have hdrop : live window (first :: rest) now = live window rest now :=
    List.dropWhile_cons_of_pos (by simpa using hfirst)
  have hle : (live window rest now).length ≤ rest.length :=
    (List.dropWhile_sublist _).length_le
  rw [Admits, hdrop]
  exact lt_of_lt_of_le (Nat.lt_succ_of_le hle) hlength

variable [IsOrderedAddMonoid α]

/-- What is left at a time not before the last one are the admitted times in the window. -/
theorem live_queueAfter {times : List α} (h : times.Pairwise (· ≤ ·)) {now : α}
    (hnow : ∀ a ∈ times, a ≤ now) :
    live window (queueAfter limit window times) now =
      (admitted limit window times).filter fun a => now - window < a := by
  induction times using List.reverseRecOn generalizing now with
  | nil => rfl
  | append_singleton times last ih =>
    have hsorted := (queueAfter_sorted limit window h).1
    rw [live_eq_filter window hsorted]
    rw [List.pairwise_append] at h
    have hlast : last ≤ now := hnow last (by simp)
    have hbefore : ∀ a ∈ times, a ≤ last := fun a ha => h.2.2 a ha last (by simp)
    have hlive := ih h.1 hbefore
    -- what has left the window stays out of it
    have hcollapse : ∀ l : List α, (l.filter fun a => last - window < a).filter
        (fun a => now - window < a) = l.filter fun a => now - window < a := by
      intro l
      rw [List.filter_filter]
      refine List.filter_congr fun a _ => ?_
      by_cases ha : now - window < a
      · have hmore : last - window < a := (sub_le_sub_right hlast window).trans_lt ha
        simp [ha, hmore]
      · simp [ha]
    rw [queueAfter_concat, admitted_concat, next, hlive]
    split_ifs
    · rw [List.filter_append, List.filter_append, hcollapse]
    · rw [List.append_nil, hcollapse]

/-- At a time not before the last one the queue holds the admitted times of the window. -/
theorem live_eq_inWindow {times : List α} (h : times.Pairwise (· ≤ ·)) {now : α}
    (hnow : ∀ a ∈ times, a ≤ now) :
    live window (queueAfter limit window times) now =
      inWindow window (admitted limit window times) now := by
  rw [live_queueAfter limit window h hnow, inWindow_eq_filter]
  exact fun a ha => hnow a ((admitted_sublist limit window times).subset ha)

/-- No window holds more admitted times than the limit. -/
theorem inWindow_length_le {times : List α} (h : times.Pairwise (· ≤ ·)) (t : α) :
    (inWindow window (admitted limit window times) t).length ≤ limit := by
  induction times using List.reverseRecOn with
  | nil => exact Nat.zero_le limit
  | append_singleton times now ih =>
    rw [List.pairwise_append] at h
    have hbefore : ∀ a ∈ times, a ≤ now := fun a ha => h.2.2 a ha now (by simp)
    rw [admitted_concat]
    split_ifs with hadmits
    · rw [inWindow, List.filter_append, List.length_append]
      by_cases ht : t - window < now ∧ now ≤ t
      · -- the window holds the new time, so its other times were still in the queue
        have hlive := live_queueAfter limit window h.1 hbefore
        have hroom : (live window (queueAfter limit window times) now).length < limit := hadmits
        rw [hlive] at hroom
        have hsub : ((admitted limit window times).filter fun a => t - window < a ∧ a ≤ t).length ≤
            ((admitted limit window times).filter fun a => now - window < a).length := by
          refine (List.monotone_filter_right _ fun a ha => ?_).length_le
          rw [decide_eq_true_eq] at ha ⊢
          exact (sub_le_sub_right ht.2 window).trans_lt ha.1
        have hone : ([now].filter fun a => t - window < a ∧ a ≤ t).length ≤ 1 :=
          List.length_filter_le _ [now]
        omega
      · rw [List.filter_cons_of_neg (by simpa using ht)]
        exact ih h.1
    · rw [List.append_nil]
      exact ih h.1

/-- A time is refused only when the window is full of admitted ones. -/
theorem length_of_not_admits {times : List α} (h : times.Pairwise (· ≤ ·)) {now : α}
    (hnow : ∀ a ∈ times, a ≤ now)
    (hrefused : ¬ Admits limit window (queueAfter limit window times) now) :
    (inWindow window (admitted limit window times) now).length = limit := by
  refine le_antisymm (inWindow_length_le limit window h now) ?_
  rw [← live_eq_inWindow limit window h hnow]
  exact not_lt.mp hrefused

end Runs

end ContinuityOS.Library.SlidingWindow

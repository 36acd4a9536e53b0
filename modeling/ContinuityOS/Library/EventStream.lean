import ContinuityOS.Library.Text

/-! # Event streams

The reading of a stream of server-sent events. A line ends at a return, a newline or both. A
field is split at the first colon, and one space behind the colon is dropped. The lines of data of
a message are joined, and a blank line dispatches what is pending; without data nothing is sent.
-/
namespace ContinuityOS.Library

structure Message where
  name : String
  data : String
deriving DecidableEq

namespace EventStream

/-- The name and the data of the message that is being read. -/
structure Pending where
  name : List Char
  data : List Char

def Pending.empty : Pending where
  name := []
  data := []

/-- The lines that are ended. -/
def lines (text : List Char) : List (List Char) := (splitOn '\n' (universalNewlines text)).dropLast

def dropSpace : List Char → List Char
  | ' ' :: value => value
  | value => value

/-- The name and the value of a field; without a colon the line is a name. -/
def field (line : List Char) : List Char × List Char :=
  (line.takeWhile (· ≠ ':'), dropSpace (line.dropWhile (· ≠ ':')).tail)

namespace Pending
variable (p : Pending)

/-- A message without a name is a plain message. -/
def dispatch : Option Message :=
  if p.data = [] then none
  else some
    { name := if p.name = [] then "message" else String.ofList p.name
      data := String.ofList p.data.dropLast }

/-- Comments are fields without a name, and like the fields about the connection they leave the
message as it is. -/
def take (name value : List Char) : Pending :=
  if name = "event".toList then { p with name := value }
  else if name = "data".toList then { p with data := p.data ++ value ++ ['\n'] }
  else p

end Pending

/-- The messages that lines dispatch. -/
def messages (p : Pending) : List (List Char) → List Message
  | [] => []
  | line :: rest =>
    if line = [] then p.dispatch.toList ++ messages .empty rest
    else messages (p.take (field line).1 (field line).2) rest

def parse (text : String) : List Message := messages .empty (lines text.toList)

/-- A text of one line. -/
def OneLine (text : List Char) : Prop := '\r' ∉ text ∧ '\n' ∉ text

instance (text : List Char) : Decidable (OneLine text) := inferInstanceAs (Decidable (_ ∧ _))

theorem oneLine_nil : OneLine [] := ⟨List.not_mem_nil, List.not_mem_nil⟩

theorem OneLine.append {a b : List Char} (ha : OneLine a) (hb : OneLine b) : OneLine (a ++ b) := by
  constructor
  · rw [List.mem_append, not_or]
    exact ⟨ha.1, hb.1⟩
  · rw [List.mem_append, not_or]
    exact ⟨ha.2, hb.2⟩

theorem OneLine.of_subset {a b : List Char} (h : OneLine b) (hsub : a ⊆ b) : OneLine a :=
  ⟨fun hc => h.1 (hsub hc), fun hc => h.2 (hsub hc)⟩

section Lines

theorem universalNewlines_append {line : List Char} (h : '\r' ∉ line) (text : List Char) :
    universalNewlines (line ++ text) = line ++ universalNewlines text := by
  induction line with
  | nil => rfl
  | cons c line ih =>
    rw [List.mem_cons, not_or] at h
    rw [List.cons_append, universalNewlines_cons (Ne.symm h.1), ih h.2, List.cons_append]

theorem lines_append {line : List Char} (h : OneLine line) (text : List Char) :
    lines (line ++ '\n' :: text) = line :: lines text := by
  have hsplit : splitOn '\n' (universalNewlines (line ++ '\n' :: text)) =
      line :: splitOn '\n' (universalNewlines text) := by
    rw [universalNewlines_append h.1, universalNewlines_cons (by decide), splitOn_append,
      splitOn_of_not_mem h.2, List.singleton_append]
  rw [lines, hsplit, List.dropLast_cons_of_ne_nil (splitOn_ne_nil _ _), lines]

theorem return_not_mem_universalNewlines (text : List Char) : '\r' ∉ universalNewlines text := by
  fun_induction universalNewlines text with
  | case1 => exact List.not_mem_nil
  | case2 text ih =>
    rw [List.mem_cons, not_or]
    exact ⟨by decide, ih⟩
  | case3 c text _ ih =>
    rw [List.mem_cons, not_or]
    refine ⟨?_, ih⟩
    split_ifs with hc
    · decide
    · exact Ne.symm hc

theorem mem_of_mem_splitOn {α : Type*} [DecidableEq α] {sep a : α} {l piece : List α}
    (hpiece : piece ∈ splitOn sep l) (ha : a ∈ piece) : a ∈ l ∧ a ≠ sep := by
  induction l generalizing piece with
  | nil =>
    rw [List.mem_singleton.mp hpiece] at ha
    cases ha
  | cons b l ih =>
    rw [splitOn] at hpiece
    split_ifs at hpiece with hb
    · rcases List.mem_cons.mp hpiece with hempty | hrest
      · rw [hempty] at ha
        cases ha
      · exact ⟨List.mem_cons_of_mem b (ih hrest ha).1, (ih hrest ha).2⟩
    · cases hsplit : splitOn sep l with
      | nil => exact absurd hsplit (splitOn_ne_nil sep l)
      | cons first pieces =>
        rw [hsplit] at hpiece ih
        rcases List.mem_cons.mp hpiece with hfirst | hrest
        · rw [hfirst] at ha
          rcases List.mem_cons.mp ha with hhead | htail
          · exact ⟨hhead ▸ List.mem_cons_self, hhead ▸ hb⟩
          · have h := ih List.mem_cons_self htail
            exact ⟨List.mem_cons_of_mem b h.1, h.2⟩
        · have h := ih (List.mem_cons_of_mem first hrest) ha
          exact ⟨List.mem_cons_of_mem b h.1, h.2⟩

theorem oneLine_of_mem_lines {text line : List Char} (h : line ∈ lines text) : OneLine line := by
  have hline := List.mem_of_mem_dropLast h
  exact ⟨fun hc => return_not_mem_universalNewlines text (mem_of_mem_splitOn hline hc).1,
    fun hc => (mem_of_mem_splitOn hline hc).2 rfl⟩

end Lines

section Fields

theorem dropSpace_subset (value : List Char) : dropSpace value ⊆ value := by
  fun_cases dropSpace value with
  | case1 value => exact List.subset_cons_self ' ' value
  | case2 => exact List.Subset.refl value

theorem field_value_subset (line : List Char) : (field line).2 ⊆ line :=
  fun _ h => (List.dropWhile_sublist _).subset (List.mem_of_mem_tail (dropSpace_subset _ h))

theorem field_append {name : List Char} (h : ':' ∉ name) (value : List Char) :
    field (name ++ ':' :: ' ' :: value) = (name, value) := by
  have hname : ∀ c ∈ name, decide (c ≠ ':') = true := by
    intro c hc
    exact decide_eq_true fun heq => h (heq ▸ hc)
  rw [field, List.takeWhile_append_of_pos hname, List.dropWhile_append_of_pos hname,
    List.takeWhile_cons_of_neg (by decide), List.dropWhile_cons_of_neg (by decide),
    List.append_nil]
  rfl

theorem messages_field {name : List Char} (h : ':' ∉ name) (value : List Char) (p : Pending)
    (rest : List (List Char)) :
    messages p ((name ++ ':' :: ' ' :: value) :: rest) = messages (p.take name value) rest := by
  rw [messages, if_neg (by simp), field_append h]

theorem messages_blank (p : Pending) (rest : List (List Char)) :
    messages p ([] :: rest) = p.dispatch.toList ++ messages .empty rest := by
  rw [messages, if_pos rfl]

theorem messages_field_blank {name value : List Char} (h : ':' ∉ name)
    (hline : OneLine (name ++ ':' :: ' ' :: value)) (p : Pending) (rest : List Char) :
    messages p (lines (name ++ ':' :: ' ' :: value ++ '\n' :: '\n' :: rest)) =
      (p.take name value).dispatch.toList ++ messages .empty (lines rest) := by
  have hblank : lines ('\n' :: rest) = [] :: lines rest := lines_append oneLine_nil rest
  rw [lines_append hline, hblank, messages_field h, messages_blank]

/-- A block of a comment sends nothing. -/
theorem messages_comment {comment : List Char} (h : OneLine comment) (rest : List Char) :
    messages .empty (lines (':' :: ' ' :: comment ++ '\n' :: '\n' :: rest)) =
      messages .empty (lines rest) :=
  messages_field_blank List.not_mem_nil (OneLine.append (a := [':', ' ']) (by decide) h) .empty rest

/-- A block of a name and of data on one line each sends them as a message. -/
theorem messages_event {name data : List Char} (hname : OneLine name) (hdata : OneLine data)
    (hne : name ≠ []) (rest : List Char) :
    messages .empty (lines ("event".toList ++ ':' :: ' ' :: name ++ '\n' ::
      ("data".toList ++ ':' :: ' ' :: data ++ '\n' :: '\n' :: rest))) =
      ⟨String.ofList name, String.ofList data⟩ :: messages .empty (lines rest) := by
  have hnamed : OneLine ("event".toList ++ ':' :: ' ' :: name) :=
    OneLine.append (a := "event: ".toList) (by decide) hname
  have hdated : OneLine ("data".toList ++ ':' :: ' ' :: data) :=
    OneLine.append (a := "data: ".toList) (by decide) hdata
  have hdispatch : ((Pending.empty.take "event".toList name).take "data".toList data).dispatch =
      some ⟨String.ofList name, String.ofList data⟩ := by
    simp [Pending.dispatch, Pending.take, Pending.empty, hne]
  rw [lines_append hnamed, messages_field (by decide), messages_field_blank (by decide) hdated,
    hdispatch]
  rfl

end Fields

section Names
variable {p : Pending}

theorem OneLine.take {name value : List Char} (hp : OneLine p.name) (hvalue : OneLine value) :
    OneLine (p.take name value).name := by
  unfold Pending.take
  split_ifs
  · exact hvalue
  · exact hp
  · exact hp

/-- The name of a message is one line and never empty. -/
theorem messages_name {ls : List (List Char)} (hp : OneLine p.name)
    (hlines : ∀ line ∈ ls, OneLine line) :
    ∀ m ∈ messages p ls, m.name ≠ "" ∧ OneLine m.name.toList := by
  induction ls generalizing p with
  | nil => exact fun m hm => absurd hm List.not_mem_nil
  | cons line ls ih =>
    rw [List.forall_mem_cons] at hlines
    intro m hm
    rw [messages] at hm
    split_ifs at hm with hblank
    · rcases List.mem_append.mp hm with hsent | hlater
      · rw [Option.mem_toList, Pending.dispatch] at hsent
        split_ifs at hsent with hdata hname
        · obtain rfl := Option.some.inj hsent
          have hplain : "message" ≠ "" ∧ OneLine "message".toList := by decide
          exact hplain
        · obtain rfl := Option.some.inj hsent
          refine ⟨fun h => hname (by simpa using congrArg String.toList h), ?_⟩
          rwa [String.toList_ofList]
      · exact ih oneLine_nil hlines.2 m hlater
    · have hvalue : OneLine (field line).2 := hlines.1.of_subset (field_value_subset line)
      exact ih (hp.take hvalue) hlines.2 m hm

theorem parse_name (text : String) :
    ∀ m ∈ parse text, m.name ≠ "" ∧ OneLine m.name.toList :=
  messages_name oneLine_nil fun _ h => oneLine_of_mem_lines h

end Names

end EventStream

end ContinuityOS.Library

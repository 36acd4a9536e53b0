import Mathlib.Tactic

/-! # Calendar times with an offset

Times of the proleptic calendar with microseconds and an offset from UTC, their text in the
extended ISO format and the reading of this text. Times are compared as instants; the texts of
times with one offset are in the same order.
-/
namespace ContinuityOS.Library

section Digits

/-- The last decimal digits of a number, with leading zeros. -/
def digits : ℕ → ℕ → List Char
  | 0, _ => []
  | w + 1, n => digits w (n / 10) ++ [Nat.digitChar (n % 10)]

def digitsValue (text : List Char) : ℕ := text.foldl (fun value c => 10 * value + (c.toNat - 48)) 0

def readDigits (w : ℕ) (text : List Char) : ℕ × List Char := (digitsValue (text.take w), text.drop w)

theorem digits_length (w n : ℕ) : (digits w n).length = w := by
  induction w generalizing n with
  | zero => rfl
  | succ w ih => rw [digits, List.length_append, ih, List.length_singleton]

theorem digitsValue_digits {w n : ℕ} (h : n < 10 ^ w) : digitsValue (digits w n) = n := by
  have hdigit : ∀ d < 10, (Nat.digitChar d).toNat - 48 = d := by
    intro d hd
    interval_cases d <;> rfl
  induction w generalizing n with
  | zero =>
    rw [pow_zero, Nat.lt_one_iff] at h
    rw [h]
    rfl
  | succ w ih =>
    have hlast := hdigit (n % 10) (Nat.mod_lt n (by decide))
    have hrest : n / 10 < 10 ^ w := by
      rw [pow_succ] at h
      omega
    have hsplit : digitsValue (digits (w + 1) n) =
        10 * digitsValue (digits w (n / 10)) + ((Nat.digitChar (n % 10)).toNat - 48) := by
      rw [digitsValue, digits, List.foldl_append]
      rfl
    rw [hsplit, ih hrest, hlast]
    omega

theorem readDigits_append {w n : ℕ} (h : n < 10 ^ w) (rest : List Char) :
    readDigits w (digits w n ++ rest) = (n, rest) := by
  rw [readDigits, List.take_left' (digits_length w n), List.drop_left' (digits_length w n),
    digitsValue_digits h]

theorem digits_lt_digits {w m n : ℕ} (h : m < n) (hn : n < 10 ^ w) (text text' : List Char) :
    digits w m ++ text < digits w n ++ text' := by
  have hdigit : ∀ d < 10, ∀ c < d, Nat.digitChar c < Nat.digitChar d := by decide
  induction w generalizing m n text text' with
  | zero =>
    rw [pow_zero] at hn
    omega
  | succ w ih =>
    have hrest : n / 10 < 10 ^ w := by
      rw [pow_succ] at hn
      omega
    rw [digits, digits, List.append_assoc, List.append_assoc]
    rcases Nat.lt_or_ge (m / 10) (n / 10) with hlt | hge
    · exact ih hlt hrest _ _
    · have heq : m / 10 = n / 10 := by omega
      rw [heq]
      refine List.append_left_lt (List.cons_lt_cons_iff.mpr (Or.inl ?_))
      exact hdigit _ (Nat.mod_lt n (by decide)) _ (by omega)

/-- A number comes first in the order of the texts, then what follows its separator. -/
theorem field_lt_field {w m n : ℕ} {separator : Char} {text text' : List Char} (hn : n < 10 ^ w)
    (h : m < n ∨ m = n ∧ text < text') :
    digits w m ++ separator :: text < digits w n ++ separator :: text' := by
  rcases h with hlt | ⟨rfl, hrest⟩
  · exact digits_lt_digits hlt hn _ _
  · exact List.append_left_lt (List.cons_lt_cons_iff.mpr (Or.inr ⟨rfl, hrest⟩))

end Digits

def isLeapYear (year : ℕ) : Bool := year % 4 = 0 && (year % 100 ≠ 0 || year % 400 = 0)

def daysInMonth (year month : ℕ) : ℕ :=
  if month = 2 then (if isLeapYear year then 29 else 28)
  else if month = 4 ∨ month = 6 ∨ month = 9 ∨ month = 11 then 30
  else 31

def daysBeforeYear (year : ℕ) : ℕ :=
  (year - 1) * 365 + (year - 1) / 4 - (year - 1) / 100 + (year - 1) / 400

def daysBeforeMonth (year month : ℕ) : ℕ :=
  ((List.range (month - 1)).map fun m => daysInMonth year (m + 1)).sum

theorem daysBeforeYear_succ {year : ℕ} (h : 1 ≤ year) :
    daysBeforeYear (year + 1) = daysBeforeYear year + if isLeapYear year then 366 else 365 := by
  -- a quotient grows exactly at the multiples of its divisor
  have hquotient : ∀ k, year / k = (year - 1) / k + if k ∣ year then 1 else 0 := by
    intro k
    have hsucc : (year - 1 + 1) / k = _ := Nat.succ_div
    rwa [Nat.sub_add_cancel h] at hsucc
  have hleap : (if isLeapYear year then 366 else 365) =
      365 + (if 4 ∣ year then 1 else 0) - (if 100 ∣ year then 1 else 0) +
        (if 400 ∣ year then 1 else 0) := by
    simp only [isLeapYear, Bool.and_eq_true, Bool.or_eq_true, decide_eq_true_eq,
      Nat.dvd_iff_mod_eq_zero]
    split_ifs <;> omega
  rw [hleap, daysBeforeYear, daysBeforeYear, Nat.add_sub_cancel]
  have h4 := hquotient 4
  have h100 := hquotient 100
  have h400 := hquotient 400
  split_ifs at * <;> omega

theorem daysBeforeYear_mono {year year' : ℕ} (h : 1 ≤ year) (hle : year ≤ year') :
    daysBeforeYear year ≤ daysBeforeYear year' := by
  induction year', hle using Nat.le_induction with
  | base => exact le_refl _
  | succ year' hyear ih =>
    rw [daysBeforeYear_succ (le_trans h hyear)]
    exact Nat.le_add_right_of_le ih

theorem daysBeforeMonth_succ {year month : ℕ} (h : 1 ≤ month) :
    daysBeforeMonth year (month + 1) = daysBeforeMonth year month + daysInMonth year month := by
  obtain ⟨m, rfl⟩ : ∃ m, month = m + 1 := ⟨month - 1, by omega⟩
  rw [daysBeforeMonth, daysBeforeMonth, Nat.add_sub_cancel, Nat.add_sub_cancel, List.range_succ,
    List.map_append, List.sum_append]
  rfl

theorem daysBeforeMonth_mono {year month month' : ℕ} (h : 1 ≤ month) (hle : month ≤ month') :
    daysBeforeMonth year month ≤ daysBeforeMonth year month' := by
  induction month', hle using Nat.le_induction with
  | base => exact le_refl _
  | succ month' hmonth ih =>
    rw [daysBeforeMonth_succ (le_trans h hmonth)]
    exact Nat.le_add_right_of_le ih

theorem daysBeforeMonth_year (year : ℕ) :
    daysBeforeMonth year 13 = if isLeapYear year then 366 else 365 := by
  cases hleap : isLeapYear year <;>
    simp [daysBeforeMonth, daysInMonth, hleap, List.range_succ]

/-- The parts of a calendar time; the offset is in microseconds east of UTC. -/
structure TimeParts where
  year : ℕ
  month : ℕ
  day : ℕ
  hour : ℕ
  minute : ℕ
  second : ℕ
  microsecond : ℕ
  offset : ℤ
deriving DecidableEq

namespace TimeParts

def Valid (t : TimeParts) : Prop :=
  (1 ≤ t.year ∧ t.year ≤ 9999) ∧ (1 ≤ t.month ∧ t.month ≤ 12) ∧
    (1 ≤ t.day ∧ t.day ≤ daysInMonth t.year t.month) ∧ t.hour < 24 ∧ t.minute < 60 ∧
    t.second < 60 ∧ t.microsecond < 1000000 ∧ t.offset.natAbs < 86400000000

instance (t : TimeParts) : Decidable t.Valid := inferInstanceAs (Decidable (_ ∧ _))

/-- Microseconds of UTC from the first day of the year one. -/
def instant (t : TimeParts) : ℤ :=
  ((((daysBeforeYear t.year + daysBeforeMonth t.year t.month + t.day : ℕ) * 24 + t.hour) * 60
    + t.minute) * 60 + t.second) * 1000000 + t.microsecond - t.offset

def fractionText (microsecond : ℕ) : List Char :=
  if microsecond = 0 then [] else '.' :: digits 6 microsecond

/-- Seconds and microseconds of the offset are written only where there are any. -/
def offsetText (offset : ℤ) : List Char :=
  (if offset < 0 then '-' else '+') :: (digits 2 (offset.natAbs / 3600000000) ++ ':' ::
    (digits 2 (offset.natAbs / 60000000 % 60) ++
      if offset.natAbs % 60000000 = 0 then []
      else ':' :: (digits 2 (offset.natAbs / 1000000 % 60) ++
        fractionText (offset.natAbs % 1000000))))

def isoformat (t : TimeParts) : List Char :=
  digits 4 t.year ++ '-' :: (digits 2 t.month ++ '-' :: (digits 2 t.day ++ 'T' ::
    (digits 2 t.hour ++ ':' :: (digits 2 t.minute ++ ':' :: (digits 2 t.second ++
      (fractionText t.microsecond ++ offsetText t.offset))))))

def readFraction : List Char → ℕ × List Char
  | '.' :: text => readDigits 6 text
  | text => (0, text)

def readOffset (text : List Char) : ℤ :=
  let (hour, rest) := readDigits 2 (text.drop 1)
  let (minute, rest) := readDigits 2 (rest.drop 1)
  let (second, rest) := if rest = [] then (0, []) else readDigits 2 (rest.drop 1)
  let (microsecond, _) := readFraction rest
  let value := ((hour * 60 + minute) * 60 + second) * 1000000 + microsecond
  if text.head? = some '-' then -value else value

/-- The parts of a text that `isoformat` writes. -/
def read (text : List Char) : TimeParts :=
  let (year, rest) := readDigits 4 text
  let (month, rest) := readDigits 2 (rest.drop 1)
  let (day, rest) := readDigits 2 (rest.drop 1)
  let (hour, rest) := readDigits 2 (rest.drop 1)
  let (minute, rest) := readDigits 2 (rest.drop 1)
  let (second, rest) := readDigits 2 (rest.drop 1)
  let (microsecond, rest) := readFraction rest
  { year := year, month := month, day := day, hour := hour, minute := minute, second := second
    microsecond := microsecond, offset := readOffset rest }

theorem readFraction_append {microsecond : ℕ} (h : microsecond < 1000000) {rest : List Char}
    (hrest : rest.head? ≠ some '.') :
    readFraction (fractionText microsecond ++ rest) = (microsecond, rest) := by
  rw [fractionText]
  split_ifs with hzero
  · rw [hzero, List.nil_append]
    cases rest with
    | nil => rfl
    | cons c rest =>
      have hc : c ≠ '.' := fun heq => hrest (congrArg some heq)
      rw [readFraction]
      intro text heq
      exact hc (List.cons.inj heq).1
  · rw [List.cons_append, readFraction, readDigits_append h]

theorem readOffset_offsetText {offset : ℤ} (h : offset.natAbs < 86400000000) :
    readOffset (offsetText offset) = offset := by
  have hhour := readDigits_append (w := 2) (n := offset.natAbs / 3600000000) (by omega)
  have hminute := readDigits_append (w := 2) (n := offset.natAbs / 60000000 % 60) (by omega)
  have hsecond := readDigits_append (w := 2) (n := offset.natAbs / 1000000 % 60) (by omega)
  have hfraction := @readFraction_append (offset.natAbs % 1000000) (by omega) [] (by simp)
  rw [List.append_nil] at hfraction
  have hsign : (if offset < 0 then '-' else '+') = '-' ↔ offset < 0 := by
    split_ifs with hneg <;> simp [hneg]
  rw [readOffset, offsetText]
  simp only [List.drop_succ_cons, List.drop_zero, hhour, hminute, List.head?_cons,
    Option.some.injEq, hsign]
  by_cases hwhole : offset.natAbs % 60000000 = 0
  · have hnone : readFraction [] = (0, []) := rfl
    simp only [if_pos hwhole, if_true, hnone]
    split_ifs <;> omega
  · simp only [if_neg hwhole, List.cons_ne_nil, if_false, List.drop_succ_cons, List.drop_zero,
      hsecond, hfraction]
    split_ifs <;> omega

theorem read_isoformat {t : TimeParts} (h : t.Valid) : read t.isoformat = t := by
  obtain ⟨⟨-, hyear⟩, ⟨-, hmonth⟩, ⟨-, hday⟩, hhour, hminute, hsecond, hmicro, hoffset⟩ := h
  have hdays : daysInMonth t.year t.month ≤ 31 := by
    rw [daysInMonth]
    split_ifs <;> omega
  have hhead : (offsetText t.offset).head? ≠ some '.' := by
    rw [offsetText, List.head?_cons]
    split_ifs <;> decide
  rw [read, isoformat]
  simp only [readDigits_append (w := 4) (n := t.year) (by omega),
    readDigits_append (w := 2) (n := t.month) (by omega),
    readDigits_append (w := 2) (n := t.day) (by omega),
    readDigits_append (w := 2) (n := t.hour) (by omega),
    readDigits_append (w := 2) (n := t.minute) (by omega),
    readDigits_append (w := 2) (n := t.second) (by omega), List.drop_succ_cons, List.drop_zero,
    readFraction_append hmicro hhead, readOffset_offsetText hoffset]

/-- The parts are earlier on the clock. -/
def Before (s t : TimeParts) : Prop :=
  s.year < t.year ∨ s.year = t.year ∧ (s.month < t.month ∨ s.month = t.month ∧
    (s.day < t.day ∨ s.day = t.day ∧ (s.hour < t.hour ∨ s.hour = t.hour ∧
      (s.minute < t.minute ∨ s.minute = t.minute ∧ (s.second < t.second ∨
        s.second = t.second ∧ s.microsecond < t.microsecond)))))

theorem before_or_before {s t : TimeParts} (hne : s ≠ t) (hoffset : s.offset = t.offset) :
    Before s t ∨ Before t s := by
  by_contra hneither
  obtain ⟨hst, hts⟩ := not_or.mp hneither
  rw [Before] at hst hts
  apply hne
  rw [TimeParts.mk.injEq]
  omega

def dayOrdinal (t : TimeParts) : ℕ := daysBeforeYear t.year + daysBeforeMonth t.year t.month + t.day

theorem dayOrdinal_lt {s t : TimeParts} (hs : s.Valid) (ht : t.Valid)
    (h : s.year < t.year ∨ s.year = t.year ∧ (s.month < t.month ∨ s.month = t.month ∧
      s.day < t.day)) : s.dayOrdinal < t.dayOrdinal := by
  obtain ⟨⟨hyear, -⟩, ⟨hmonth, hmonth'⟩, ⟨-, hday⟩, -⟩ := hs
  obtain ⟨-, -, ⟨hday', -⟩, -⟩ := ht
  have hinYear : daysBeforeMonth s.year s.month + daysInMonth s.year s.month ≤
      daysBeforeMonth s.year 13 := by
    rw [← daysBeforeMonth_succ hmonth]
    exact daysBeforeMonth_mono (Nat.le_add_left 1 _) (by omega)
  rw [dayOrdinal, dayOrdinal]
  rcases h with hlt | ⟨heq, hlt | ⟨heq', hlt⟩⟩
  · have hyears := daysBeforeYear_mono (Nat.le_add_left 1 _) (Nat.succ_le_of_lt hlt)
    rw [daysBeforeYear_succ hyear, ← daysBeforeMonth_year] at hyears
    omega
  · have hmonths : daysBeforeMonth s.year (s.month + 1) ≤ daysBeforeMonth s.year t.month :=
      daysBeforeMonth_mono (Nat.le_add_left 1 _) hlt
    rw [daysBeforeMonth_succ hmonth] at hmonths
    rw [← heq]
    omega
  · rw [← heq, ← heq']
    omega

theorem instant_lt_of_before {s t : TimeParts} (hs : s.Valid) (ht : t.Valid)
    (hoffset : s.offset = t.offset) (h : Before s t) : s.instant < t.instant := by
  have hdays : s.dayOrdinal < t.dayOrdinal ∨ s.dayOrdinal = t.dayOrdinal ∧
      (s.hour < t.hour ∨ s.hour = t.hour ∧ (s.minute < t.minute ∨ s.minute = t.minute ∧
        (s.second < t.second ∨ s.second = t.second ∧ s.microsecond < t.microsecond))) := by
    rcases h with hyear | ⟨hyear, hmonth | ⟨hmonth, hday | ⟨hday, hclock⟩⟩⟩
    · exact Or.inl (dayOrdinal_lt hs ht (Or.inl hyear))
    · exact Or.inl (dayOrdinal_lt hs ht (Or.inr ⟨hyear, Or.inl hmonth⟩))
    · exact Or.inl (dayOrdinal_lt hs ht (Or.inr ⟨hyear, Or.inr ⟨hmonth, hday⟩⟩))
    · refine Or.inr ⟨?_, hclock⟩
      rw [dayOrdinal, dayOrdinal, hyear, hmonth, hday]
  obtain ⟨-, -, -, hhour, hminute, hsecond, hmicro, -⟩ := hs
  have hinstant : ∀ u : TimeParts, u.instant = ((((u.dayOrdinal * 24 + u.hour) * 60 + u.minute) * 60
      + u.second : ℕ) * 1000000 + u.microsecond - u.offset : ℤ) := by
    intro u
    rw [instant, dayOrdinal]
    push_cast
    rfl
  rw [hinstant, hinstant, hoffset]
  omega

theorem isoformat_lt_of_before {s t : TimeParts} (ht : t.Valid) (hoffset : s.offset = t.offset)
    (h : Before s t) : s.isoformat < t.isoformat := by
  obtain ⟨⟨-, hyear⟩, ⟨-, hmonth⟩, ⟨-, hday⟩, hhour, hminute, hsecond, hmicro, -⟩ := ht
  have hdays : daysInMonth t.year t.month ≤ 31 := by
    rw [daysInMonth]
    split_ifs <;> omega
  have hfraction : s.microsecond < t.microsecond →
      fractionText s.microsecond ++ offsetText s.offset <
        fractionText t.microsecond ++ offsetText t.offset := by
    intro hlt
    have hpos : t.microsecond ≠ 0 := by omega
    rw [hoffset, fractionText, fractionText, if_neg hpos]
    split_ifs with hzero
    · -- both signs come before the point
      rw [List.nil_append, offsetText, List.cons_append]
      refine List.cons_lt_cons_iff.mpr (Or.inl ?_)
      split_ifs <;> decide
    · rw [List.cons_append, List.cons_append]
      exact List.cons_lt_cons_iff.mpr (Or.inr ⟨rfl, digits_lt_digits hlt (by omega) _ _⟩)
  have hclock : s.second < t.second ∨ s.second = t.second ∧ s.microsecond < t.microsecond →
      digits 2 s.second ++ (fractionText s.microsecond ++ offsetText s.offset) <
        digits 2 t.second ++ (fractionText t.microsecond ++ offsetText t.offset) := by
    rintro (hlt | ⟨heq, hlt⟩)
    · exact digits_lt_digits hlt (by omega) _ _
    · rw [heq]
      exact List.append_left_lt (hfraction hlt)
  rw [isoformat, isoformat]
  refine field_lt_field (by omega) (h.imp_right fun h => ⟨h.1, ?_⟩)
  refine field_lt_field (by omega) (h.2.imp_right fun h => ⟨h.1, ?_⟩)
  refine field_lt_field (by omega) (h.2.imp_right fun h => ⟨h.1, ?_⟩)
  refine field_lt_field (by omega) (h.2.imp_right fun h => ⟨h.1, ?_⟩)
  exact field_lt_field (by omega) (h.2.imp_right fun h => ⟨h.1, hclock h.2⟩)

end TimeParts

/-- A time of the calendar. -/
structure DateTime where
  parts : TimeParts
  valid : parts.Valid
deriving DecidableEq

namespace DateTime

def instant (t : DateTime) : ℤ := t.parts.instant

def isoformat (t : DateTime) : String := String.ofList t.parts.isoformat

/-- The time that a text stands for, if there is one. -/
def fromisoformat (text : String) : Option DateTime :=
  if h : (TimeParts.read text.toList).Valid then some ⟨TimeParts.read text.toList, h⟩ else none

theorem fromisoformat_isoformat (t : DateTime) : fromisoformat t.isoformat = some t := by
  have hread : TimeParts.read t.isoformat.toList = t.parts := by
    rw [isoformat, String.toList_ofList, TimeParts.read_isoformat t.valid]
  simp only [fromisoformat, hread, t.valid, dite_true]

theorem isoformat_injective : Function.Injective isoformat := by
  intro s t h
  have hread := congrArg fromisoformat h
  rw [fromisoformat_isoformat, fromisoformat_isoformat] at hread
  exact Option.some.inj hread

/-- Texts of times with one offset are in the order of the times. -/
theorem isoformat_lt_of_instant_lt {s t : DateTime} (hoffset : s.parts.offset = t.parts.offset)
    (h : s.instant < t.instant) : s.isoformat < t.isoformat := by
  have hne : s.parts ≠ t.parts := by
    intro heq
    rw [instant, instant, heq] at h
    exact lt_irrefl _ h
  rcases TimeParts.before_or_before hne hoffset with hbefore | hafter
  · rw [String.lt_iff, isoformat, isoformat, String.toList_ofList, String.toList_ofList]
    exact TimeParts.isoformat_lt_of_before t.valid hoffset hbefore
  · exact absurd (TimeParts.instant_lt_of_before t.valid s.valid hoffset.symm hafter) (lt_asymm h)

/-- The time in UTC. -/
def IsUtc (t : DateTime) : Prop := t.parts.offset = 0

end DateTime

end ContinuityOS.Library

import Issuance.Instant
import Mathlib.Data.Int.Init
import Mathlib.Data.Int.Order.Basic
import Mathlib.Tactic.SplitIfs

/-! # The Gregorian calendar

    The calendar says which date follows which: the next day of the month, or the first of the next
    month, or the first of the next year. With the first of January of 1970 as the day zero this
    numbers every date, forwards and backwards. The date that is computed for the number of a day is
    the date with that number. -/

namespace Issuance.Date

/-! ### The calendar -/

/-- Whether a year has a leap day. -/
def isLeap (year : Int) : Bool := year % 4 = 0 ∧ (year % 100 ≠ 0 ∨ year % 400 = 0)

/-- The days of a month. -/
def monthLength (leap : Bool) : Nat → Nat
  | 2 => if leap then 29 else 28
  | 4 | 6 | 9 | 11 => 30
  | _ => 31

/-- The days of the month of a date. -/
def lengthOfMonth (d : Date) : Nat := monthLength (isLeap d.year) d.month

/-- A date that is in the calendar. -/
structure Valid (d : Date) : Prop where
  month_pos : 1 ≤ d.month
  month_le : d.month ≤ 12
  day_pos : 1 ≤ d.day
  day_le : d.day ≤ d.lengthOfMonth

/-- The date of the next day. -/
def next (d : Date) : Date :=
  if d.day < d.lengthOfMonth then { d with day := d.day + 1 }
  else if d.month < 12 then { d with month := d.month + 1, day := 1 }
  else ⟨d.year + 1, 1, 1⟩

/-- The number of a date, counted in days from the first of January of 1970. -/
inductive Numbered : Date → Int → Prop
  | epoch : Numbered ⟨1970, 1, 1⟩ 0
  | next {d : Date} {n : Int} : Numbered d n → Numbered d.next (n + 1)
  | previous {d : Date} {n : Int} : d.Valid → Numbered d.next (n + 1) → Numbered d n

/-- One date comes before another. -/
def Before (d e : Date) : Prop :=
  d.year < e.year ∨ d.year = e.year ∧ (d.month < e.month ∨ d.month = e.month ∧ d.day < e.day)

variable {d e : Date} {n m : Int}

theorem Before.trans {f : Date} (h : d.Before e) (h' : e.Before f) : d.Before f := by
  simp only [Before] at *
  omega

theorem Before.ne (h : d.Before e) : d ≠ e := by
  rintro rfl
  simp only [Before] at h
  omega

theorem before_next (d : Date) : d.Before d.next := by
  rw [next]
  split_ifs
  · exact .inr ⟨rfl, .inr ⟨rfl, Nat.lt_succ_self _⟩⟩
  · exact .inr ⟨rfl, .inl (Nat.lt_succ_self _)⟩
  · exact .inl (Int.lt_succ _)

/-- Two dates of the calendar with the same next date are the same. -/
theorem Valid.next_inj (hd : d.Valid) (he : e.Valid) (h : d.next = e.next) : d = e := by
  obtain ⟨hpos, hmonth, hday, hlast⟩ := hd
  obtain ⟨hpos', hmonth', hday', hlast'⟩ := he
  rw [next, next] at h
  have hparts : d.year = e.year ∧ d.month = e.month ∧
      (d.day = e.day ∨ d.day = d.lengthOfMonth ∧ e.day = e.lengthOfMonth) := by
    split_ifs at h <;> simp only [mk.injEq] at h <;> omega
  obtain ⟨hyear, hmonths, hdays⟩ := hparts
  have hlength : d.lengthOfMonth = e.lengthOfMonth := by
    rw [lengthOfMonth, lengthOfMonth, hyear, hmonths]
  have hday : d.day = e.day := by omega
  cases d
  cases e
  simp only at hyear hmonths hday
  rw [hyear, hmonths, hday]

/-! ### Years that start in March -/

/-- The first of March of a year, counted from that of the year zero. -/
def marchFirst (year : Int) : Int := 365 * year + year / 4 - year / 100 + year / 400

/-- The first day of a month, counted in months and days from March on. -/
def monthFirst (month : Nat) : Nat := (153 * month + 2) / 5

/-- A day of a month that is counted from March on; January and February are in the next year. -/
def inMonth (year : Int) (month day : Nat) : Date :=
  { year := year + (if month < 10 then 0 else 1)
    month := if month < 10 then month + 3 else month - 9
    day := day + 1 }

/-- The date of a day counted from the first of March of a year. -/
def ofMarch (year : Int) (day : Nat) : Date :=
  let month := (5 * day + 2) / 153
  inMonth year month (day - monthFirst month)

/-- The days of a year from March on. Its last month is in the next year. -/
def yearLength (year : Int) : Nat := if isLeap (year + 1) then 366 else 365

theorem marchFirst_succ (year : Int) :
    marchFirst (year + 1) = marchFirst year + yearLength year := by
  simp only [marchFirst, yearLength, isLeap, decide_eq_true_eq]
  split_ifs <;> omega

theorem marchFirst_eq (cycle : Int) {century span year : Nat} (hc : century < 4) (hs : span < 25)
    (hy : year < 4) : marchFirst (cycle * 400 + (100 * century + 4 * span + year : Nat)) =
      146097 * cycle + (36524 * century + 1461 * span + 365 * year : Nat) := by
  rw [marchFirst]
  generalize hk : cycle * 400 + (100 * century + 4 * span + year : Nat) = k
  have hfour : k / 4 = 100 * cycle + 25 * century + span := by omega
  have hhundred : k / 100 = 4 * cycle + century := by omega
  have hcycle : k / 400 = cycle := by omega
  rw [hfour, hhundred, hcycle]
  omega

/-- The years of a cycle are parted into centuries, spans of four years and years; a leap day ends a
    span, and one more the cycle. -/
theorem yearOfCycle_eq {century span year day : Nat} (hc : century < 4) (hs : span < 25)
    (hy : year < 4) (hd : day < 365 ∨ year = 3 ∧ day = 365 ∧ (span < 24 ∨ century = 3)) :
    yearOfCycle (36524 * century + 1461 * span + 365 * year + day) =
      100 * century + 4 * span + year := by
  rw [yearOfCycle]
  generalize hn : 36524 * century + 1461 * span + 365 * year + day = n
  by_cases hlast : n = 146096
  · subst hlast
    omega
  have hcycle : n / 146096 = 0 := by omega
  have hcentury : n / 36524 = century := by omega
  have hspan : n / 1460 = 25 * century + span ∨
      n / 1460 = 25 * century + span + 1 ∧ year = 3 := by omega
  rw [hcycle, hcentury]
  rcases hspan with hspan | ⟨hspan, rfl⟩
  · rw [hspan]
    omega
  · rw [hspan]
    omega

/-- Every day of a cycle has its place among them. -/
theorem exists_spans {n : Nat} (h : n < 146097) : ∃ century span year day : Nat,
    century < 4 ∧ span < 25 ∧ year < 4 ∧
      (day < 365 ∨ year = 3 ∧ day = 365 ∧ (span < 24 ∨ century = 3)) ∧
      n = 36524 * century + 1461 * span + 365 * year + day := by
  obtain ⟨century, inCentury, hcentury⟩ :
      ∃ century inCentury : Nat, century < 4 ∧ n = 36524 * century + inCentury ∧
        (inCentury < 36524 ∨ century = 3 ∧ inCentury = 36524) :=
    ⟨min 3 (n / 36524), n - 36524 * min 3 (n / 36524), by omega⟩
  obtain ⟨span, inSpan, hspan⟩ :
      ∃ span inSpan : Nat, span < 25 ∧ inCentury = 1461 * span + inSpan ∧ inSpan < 1461 :=
    ⟨inCentury / 1461, inCentury % 1461, by omega⟩
  obtain ⟨year, inYear, hyear⟩ :
      ∃ year inYear : Nat, year < 4 ∧ inSpan = 365 * year + inYear ∧
        (inYear < 365 ∨ year = 3 ∧ inYear = 365) :=
    ⟨min 3 (inSpan / 365), inSpan - 365 * min 3 (inSpan / 365), by omega⟩
  exact ⟨century, span, year, inYear, by omega⟩

/-- The date of a day is the date of its day in the year that starts in March. -/
theorem exists_ofMarch (n : Int) : ∃ (year : Int) (day : Nat),
    ofDay n = ofMarch year day ∧ n = marchFirst year + day ∧ day < yearLength year := by
  obtain ⟨century, span, year, day, hc, hs, hy, hd, hday⟩ :=
    exists_spans (n := (n % cycleDays).toNat) (by rw [cycleDays]; omega)
  have hfirst : firstDayOfYear (100 * century + 4 * span + year) =
      36524 * century + 1461 * span + 365 * year := by
    rw [firstDayOfYear]; omega
  have hmarch : n = marchFirst (n / cycleDays * 400 + (100 * century + 4 * span + year : Nat)) +
      day := by
    rw [marchFirst_eq _ hc hs hy]
    rw [cycleDays] at *
    omega
  refine ⟨n / cycleDays * 400 + (100 * century + 4 * span + year : Nat), day, ?_, hmarch, ?_⟩
  · simp only [ofDay, hday, yearOfCycle_eq hc hs hy hd, hfirst, Nat.add_sub_cancel_left]
    rfl
  · rw [yearLength]
    split_ifs with hleap
    · omega
    · simp only [isLeap, decide_eq_true_eq] at hleap
      omega

theorem marchFirst_mono {y z : Int} (h : y ≤ z) : marchFirst y ≤ marchFirst z := by
  simp only [marchFirst]
  omega

theorem ofDay_eq_ofMarch {year : Int} {day : Nat} (h : day < yearLength year) :
    ofDay (marchFirst year + day) = ofMarch year day := by
  obtain ⟨year', day', hdate, heq, hlt⟩ := exists_ofMarch (marchFirst year + day)
  have hend := marchFirst_succ year
  have hend' := marchFirst_succ year'
  have hyear : year' = year := by
    rcases lt_trichotomy year' year with hless | heq | hmore
    · have hmono := marchFirst_mono (Int.add_one_le_of_lt hless)
      omega
    · exact heq
    · have hmono := marchFirst_mono (Int.add_one_le_of_lt hmore)
      omega
  subst hyear
  have hday : day' = day := by omega
  rw [hdate, hday]

/-! ### Months from March on -/

/-- The length of a month that is counted from March on. Only the last one depends on the year. -/
def lengthFromMarch (leap : Bool) (month : Nat) : Nat :=
  monthLength leap (if month < 10 then month + 3 else month - 9)

theorem lengthOfMonth_inMonth (year : Int) {month : Nat} (h : month < 12) (day : Nat) :
    (inMonth year month day).lengthOfMonth = lengthFromMarch (isLeap (year + 1)) month := by
  have hsame : ∀ m < 11, ∀ leap leap', lengthFromMarch leap m = lengthFromMarch leap' m := by decide
  by_cases hlast : month = 11
  · subst hlast
    rfl
  · exact hsame month (by omega) _ _

/-- One month ends where the next begins, and the last one with the year. -/
theorem monthFirst_add_length (leap : Bool) {month : Nat} (h : month < 12) :
    monthFirst month + lengthFromMarch leap month =
      if month < 11 then monthFirst (month + 1) else if leap then 366 else 365 := by
  have hall : ∀ m < 12, ∀ leap, monthFirst m + lengthFromMarch leap m =
      if m < 11 then monthFirst (m + 1) else if leap then 366 else 365 := by decide
  exact hall month h leap

theorem ofMarch_eq (year : Int) {month day : Nat} {leap : Bool} (h : month < 12)
    (hday : day < lengthFromMarch leap month) :
    ofMarch year (monthFirst month + day) = inMonth year month day := by
  have hend := monthFirst_add_length leap h
  have hmonth : (5 * (monthFirst month + day) + 2) / 153 = month := by
    simp only [monthFirst] at *
    split_ifs at hend <;> omega
  rw [ofMarch, hmonth, Nat.add_sub_cancel_left]

theorem exists_month {year : Int} {day : Nat} (h : day < yearLength year) :
    ∃ month k : Nat, month < 12 ∧ k < lengthFromMarch (isLeap (year + 1)) month ∧
      day = monthFirst month + k := by
  have hmonth : (5 * day + 2) / 153 < 12 := by
    rw [yearLength] at h
    split_ifs at h <;> omega
  have hend := monthFirst_add_length (isLeap (year + 1)) hmonth
  have hlow : monthFirst ((5 * day + 2) / 153) ≤ day := by
    rw [monthFirst]
    omega
  have hhigh : day < monthFirst ((5 * day + 2) / 153 + 1) := by
    rw [monthFirst]
    omega
  refine ⟨(5 * day + 2) / 153, day - monthFirst ((5 * day + 2) / 153), hmonth, ?_, by omega⟩
  rw [yearLength] at h
  split_ifs at h hend <;> omega

/-! ### The date of a day -/

/-- The date of a day counted in the months of a year from March on. -/
theorem ofDay_eq_inMonth {year : Int} {month k : Nat} (h : month < 12)
    (hk : k < lengthFromMarch (isLeap (year + 1)) month) :
    ofDay (marchFirst year + (monthFirst month + k : Nat)) = inMonth year month k := by
  have hend := monthFirst_add_length (isLeap (year + 1)) h
  have hday : monthFirst month + k < yearLength year := by
    simp only [yearLength, monthFirst] at *
    split_ifs at hend ⊢ <;> omega
  rw [ofDay_eq_ofMarch hday, ofMarch_eq year h hk]

/-- Every day is counted so. -/
theorem exists_inMonth (n : Int) : ∃ (year : Int) (month k : Nat), month < 12 ∧
    k < lengthFromMarch (isLeap (year + 1)) month ∧
      n = marchFirst year + (monthFirst month + k : Nat) := by
  obtain ⟨year, day, -, hn, hday⟩ := exists_ofMarch n
  obtain ⟨month, k, hmonth, hk, rfl⟩ := exists_month hday
  exact ⟨year, month, k, hmonth, hk, hn⟩

theorem valid_ofDay (n : Int) : (ofDay n).Valid := by
  obtain ⟨year, month, k, hmonth, hk, rfl⟩ := exists_inMonth n
  rw [ofDay_eq_inMonth hmonth hk]
  refine ⟨?_, ?_, Nat.le_add_left 1 k, ?_⟩
  · simp only [inMonth]
    split_ifs <;> omega
  · simp only [inMonth]
    split_ifs <;> omega
  · rw [lengthOfMonth_inMonth year hmonth]
    exact hk

theorem next_inMonth_of_lt {year : Int} {month k : Nat} (h : month < 12)
    (hk : k + 1 < lengthFromMarch (isLeap (year + 1)) month) :
    (inMonth year month k).next = inMonth year month (k + 1) := by
  rw [next, lengthOfMonth_inMonth year h]
  exact if_pos hk

/-- The first of a month comes after the last of the month before it. -/
theorem next_inMonth_of_last {year : Int} {month k : Nat} (h : month < 12)
    (hk : k + 1 = lengthFromMarch (isLeap (year + 1)) month) :
    (inMonth year month k).next =
      if month < 11 then inMonth year (month + 1) 0 else inMonth (year + 1) 0 0 := by
  rw [next, lengthOfMonth_inMonth year h, ← hk]
  refine (if_neg (Nat.lt_irrefl _)).trans ?_
  simp only [inMonth]
  split_ifs <;> simp only [mk.injEq, and_true, true_and] <;> omega

/-- The next day has the next date. -/
theorem ofDay_succ (n : Int) : ofDay (n + 1) = (ofDay n).next := by
  obtain ⟨year, month, k, hmonth, hk, rfl⟩ := exists_inMonth n
  have hpos : ∀ leap, ∀ m < 12, 0 < lengthFromMarch leap m := by decide
  rw [ofDay_eq_inMonth hmonth hk]
  by_cases hin : k + 1 < lengthFromMarch (isLeap (year + 1)) month
  · rw [next_inMonth_of_lt hmonth hin, ← ofDay_eq_inMonth hmonth hin]
    congr 1
    omega
  have hlast : k + 1 = lengthFromMarch (isLeap (year + 1)) month := by omega
  have hend := monthFirst_add_length (isLeap (year + 1)) hmonth
  rw [next_inMonth_of_last hmonth hlast]
  by_cases hmore : month < 11
  · rw [if_pos hmore] at hend ⊢
    rw [← ofDay_eq_inMonth (by omega) (hpos _ _ (by omega))]
    congr 1
    omega
  · rw [if_neg hmore] at hend ⊢
    rw [← ofDay_eq_inMonth (by omega) (hpos _ _ (by omega)), marchFirst_succ, yearLength, ← hend]
    congr 1
    have hfirst : monthFirst 0 = 0 := rfl
    omega

/-! ### Dates and numbers -/

theorem before_ofDay_succ (n : Int) : (ofDay n).Before (ofDay (n + 1)) := by
  rw [ofDay_succ]
  exact before_next _

/-- Later days have later dates. -/
theorem before_ofDay (h : n < m) : (ofDay n).Before (ofDay m) := by
  obtain ⟨k, rfl⟩ : ∃ k : Nat, m = n + 1 + k := ⟨(m - (n + 1)).toNat, by omega⟩
  clear h
  induction k with
  | zero => simpa using before_ofDay_succ n
  | succ k ih =>
    rw [Int.natCast_succ, ← Int.add_assoc]
    exact ih.trans (before_ofDay_succ _)

theorem ofDay_injective : Function.Injective ofDay := by
  intro n m h
  rcases lt_trichotomy n m with hlt | heq | hgt
  · exact absurd h (before_ofDay hlt).ne
  · exact heq
  · exact absurd h.symm (before_ofDay hgt).ne

/-- Every day has its date, counted forwards and backwards from the first of January of 1970. -/
theorem numbered_ofDay (n : Int) : Numbered (ofDay (n + epochDay)) n := by
  induction n using Int.induction_on with
  | zero => exact .epoch
  | succ n ih =>
    have hnext : (n + 1 : Int) + epochDay = n + epochDay + 1 := by omega
    rw [hnext, ofDay_succ]
    exact ih.next
  | pred n ih =>
    refine .previous (valid_ofDay _) ?_
    have hnext : (-n - 1 : Int) + epochDay + 1 = -n + epochDay := by omega
    rw [← ofDay_succ, hnext, Int.sub_add_cancel]
    exact ih

/-- A date has a number just when it is the date of the day with that number. -/
theorem numbered_iff : Numbered d n ↔ d = ofDay (n + epochDay) := by
  constructor
  · intro h
    induction h with
    | epoch => rfl
    | @next d n _ ih =>
      rw [ih, ← ofDay_succ]
      congr 1
      omega
    | @previous d n hvalid _ ih =>
      have hnext : n + 1 + epochDay = n + epochDay + 1 := by omega
      rw [hnext, ofDay_succ] at ih
      exact hvalid.next_inj (valid_ofDay _) ih
  · rintro rfl
    exact numbered_ofDay n

example : Numbered ⟨2000, 2, 29⟩ 11016 := numbered_iff.mpr (by decide)

/-- The number of a date is settled by the date. -/
theorem Numbered.unique (h : Numbered d n) (h' : Numbered d m) : n = m := by
  have hsame := (numbered_iff.mp h).symm.trans (numbered_iff.mp h')
  have hnumber := ofDay_injective hsame
  omega

/-- The dates with a number are those of the calendar. -/
theorem exists_numbered_iff : (∃ n, Numbered d n) ↔ d.Valid := by
  constructor
  · rintro ⟨n, hn⟩
    rw [numbered_iff.mp hn]
    exact valid_ofDay _
  · intro h
    obtain ⟨year, month, k, hmonth, rfl⟩ :
        ∃ (year : Int) (month k : Nat), month < 12 ∧ d = inMonth year month k := by
      obtain ⟨hpos, hlast, hday, -⟩ := h
      by_cases hmarch : 3 ≤ d.month
      · refine ⟨d.year, d.month - 3, d.day - 1, by omega, ?_⟩
        simp only [inMonth, if_pos (by omega : d.month - 3 < 10)]
        rw [Nat.sub_add_cancel hmarch, Nat.sub_add_cancel hday, Int.add_zero]
      · refine ⟨d.year - 1, d.month + 9, d.day - 1, by omega, ?_⟩
        simp only [inMonth, if_neg (by omega : ¬d.month + 9 < 10)]
        rw [Nat.add_sub_cancel, Nat.sub_add_cancel hday, Int.sub_add_cancel]
    have hday := h.day_le
    rw [lengthOfMonth_inMonth year hmonth] at hday
    rw [← ofDay_eq_inMonth hmonth hday]
    exact ⟨_, numbered_iff.mpr (congrArg ofDay (Int.sub_add_cancel _ epochDay).symm)⟩

end Issuance.Date

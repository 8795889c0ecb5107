/-!
# Calendar dates

Dates of the proleptic Gregorian calendar in the years from -262143 to 262142, with the day before
and the day after a date. `previous?_next?` and `next?_previous?` say that these undo each other.
-/

namespace SolrRequest.Time

/-- A leap year of the Gregorian calendar. -/
def isLeapYear (year : Int) : Bool :=
  year % 4 == 0 && (year % 100 != 0 || year % 400 == 0)

/-- The number of days of a month, counted from January as 1. -/
def daysInMonth (year : Int) (month : Nat) : Nat :=
  if month = 2 then (if isLeapYear year then 29 else 28)
  else if month = 4 ∨ month = 6 ∨ month = 9 ∨ month = 11 then 30
  else 31

def minYear : Int := -262143

def maxYear : Int := 262142

/-- A date that exists in the calendar. -/
def IsDate (year : Int) (month day : Nat) : Prop :=
  minYear ≤ year ∧ year ≤ maxYear ∧ 1 ≤ month ∧ month ≤ 12 ∧ 1 ≤ day ∧
    day ≤ daysInMonth year month

instance (year : Int) (month day : Nat) : Decidable (IsDate year month day) := by
  unfold IsDate
  infer_instance

/-- A calendar date. -/
structure Date where
  year : Int
  month : Nat
  day : Nat
  isDate : IsDate year month day
deriving Repr, DecidableEq

namespace Date

def ofParts? (year : Int) (month day : Nat) : Option Date :=
  if h : IsDate year month day then some ⟨year, month, day, h⟩ else none

/-- The day after; there is none after the last year. -/
def next? (d : Date) : Option Date :=
  if d.day < daysInMonth d.year d.month then ofParts? d.year d.month (d.day + 1)
  else if d.month < 12 then ofParts? d.year (d.month + 1) 1
  else ofParts? (d.year + 1) 1 1

/-- The day before; there is none before the first year. -/
def previous? (d : Date) : Option Date :=
  if 1 < d.day then ofParts? d.year d.month (d.day - 1)
  else if 1 < d.month then ofParts? d.year (d.month - 1) (daysInMonth d.year (d.month - 1))
  else ofParts? (d.year - 1) 12 31

/-! ## Laws -/

theorem ofParts?_eq_some_iff {year : Int} {month day : Nat} {d : Date} :
    ofParts? year month day = some d ↔ d.year = year ∧ d.month = month ∧ d.day = day := by
  obtain ⟨y, m, k, h⟩ := d
  unfold ofParts?
  constructor
  · intro e
    split at e
    · cases e
      exact ⟨rfl, rfl, rfl⟩
    · cases e
  · rintro ⟨rfl, rfl, rfl⟩
    rw [dif_pos h]

theorem ofParts?_self (d : Date) : ofParts? d.year d.month d.day = some d :=
  ofParts?_eq_some_iff.mpr ⟨rfl, rfl, rfl⟩

theorem daysInMonth_december (year : Int) : daysInMonth year 12 = 31 := by
  simp [daysInMonth]

/-- The day before the day after is the day itself. -/
theorem previous?_next? {d e : Date} (h : d.next? = some e) : e.previous? = some d := by
  have hd := d.isDate
  unfold IsDate at hd
  unfold next? at h
  unfold previous?
  split at h
  · rename_i hday
    obtain ⟨hy, hm, hk⟩ := ofParts?_eq_some_iff.mp h
    rw [hk, if_pos (by omega), ofParts?_eq_some_iff]
    exact ⟨hy.symm, hm.symm, by omega⟩
  · rename_i hday
    split at h
    · rename_i hmonth
      obtain ⟨hy, hm, hk⟩ := ofParts?_eq_some_iff.mp h
      rw [hk, if_neg (by omega), hm, if_pos (by omega), ofParts?_eq_some_iff]
      have hsub : d.month + 1 - 1 = d.month := by omega
      rw [hy, hsub]
      exact ⟨rfl, rfl, by omega⟩
    · rename_i hmonth
      obtain ⟨hy, hm, hk⟩ := ofParts?_eq_some_iff.mp h
      have hdec : d.month = 12 := by omega
      rw [hdec, daysInMonth_december] at hday hd
      rw [hk, if_neg (by omega), hm, if_neg (by omega), ofParts?_eq_some_iff]
      exact ⟨by omega, hdec, by omega⟩

/-- The day after the day before is the day itself. -/
theorem next?_previous? {d e : Date} (h : d.previous? = some e) : e.next? = some d := by
  have hd := d.isDate
  unfold IsDate at hd
  unfold previous? at h
  unfold next?
  split at h
  · rename_i hday
    obtain ⟨hy, hm, hk⟩ := ofParts?_eq_some_iff.mp h
    rw [hy, hm, hk, if_pos (by omega), ofParts?_eq_some_iff]
    exact ⟨rfl, rfl, by omega⟩
  · rename_i hday
    split at h
    · rename_i hmonth
      obtain ⟨hy, hm, hk⟩ := ofParts?_eq_some_iff.mp h
      rw [hy, hm, hk, if_neg (by omega), if_pos (by omega), ofParts?_eq_some_iff]
      exact ⟨rfl, by omega, by omega⟩
    · rename_i hmonth
      obtain ⟨hy, hm, hk⟩ := ofParts?_eq_some_iff.mp h
      rw [hy, hm, hk, daysInMonth_december, if_neg (by omega), if_neg (by omega),
        ofParts?_eq_some_iff]
      exact ⟨by omega, by omega, by omega⟩

end Date

end SolrRequest.Time

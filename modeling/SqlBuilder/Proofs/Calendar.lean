import SqlBuilder.Proofs.Digits
import SqlBuilder.Time.Moment

/-!
# The calendar

Dates and day numbers are two forms of the same thing: the date of a number is a date of the calendar, and its number
is that number. So are clock readings and the microseconds that they stand for, as long as their dates stay within the
years that have four digits.

* `Day.yearOf_spec`, `Day.monthOf_spec`: the year and the month in which a day falls.
* `Day.ofNumber_spec`: the date of a day number.
* `Moment.InCalendar`: the microseconds that a clock can show.
* `Moment.ofWallMicros?_eq_some`: the clock reading that they stand for.
-/

namespace SqlBuilder

namespace Day

/-! ## Years -/

/-- The number of days of a year. -/
def yearLength (year : Nat) : Nat :=
  if isLeap year then 366 else 365

theorem daysBeforeYear_eq (year : Nat) : daysBeforeYear year =
    (year - 1) * 365 + (year - 1) / 4 - (year - 1) / 100 + (year - 1) / 400 :=
  rfl

theorem daysBeforeYear_succ {year : Nat} (positive : 1 ≤ year) :
    daysBeforeYear (year + 1) = daysBeforeYear year + yearLength year := by
  obtain ⟨y, rfl⟩ := Nat.exists_eq_add_of_le' positive
  have century : (y + 1) % 100 = 0 → (y + 1) % 4 = 0 := by omega
  have fourth : (y + 1) % 400 = 0 → (y + 1) % 100 = 0 := by omega
  have fewer : y / 100 ≤ y / 4 := Nat.div_le_div_left (by decide) (by decide)
  rw [daysBeforeYear_eq, daysBeforeYear_eq, yearLength, Nat.add_sub_cancel, Nat.add_sub_cancel, Nat.succ_div,
    Nat.succ_div, Nat.succ_div]
  simp only [Nat.dvd_iff_mod_eq_zero, isLeap, Bool.and_eq_true, Bool.or_eq_true, beq_iff_eq, bne_iff_ne]
  generalize y / 4 = a at *
  generalize y / 100 = b at *
  generalize y / 400 = c
  by_cases h4 : (y + 1) % 4 = 0 <;> by_cases h100 : (y + 1) % 100 = 0 <;> by_cases h400 : (y + 1) % 400 = 0 <;>
    simp [h4, h100, h400] at * <;> omega

theorem daysBeforeYear_mono {a b : Nat} (h : a ≤ b) : daysBeforeYear a ≤ daysBeforeYear b := by
  induction h with
  | refl => exact Nat.le_refl _
  | @step b _ ih =>
    refine Nat.le_trans ih ?_
    rcases Nat.eq_zero_or_pos b with rfl | positive
    · exact Nat.le_refl 0
    · rw [daysBeforeYear_succ positive]
      exact Nat.le_add_right _ _

/-- A day falls in the year that is found for it, if the search begins no later and goes far enough. -/
theorem yearOf_spec {n low : Nat} (span : Nat) (begun : daysBeforeYear low ≤ n)
    (ended : n < daysBeforeYear (low + span + 1)) :
    low ≤ yearOf n low span ∧ daysBeforeYear (yearOf n low span) ≤ n ∧
      n < daysBeforeYear (yearOf n low span + 1) := by
  induction span with
  | zero => exact ⟨Nat.le_refl _, begun, ended⟩
  | succ span ih =>
    rw [yearOf]
    split
    next reached => exact ⟨by omega, reached, ended⟩
    next early => exact ih (by omega)

/-! ## Months -/

theorem daysBeforeMonth_succ (year : Nat) {month : Nat} (positive : 1 ≤ month) :
    daysBeforeMonth year (month + 1) = daysBeforeMonth year month + monthLength year month := by
  obtain ⟨m, rfl⟩ := Nat.exists_eq_add_of_le' positive
  rfl

/-- The months of a year are all of it. -/
theorem daysBeforeMonth_end (year : Nat) : daysBeforeMonth year 13 = yearLength year := by
  unfold yearLength
  split
  next leap => simp [daysBeforeMonth, monthLength, leap]
  next plain => simp [daysBeforeMonth, monthLength, plain]

/-- A day of a year falls in the month that is found for it, if the search begins late enough. -/
theorem monthOf_spec {year n : Nat} (last : Nat) (ended : n < daysBeforeMonth year (last + 1)) :
    ∃ month, monthOf year n last = (month, n - daysBeforeMonth year month + 1) ∧ 1 ≤ month ∧ month ≤ last ∧
      daysBeforeMonth year month ≤ n ∧ n < daysBeforeMonth year (month + 1) := by
  induction last with
  | zero => exact absurd ended (Nat.not_lt_zero n)
  | succ last ih =>
    rw [monthOf]
    split
    next reached => exact ⟨last + 1, rfl, by omega, Nat.le_refl _, reached, ended⟩
    next early =>
      obtain ⟨month, found, positive, most, bounds⟩ := ih (by omega)
      exact ⟨month, found, positive, by omega, bounds⟩

/-! ## Day numbers -/

/-- A date of the calendar, of any year. -/
structure Proper (d : Day) : Prop where
  year : 1 ≤ d.year
  month : 1 ≤ d.month ∧ d.month ≤ 12
  day : 1 ≤ d.day ∧ d.day ≤ monthLength d.year d.month

/-- The year and the month of a day number, and the place of the day in them. -/
theorem ofNumber_spec (n : Nat) : (ofNumber n).Proper ∧ (ofNumber n).toNumber = n ∧
    daysBeforeYear (ofNumber n).year ≤ n ∧ n < daysBeforeYear ((ofNumber n).year + 1) := by
  -- the search begins at a year that is early enough even if all are long, and ends late enough even if all are short
  have begun : daysBeforeYear (n / 366 + 1) ≤ n := by
    rw [daysBeforeYear_eq]
    omega
  have ended : n < daysBeforeYear (n / 366 + 1 + (n / 365 + 1 - n / 366) + 1) := by
    rw [daysBeforeYear_eq]
    omega
  obtain ⟨least, after, before⟩ := yearOf_spec _ begun ended
  generalize chosen : yearOf n (n / 366 + 1) (n / 365 + 1 - n / 366) = year at least after before
  have positive : 1 ≤ year := by omega
  have within : n - daysBeforeYear year < daysBeforeMonth year (12 + 1) := by
    rw [daysBeforeYear_succ positive] at before
    rw [daysBeforeMonth_end]
    omega
  obtain ⟨month, found, first, last, reached, next_⟩ := monthOf_spec 12 within
  have date : ofNumber n = ⟨year, month, n - daysBeforeYear year - daysBeforeMonth year month + 1⟩ := by
    simp only [ofNumber, chosen, found]
  rw [daysBeforeMonth_succ _ first] at next_
  rw [date]
  refine ⟨⟨positive, ⟨first, last⟩, ?_⟩, ?_, after, before⟩
  · dsimp only
    omega
  · change daysBeforeYear year + daysBeforeMonth year month +
      (n - daysBeforeYear year - daysBeforeMonth year month + 1 - 1) = n
    omega

/-- A day before the year 10000 has a date of the calendar. -/
theorem isValid_ofNumber {n : Nat} (h : n < daysBeforeYear 10000) : (ofNumber n).isValid = true := by
  obtain ⟨proper, -, after, -⟩ := ofNumber_spec n
  have last : (ofNumber n).year ≤ 9999 := by
    by_contra late
    have reached : daysBeforeYear 10000 ≤ daysBeforeYear (ofNumber n).year := daysBeforeYear_mono (Nat.not_le.mp late)
    omega
  simp [isValid, proper.year, last, proper.month, proper.day]

end Day

namespace Moment

/-! ## Clock readings -/

/-- The microseconds since the start of year one that fall in years of at most four digits. -/
def InCalendar (t : Int) : Prop :=
  0 ≤ t ∧ t < Day.daysBeforeYear 10000 * 86400000000

instance : DecidablePred InCalendar :=
  fun _ => inferInstanceAs (Decidable (_ ∧ _))

/-- The fields of a clock reading are in their bounds. -/
structure Proper (m : Moment) : Prop where
  date : m.date.isValid = true
  hour : m.hour < 24
  minute : m.minute < 60
  second : m.second < 60
  micro : m.micro < 1000000

/-- A clock shows what it stands for, as long as this is in the calendar. -/
theorem ofWallMicros?_eq_some {t : Int} (within : InCalendar t) (offset : Option Int) :
    ∃ m, ofWallMicros? t offset = some m ∧ m.Proper ∧ m.wallMicros = t ∧ m.offset = offset ∧ m.offsetMicro = 0 := by
  obtain ⟨positive, before⟩ := within
  obtain ⟨n, rfl⟩ := Int.eq_ofNat_of_zero_le positive
  have early : n / 1000000 / 86400 < Day.daysBeforeYear 10000 := by
    have bound : Day.daysBeforeYear 10000 = 3652059 := rfl
    rw [bound] at before ⊢
    omega
  have valid := Day.isValid_ofNumber early
  have number := (Day.ofNumber_spec (n / 1000000 / 86400)).2.1
  have year : ¬(Day.ofNumber (n / 1000000 / 86400)).year > 9999 := by
    simp only [Day.isValid, Bool.and_eq_true, decide_eq_true_eq] at valid
    omega
  have shown : ofWallMicros? n offset = some {
      date := Day.ofNumber (n / 1000000 / 86400)
      hour := n / 1000000 / 3600 % 24
      minute := n / 1000000 / 60 % 60
      second := n / 1000000 % 60
      micro := n % 1000000
      offset } := by
    rw [ofWallMicros?, if_neg (by omega), Int.toNat_natCast, if_neg year]
  refine ⟨_, shown, ⟨valid, ?_, ?_, ?_, ?_⟩, ?_, rfl, rfl⟩
  · exact Nat.mod_lt _ (by decide)
  · exact Nat.mod_lt _ (by decide)
  · exact Nat.mod_lt _ (by decide)
  · exact Nat.mod_lt _ (by decide)
  · rw [wallMicros, number]
    dsimp only
    omega

end Moment

end SqlBuilder

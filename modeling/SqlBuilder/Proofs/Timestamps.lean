import SqlBuilder.Literal
import SqlBuilder.Proofs.Calendar

/-!
# Timestamps

A moment with an offset is written out as the reading of a clock in a time zone, to the millisecond. That text is read
back as the reading of a clock, and on a clock of that zone it is the instant of the moment without what is less than a
millisecond. So what is written depends on the instant only, and not on the offset that the moment came with.

* `zoneMinutes?_signed`, `zoneMinutes?_hours`: the offset that the text of a time zone names.
* `Day.text_chars`: a date is read back from its text.
* `Moment.ofText?_clockText`: a clock reading is read back from its text, without what is less than a millisecond.
* `Literal.clockReading_congr`: what is written depends on the instant only.
* `Literal.clockReading_denotes`: the instant that is written.
-/

namespace SqlBuilder

namespace Text

/-! ## Digits of a width -/

theorem padded_two {n : Nat} (fits : n < 100) : ∃ a b, (padded 2 n).toList = [a, b] ∧ a.isDigit = true ∧
    b.isDigit = true ∧ digitsValue [a, b] = n := by
  obtain ⟨a, b, chars⟩ := List.length_eq_two.mp (length_padded (show 0 < 2 by decide) fits)
  have digits : ∀ c ∈ [a, b], c.isDigit = true := fun c hc => isDigit_of_mem_padded (chars ▸ hc)
  exact ⟨a, b, chars, digits a (by simp), digits b (by simp), chars ▸ digitsValue_padded 2 n⟩

theorem padded_three {n : Nat} (fits : n < 1000) : ∃ a b c, (padded 3 n).toList = [a, b, c] ∧ a.isDigit = true ∧
    b.isDigit = true ∧ c.isDigit = true ∧ digitsValue [a, b, c] = n := by
  obtain ⟨a, b, c, chars⟩ := List.length_eq_three.mp (length_padded (show 0 < 3 by decide) fits)
  have digits : ∀ d ∈ [a, b, c], d.isDigit = true := fun d hd => isDigit_of_mem_padded (chars ▸ hd)
  exact ⟨a, b, c, chars, digits a (by simp), digits b (by simp), digits c (by simp), chars ▸ digitsValue_padded 3 n⟩

theorem padded_four {n : Nat} (fits : n < 10000) : ∃ a b c d, (padded 4 n).toList = [a, b, c, d] ∧
    (∀ e ∈ [a, b, c, d], e.isDigit = true) ∧ digitsValue [a, b, c, d] = n := by
  have length := length_padded (show 0 < 4 by decide) fits
  obtain ⟨a, rest, chars⟩ := List.exists_cons_of_length_eq_add_one length
  rw [chars, List.length_cons, Nat.add_right_cancel_iff, List.length_eq_three] at length
  obtain ⟨b, c, d, rfl⟩ := length
  exact ⟨a, b, c, d, chars, fun e he => isDigit_of_mem_padded (chars ▸ he), chars ▸ digitsValue_padded 4 n⟩

end Text

/-! ## Time zones -/

theorem Text.isDigit_of_usual {c : Char} (digit : c.isDigit = true) : Text.isDigit c = true := by
  rw [Text.isDigit, Text.digitValue?_of_isDigit digit]
  rfl

/-- The offset in minutes that a sign gives to a number of them. -/
def signedMinutes (sign : Char) (minutes : Nat) : Int :=
  if sign = '-' then -minutes else minutes

/-- A sign, hours and minutes, with or without a colon between them. -/
theorem zoneMinutes?_signed {sign : Char} (signed : sign = '+' ∨ sign = '-') {colon : String}
    (separated : colon = ":" ∨ colon = "") {hours minutes : Nat} (first : hours < 100) (second : minutes < 100) :
    zoneMinutes? (String.ofList [sign] ++ Text.padded 2 hours ++ colon ++ Text.padded 2 minutes) =
      some (signedMinutes sign (hours * 60 + minutes)) := by
  obtain ⟨a, b, charsHour, ha, hb, hour⟩ := Text.padded_two first
  obtain ⟨c, d, charsMinute, hc, hd, minute⟩ := Text.padded_two second
  have plain : c ≠ ':' := by
    rintro rfl
    cases hc
  have chars : (String.ofList [sign] ++ Text.padded 2 hours ++ colon ++ Text.padded 2 minutes).toList =
      sign :: a :: b :: (colon.toList ++ [c, d]) := by
    simp [String.toList_append, charsHour, charsMinute]
  have other : (String.ofList [sign] ++ Text.padded 2 hours ++ colon ++ Text.padded 2 minutes == "Z") = false := by
    rw [beq_eq_false_iff_ne]
    intro same
    rw [same] at chars
    cases chars
  rw [zoneMinutes?, other, chars]
  rcases signed with rfl | rfl <;> rcases separated with rfl | rfl <;>
    simp [Text.isDigit_of_usual, ha, hb, hc, hd, hour, minute, signedMinutes, plain]

/-- A sign and hours. -/
theorem zoneMinutes?_hours {sign : Char} (signed : sign = '+' ∨ sign = '-') {hours : Nat} (first : hours < 100) :
    zoneMinutes? (String.ofList [sign] ++ Text.padded 2 hours) = some (signedMinutes sign (hours * 60)) := by
  obtain ⟨a, b, charsHour, ha, hb, hour⟩ := Text.padded_two first
  have chars : (String.ofList [sign] ++ Text.padded 2 hours).toList = [sign, a, b] := by
    simp [String.toList_append, charsHour]
  have other : (String.ofList [sign] ++ Text.padded 2 hours == "Z") = false := by
    rw [beq_eq_false_iff_ne]
    intro same
    rw [same] at chars
    cases chars
  rw [zoneMinutes?, other, chars]
  rcases signed with rfl | rfl <;> simp [Text.isDigit_of_usual, ha, hb, hour, signedMinutes]

/-! ## Reading clocks -/

/-- A date of the calendar is read back from its text. -/
theorem Day.text_chars {d : Day} (valid : d.isValid = true) : ∃ a b c e f g h i,
    d.text.toList = [a, b, c, e, '-', f, g, '-', h, i] ∧ Day.ofText? d.text = some d := by
  have bounds := valid
  have short (month : Nat) : monthLength d.year month ≤ 31 := by
    unfold monthLength
    split <;> split <;> decide
  simp only [isValid, Bool.and_eq_true, decide_eq_true_eq] at bounds
  have last := short d.month
  obtain ⟨a, b, c, e, charsYear, digits, year⟩ := Text.padded_four (n := d.year) (by omega)
  obtain ⟨f, g, charsMonth, hf, hg, month⟩ := Text.padded_two (n := d.month) (by omega)
  obtain ⟨h, i, charsDay, hh, hi, day⟩ := Text.padded_two (n := d.day) (by omega)
  have chars : d.text.toList = [a, b, c, e, '-', f, g, '-', h, i] := by
    simp [text, String.toList_append, charsYear, charsMonth, charsDay]
  refine ⟨a, b, c, e, f, g, h, i, chars, ?_⟩
  rw [ofText?, chars]
  simp only [List.mem_cons, List.not_mem_nil, or_false, forall_eq_or_imp, forall_eq] at digits
  simp [digits, hf, hg, hh, hi, year, month, day, valid]

namespace Moment

/-- A clock reading without what is less than a millisecond, on a clock of unknown offset. -/
def toMillis (m : Moment) : Moment where
  date := m.date
  hour := m.hour
  minute := m.minute
  second := m.second
  micro := m.micro / 1000 * 1000

theorem field?_eq_some (bound : Nat) {a b : Char} (ha : a.isDigit = true) (hb : b.isDigit = true)
    (below : Text.digitsValue [a, b] < bound) : field? bound a b = some (Text.digitsValue [a, b]) := by
  simp [field?, ha, hb, below]

/-- A clock reading is read back from its text. -/
theorem ofText?_clockText {m : Moment} (proper : m.Proper) : ofText? m.clockText = some m.toMillis := by
  obtain ⟨valid, hour, minute, second, micro⟩ := proper
  obtain ⟨y₁, y₂, y₃, y₄, m₁, m₂, d₁, d₂, charsDate, date⟩ := Day.text_chars valid
  obtain ⟨a, b, charsHour, ha, hb, hourIs⟩ := Text.padded_two (n := m.hour) (by omega)
  obtain ⟨c, d, charsMinute, hc, hd, minuteIs⟩ := Text.padded_two (n := m.minute) (by omega)
  obtain ⟨e, f, charsSecond, he, hf, secondIs⟩ := Text.padded_two (n := m.second) (by omega)
  obtain ⟨g, h, i, charsMilli, hg, hh, hi, milliIs⟩ := Text.padded_three (n := m.micro / 1000) (by omega)
  have chars : m.clockText.toList =
      m.date.text.toList ++ [' ', a, b, ':', c, d, ':', e, f, '.', g, h, i] := by
    simp [clockText, String.toList_append, charsHour, charsMinute, charsSecond, charsMilli]
  have dateText : String.ofList [y₁, y₂, y₃, y₄, '-', m₁, m₂, '-', d₁, d₂] = m.date.text := by
    rw [← charsDate, String.ofList_toList]
  have clock : clock? [a, b, ':', c, d, ':', e, f, '.', g, h, i] =
      some ((m.hour, m.minute, m.second), ['.', g, h, i]) := by
    have hourField := field?_eq_some 24 ha hb (by omega)
    have minuteField := field?_eq_some 60 hc hd (by omega)
    have secondField := field?_eq_some 60 he hf (by omega)
    simp only [clock?, hourField, minuteField, secondField, hourIs, minuteIs, secondIs, bind, Option.bind, pure]
  have millis : fraction ['.', g, h, i] = (m.micro / 1000 * 1000, []) := by
    simp [fraction, microOf, hg, hh, hi, milliIs]
  rw [ofText?, chars, charsDate]
  simp [dateText, date, clock, millis, distanceOf?, toMillis]

@[simp] theorem clockText_toMillis (m : Moment) : m.toMillis.clockText = m.clockText := by
  rw [clockText, clockText, toMillis]
  simp only [Nat.mul_div_cancel _ (show 0 < 1000 by decide)]

theorem wallMicros_toMillis (m : Moment) : m.toMillis.wallMicros = m.wallMicros - m.wallMicros % 1000 := by
  simp only [wallMicros, toMillis]
  omega

end Moment

/-! ## Moments in a time zone -/

namespace Literal

theorem offset_of_instant {d : Moment} {t : Int} (aware : d.instant? = some t) :
    ∃ seconds, d.offset = some seconds := by
  cases known : d.offset with
  | none => simp [Moment.instant?, Moment.distance?, known] at aware
  | some seconds => exact ⟨seconds, rfl⟩

/-- What is written of a moment with an offset depends on its instant only. -/
theorem clockReading_congr (zone : String) {d e : Moment} {t : Int} (first : d.instant? = some t)
    (second : e.instant? = some t) : clockReading zone d = clockReading zone e := by
  obtain ⟨_, known⟩ := offset_of_instant first
  obtain ⟨_, knownToo⟩ := offset_of_instant second
  have universal : d.toUniversal? = e.toUniversal? := by
    rw [Moment.toUniversal?, Moment.toUniversal?, first, second]
  simp only [clockReading, known, knownToo, universal]

/-- A moment with an offset is written as the reading of a clock of the zone at its instant, to the millisecond, and
so is every other moment of that instant. -/
theorem clockReading_denotes {d : Moment} {t : Int} {zone : String} {minutes : Int} (aware : d.instant? = some t)
    (named : zoneMinutes? zone = some minutes) (universal : Moment.InCalendar t)
    (shifted : Moment.InCalendar (t + minutes * 60000000)) :
    ∃ text clock, clockReading zone d = .ok text ∧ Moment.ofText? text = some clock ∧ clock.offset = none ∧
      clock.wallMicros - minutes * 60000000 = t - t % 1000 ∧ clock.clockText = text ∧
      ∀ e : Moment, e.instant? = some t → clockReading zone e = .ok text := by
  have other : zone ≠ "local" := by
    rintro rfl
    cases named
  obtain ⟨u, inUniversal, -, ticks, offset, -⟩ := Moment.ofWallMicros?_eq_some universal (some 0)
  obtain ⟨m, inZone, proper, shownTicks, -, -⟩ := Moment.ofWallMicros?_eq_some shifted (some 0)
  have moved : u.shifted? (minutes * 60) u.offset = some m := by
    rw [Moment.shifted?, ticks, offset, ← inZone]
    congr 1
    omega
  have written : clockReading zone d = .ok m.clockText := by
    obtain ⟨seconds, known⟩ := offset_of_instant aware
    have toUniversal : d.toUniversal? = some u := by
      rw [Moment.toUniversal?, aware]
      exact inUniversal
    simp only [clockReading, known, toUniversal, if_neg other, named, Option.getD_some, Option.bind_some, moved]
  have ticking : m.toMillis.wallMicros - minutes * 60000000 = t - t % 1000 := by
    rw [Moment.wallMicros_toMillis, shownTicks]
    omega
  refine ⟨m.clockText, m.toMillis, written, Moment.ofText?_clockText proper, rfl, ticking, m.clockText_toMillis, ?_⟩
  intro e same
  rw [← written]
  exact clockReading_congr zone same aware

/-- An evening five hours behind universal time is two days later on a clock that is far enough ahead of it, and the
leap day lies between. -/
theorem clockReading_denotes_leap :
    zoneMinutes? "+23:30" = some 1410 ∧
      ∃ text clock,
        clockReading "+23:30" ⟨⟨2024, 2, 28⟩, 19, 45, 59, 999999, some (-18000), 0⟩ = .ok text ∧
          Moment.ofText? text = some clock ∧ clock.offset = none ∧
          clock.wallMicros - 1410 * 60000000 = 63844764359999999 - 63844764359999999 % 1000 ∧
          clock.clockText = text ∧
          ∀ e : Moment, e.instant? = some 63844764359999999 → clockReading "+23:30" e = .ok text := by
  have named : zoneMinutes? "+23:30" = some 1410 :=
    @zoneMinutes?_signed '+' (.inl rfl) ":" (.inl rfl) 23 30 (by decide) (by decide)
  exact ⟨named, clockReading_denotes (by decide) named (by decide) (by decide)⟩

example : (clockReading "+23:30" ⟨⟨2024, 2, 28⟩, 19, 45, 59, 999999, some (-18000), 0⟩).toOption =
    some "2024-03-01 00:15:59.999" := by
  decide +kernel

end Literal

end SqlBuilder

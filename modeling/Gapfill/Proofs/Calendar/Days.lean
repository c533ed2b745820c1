import Gapfill.Calendar

/-!
# Days are dates

The date of a day is one that there is, and counting the days up to it leads back to the day
(`toDays_ofDays`, `isValid_ofDays`).

Four hundred years are an era of 146097 days that begins on a first of March. In it there are
centuries of 36524 days, in these spans of four years with 1461 days, and in these years of 365
days. A day over is the last of a span, of the last century or of both: that is the place of a
leap day. The division by which the year is found takes out what leap days there have been.
-/

namespace Gapfill

namespace Date

/-! ## Places in an era -/

/-- A day of an era: so many centuries, spans of four years, years and days from its beginning. -/
structure Place where
  century : Nat
  span : Nat
  year : Nat
  day : Nat

namespace Place

def toNat (p : Place) : Nat := 36524 * p.century + 1461 * p.span + 365 * p.year + p.day

/-- The years of the era before the year. -/
def years (p : Place) : Nat := 100 * p.century + 4 * p.span + p.year

/-- There is such a place. A day over comes at the end of a span, and at the end of a century
only if it is the last one. -/
structure Valid (p : Place) : Prop where
  century : p.century ≤ 3
  span : p.span ≤ 24
  year : p.year ≤ 3
  day : p.day ≤ 365
  last : p.day = 365 → p.year = 3 ∧ (p.span = 24 → p.century = 3)

theorem exists_of_lt {d : Nat} (hd : d < 146097) : ∃ p : Place, p.Valid ∧ p.toNat = d := by
  have hcentury : ∃ c r, c ≤ 3 ∧ d = 36524 * c + r ∧ r ≤ 36524 ∧ (r = 36524 → c = 3) := by
    by_cases hlast : d = 146096
    · exact ⟨3, 36524, by omega⟩
    · exact ⟨d / 36524, d % 36524, by omega⟩
  obtain ⟨c, r, hc, rfl, hr, hrlast⟩ := hcentury
  have hyear : ∃ k t, k ≤ 3 ∧ r % 1461 = 365 * k + t ∧ t ≤ 365 ∧ (t = 365 → k = 3) := by
    by_cases hlast : r % 1461 = 1460
    · exact ⟨3, 365, by omega⟩
    · exact ⟨r % 1461 / 365, r % 1461 % 365, by omega⟩
  obtain ⟨k, t, hk, hmod, ht, htlast⟩ := hyear
  refine ⟨⟨c, r / 1461, k, t⟩,
    ⟨hc, by dsimp only; omega, hk, ht, fun hday => ⟨htlast hday, ?_⟩⟩, ?_⟩
  · intro hspan
    dsimp only at hspan hday
    exact hrlast (by omega)
  · dsimp only [toNat]
    omega

variable {p : Place} (hp : p.Valid)

include hp

theorem toNat_div_century : p.toNat / 36524 = p.century + p.toNat / 146096 := by
  obtain ⟨hc, hq, hk, ht, hlast⟩ := hp
  unfold toNat
  rcases Nat.lt_or_ge (1461 * p.span + 365 * p.year + p.day) 36524 with hlt | hge
  · have hzero : (36524 * p.century + 1461 * p.span + 365 * p.year + p.day) / 146096 = 0 := by omega
    omega
  · have htop : 36524 * p.century + 1461 * p.span + 365 * p.year + p.day = 146096 := by omega
    rw [htop]
    omega

/-- What is left without the leap days before it has years of 365 days. -/
theorem years_eq : (p.toNat - p.toNat / 1460 + p.toNat / 36524 - p.toNat / 146096) / 365
    = p.years := by
  have hfour : p.toNat / 1460 = 25 * p.century + p.span
      + (24 * p.century + p.span + 365 * p.year + p.day) / 1460 := by
    unfold toNat
    omega
  rw [toNat_div_century hp, hfour]
  obtain ⟨hc, hq, hk, ht, hlast⟩ := hp
  -- the day over of a span is taken for one of the next
  have hover : (24 * p.century + p.span + 365 * p.year + p.day) / 1460 = 0
      ∨ (24 * p.century + p.span + 365 * p.year + p.day) / 1460 = 1 := by omega
  unfold toNat years
  rcases hover with h | h
  · rw [h]
    omega
  · rw [h]
    omega

theorem years_lt : p.years < 400 := by
  obtain ⟨hc, hq, hk, -, -⟩ := hp
  unfold years
  omega

theorem toNat_eq : p.toNat = 365 * p.years + p.years / 4 - p.years / 100 + p.day := by
  obtain ⟨hc, hq, hk, -, -⟩ := hp
  have hfour : p.years / 4 = 25 * p.century + p.span := by
    unfold years
    omega
  have hhundred : p.years / 100 = p.century := by
    unfold years
    omega
  rw [hfour, hhundred]
  unfold toNat years
  omega

/-- The February that a leap day ends is one of a leap year. -/
theorem isLeapYear_succ (era : Int) (h : p.day = 365) :
    isLeapYear (era * 400 + p.years + 1) = true := by
  obtain ⟨hyear, hcentury⟩ := hp.last h
  obtain ⟨hc, hq, hk, -, -⟩ := hp
  simp only [isLeapYear, Bool.and_eq_true, Bool.or_eq_true, decide_eq_true_eq, bne_iff_ne]
  unfold years
  refine ⟨by omega, ?_⟩
  by_cases hspan : p.span = 24
  · have := hcentury hspan
    omega
  · omega

end Place

/-! ## Days of a year that begins in March -/

/-- The day of a year, by its number. -/
def ofDayOfYear (year : Int) (dayOfYear : Nat) : Date :=
  let month := (5 * dayOfYear + 2) / 153
  let day := dayOfYear - (153 * month + 2) / 5 + 1
  if month < 10 then ⟨year, month + 3, day⟩ else ⟨year + 1, month - 9, day⟩

theorem toDays_ofDayOfYear (year : Int) {t : Nat} (ht : t ≤ 365) :
    (ofDayOfYear year t).toDays
      = 365 * year + year / 4 - year / 100 + year / 400 + t - 719468 := by
  have hmonth : (5 * t + 2) / 153 ≤ 11 := by omega
  have hday : (153 * ((5 * t + 2) / 153) + 2) / 5 ≤ t := by omega
  rw [ofDayOfYear]
  split
  · have hback : ((5 * t + 2) / 153 + 3 + 9) % 12 = (5 * t + 2) / 153 := by omega
    rw [toDays, if_neg (by dsimp only; omega), hback]
    dsimp only
    omega
  · have hback : ((5 * t + 2) / 153 - 9 + 9) % 12 = (5 * t + 2) / 153 := by omega
    rw [toDays, if_pos (by dsimp only; omega), hback]
    dsimp only
    omega

theorem isValid_ofDayOfYear {year : Int} {t : Nat} (ht : t ≤ 365)
    (hleap : t = 365 → isLeapYear (year + 1) = true) : (ofDayOfYear year t).isValid = true := by
  have hmonth : (5 * t + 2) / 153 ≤ 11 := by omega
  simp only [isValid, Bool.and_eq_true, decide_eq_true_eq]
  rw [ofDayOfYear]
  generalize hm : (5 * t + 2) / 153 = m at hmonth ⊢
  split
  · refine ⟨⟨⟨by dsimp only; omega, by dsimp only; omega⟩, by dsimp only; omega⟩, ?_⟩
    simp only [monthLength, Bool.or_eq_true, decide_eq_true_eq]
    split
    · omega
    · split <;> omega
  · refine ⟨⟨⟨by dsimp only; omega, by dsimp only; omega⟩, by dsimp only; omega⟩, ?_⟩
    simp only [monthLength, Bool.or_eq_true, decide_eq_true_eq]
    split
    · by_cases hlast : t = 365
      · rw [if_pos (hleap hlast)]
        omega
      · split <;> omega
    · split <;> omega

/-! ## Days -/

theorem ofDays_place {p : Place} (hp : p.Valid) (era : Int) :
    ofDays (146097 * era + p.toNat - 719468) = ofDayOfYear (era * 400 + p.years) p.day := by
  have hlt : p.toNat < 146097 := by
    obtain ⟨hc, hq, hk, hday, hlast⟩ := hp
    unfold Place.toNat
    omega
  have hshift : 146097 * era + p.toNat - 719468 + 719468 = p.toNat + 146097 * era := by omega
  have hera : (p.toNat + 146097 * era) / 146097 = era := by omega
  have hday : ((p.toNat + 146097 * era) % 146097).toNat = p.toNat := by omega
  have hrest : p.toNat - (365 * p.years + p.years / 4 - p.years / 100) = p.day := by
    rw [Place.toNat_eq hp]
    omega
  rw [ofDays, hshift, hera, hday, Place.years_eq hp, hrest]
  rfl

theorem exists_place (days : Int) :
    ∃ era p, Place.Valid p ∧ days = 146097 * era + p.toNat - 719468 := by
  have hlt : ((days + 719468) % 146097).toNat < 146097 := by omega
  obtain ⟨p, hp, hday⟩ := Place.exists_of_lt hlt
  exact ⟨(days + 719468) / 146097, p, hp, by omega⟩

/-- The days up to the date of a day are those to the day. -/
theorem toDays_ofDays (days : Int) : (ofDays days).toDays = days := by
  obtain ⟨era, p, hp, rfl⟩ := exists_place days
  have hyears := Place.years_lt hp
  rw [ofDays_place hp, toDays_ofDayOfYear _ hp.day, Place.toNat_eq hp]
  omega

theorem isValid_ofDays (days : Int) : (ofDays days).isValid = true := by
  obtain ⟨era, p, hp, rfl⟩ := exists_place days
  rw [ofDays_place hp]
  exact isValid_ofDayOfYear hp.day (Place.isLeapYear_succ hp era)

/-- Months and days have at most two digits. -/
theorem lt_hundred_of_isValid {date : Date} (h : date.isValid = true) :
    date.month < 100 ∧ date.day < 100 := by
  simp only [isValid, Bool.and_eq_true, decide_eq_true_eq] at h
  obtain ⟨⟨⟨-, hmonth⟩, -⟩, hday⟩ := h
  have hlength : monthLength date.year date.month ≤ 31 := by
    unfold monthLength
    split
    · split <;> decide
    · split <;> decide
  omega

end Date

end Gapfill

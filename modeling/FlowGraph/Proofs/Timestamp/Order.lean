import FlowGraph.Proofs.Number.Numeral
import FlowGraph.Proofs.Timestamp.Text
import Mathlib.Data.String.Basic

/-! # The order of timestamps and of their texts

The texts of timestamps are compared character by character. Every number in them has a place of
fixed width and stands before the smaller ones, so up to the seconds the texts are in the order of
the times. The fractions have no fixed width, but the mark of the offset behind them comes before the
point and before all digits; so a fraction that ends early counts as if zeros followed.

* `append_lt_append` is the comparison of two runs of digits with anything behind them.
* `Date.before_ofDays`: later days have later dates.
* `offsetText_lt_offsetText` is the law, for timestamps of the years that have four digits. -/

namespace FlowGraph

namespace Timestamp

/-! ### Order -/

/-- **One timestamp before another.** -/
def Before (s t : Timestamp) : Prop :=
  s.seconds < t.seconds ∨ s.seconds = t.seconds ∧ s.nanos < t.nanos

instance (s t : Timestamp) : Decidable (s.Before t) := inferInstanceAs (Decidable (_ ∨ _))

section

variable {s t : Timestamp}

theorem Before.asymm (h : s.Before t) : ¬ t.Before s := by
  unfold Before at h ⊢
  omega

/-- Of two timestamps one comes first. -/
theorem before_trichotomy (s t : Timestamp) : s.Before t ∨ s = t ∨ t.Before s := by
  obtain ⟨seconds, nanos⟩ := s
  obtain ⟨seconds', nanos'⟩ := t
  simp only [Before, Timestamp.mk.injEq]
  omega

end

/-! ### Digits -/

section

open Decimal

variable {cs ds r r' : List Char} {c d : Char}

theorem lt_of_toNat_lt (h : c.toNat < d.toNat) : c < d := h

/-- Of two numbers with equally many digits the first digit that differs decides. -/
theorem lt_or_eq_of_ofDigits_cons_lt (hc : c.isDigit) (hds : ∀ x ∈ d :: ds, x.isDigit)
    (hlength : cs.length = ds.length) (h : ofDigits (c :: cs) < ofDigits (d :: ds)) :
    c < d ∨ c = d ∧ ofDigits cs < ofDigits ds := by
  have hcvalue := digitValue_of_isDigit hc
  have hdvalue := digitValue_of_isDigit (hds d List.mem_cons_self)
  have hbound : ofDigits ds < 10 ^ ds.length :=
    ofDigits_lt fun x hx => hds x (List.mem_cons_of_mem _ hx)
  rw [ofDigits_cons, ofDigits_cons, hlength] at h
  generalize 10 ^ ds.length = power at h hbound
  rcases Nat.lt_trichotomy (digitValue c) (digitValue d) with hlt | heq | hgt
  · exact Or.inl (lt_of_toNat_lt (by omega))
  · refine Or.inr ⟨Char.toNat_inj.mp (by omega), ?_⟩
    rw [heq] at h
    omega
  · have hmore : power * (digitValue d + 1) ≤ power * digitValue c := Nat.mul_le_mul_left _ hgt
    rw [Nat.mul_add, Nat.mul_one] at hmore
    omega

/-- **Digits are ordered as their numbers**, once zeros make them equally many. Where the first run
ends early, what follows has to come before all digits. -/
theorem append_lt_append {m n : Nat} (hcs : ∀ c ∈ cs, c.isDigit) (hds : ∀ d ∈ ds, d.isDigit)
    (hlength : cs.length + m = ds.length + n)
    (hlt : ofDigits (cs ++ List.replicate m '0') < ofDigits (ds ++ List.replicate n '0'))
    (hr : n < m → ∀ c ∈ r.head?, c < '0') : cs ++ r < ds ++ r' := by
  induction cs generalizing ds with
  | nil =>
    cases ds with
    | nil => simp at hlt
    | cons d ds =>
      have hd := toNat_of_isDigit (hds d List.mem_cons_self)
      have hshort : n < m := by
        simp only [List.length_nil, List.length_cons] at hlength
        omega
      cases r with
      | nil => exact List.nil_lt_cons _ _
      | cons c r =>
        have hc : c.toNat < '0'.toNat := hr hshort c rfl
        have hzero : '0'.toNat = 48 := rfl
        exact List.cons_lt_cons_iff.mpr (Or.inl (lt_of_toNat_lt (by omega)))
  | cons c cs ih =>
    cases ds with
    | nil => simp at hlt
    | cons d ds =>
      have hfilled : ∀ x ∈ d :: (ds ++ List.replicate n '0'), x.isDigit := by
        intro x hx
        rw [← List.cons_append] at hx
        rcases List.mem_append.mp hx with hx | hx
        · exact hds x hx
        · rw [List.eq_of_mem_replicate hx]
          rfl
      simp only [List.length_cons] at hlength
      rw [List.cons_append, List.cons_append] at hlt ⊢
      rcases lt_or_eq_of_ofDigits_cons_lt (hcs c List.mem_cons_self) hfilled
        (by simp only [List.length_append, List.length_replicate]; omega) hlt with h | ⟨rfl, h⟩
      · exact List.cons_lt_cons_iff.mpr (Or.inl h)
      · refine List.cons_lt_cons_iff.mpr (Or.inr ⟨rfl, ?_⟩)
        exact ih (fun x hx => hcs x (List.mem_cons_of_mem _ hx))
          (fun x hx => hds x (List.mem_cons_of_mem _ hx)) (by omega) h

/-- **A number in a place of fixed width**: it decides, or what follows it does. -/
theorem padded_lt_padded {width m n : Nat} (hwidth : 0 < width) (hm : m < 10 ^ width)
    (hn : n < 10 ^ width) (h : m < n ∨ m = n ∧ r < r') :
    padded width m ++ r < padded width n ++ r' := by
  rcases h with h | ⟨rfl, h⟩
  · refine append_lt_append (m := 0) (n := 0) (fun _ => isDigit_of_mem_padded)
      (fun _ => isDigit_of_mem_padded) ?_ ?_ (fun h => absurd h (Nat.lt_irrefl 0))
    · rw [length_padded hwidth hm, length_padded hwidth hn]
    · simpa [ofDigits_padded] using h
  · exact List.append_left_lt h

theorem cons_lt_cons_self (c : Char) (h : r < r') : c :: r < c :: r' :=
  List.cons_lt_cons_iff.mpr (Or.inr ⟨rfl, h⟩)

end

/-! ### Dates -/

/-- **One date before another.** -/
def Date.Before (d d' : Date) : Prop :=
  d.year < d'.year ∨ d.year = d'.year ∧ (d.month < d'.month ∨ d.month = d'.month ∧ d.day < d'.day)

section

variable {dayOfEra yearOfEra dayOfYear dayOfEra' yearOfEra' dayOfYear' : Int}

/-- A year is over before the next one begins. -/
theorem IsDay.lt (h : IsDay dayOfEra yearOfEra dayOfYear) (hyear : yearOfEra' ≤ 400)
    (hlt : yearOfEra < yearOfEra') :
    dayOfEra < 365 * yearOfEra' + yearOfEra' / 4 - yearOfEra' / 100 + yearOfEra' / 400 := by
  obtain ⟨hfirst, hday, hleap, rfl⟩ := h
  rw [isLeapYear_iff] at hleap
  obtain ⟨next, hnext⟩ : ∃ next, next = yearOfEra + 1 := ⟨_, rfl⟩
  have hover : 365 * yearOfEra + yearOfEra / 4 - yearOfEra / 100 + dayOfYear <
      365 * next + next / 4 - next / 100 + next / 400 := by
    by_cases h365 : dayOfYear = 365
    · obtain ⟨hfour, hcentury⟩ := hleap h365
      omega
    · omega
  have hfour : next / 4 ≤ yearOfEra' / 4 := Int.ediv_le_ediv (by decide) (by omega)
  have hera : next / 400 ≤ yearOfEra' / 400 := Int.ediv_le_ediv (by decide) (by omega)
  have hcentury : yearOfEra' / 100 ≤ next / 100 + (yearOfEra' - next) := by omega
  omega

/-- Later days are days of later years, or later days of the same year. -/
theorem IsDay.before (h : IsDay dayOfEra yearOfEra dayOfYear)
    (h' : IsDay dayOfEra' yearOfEra' dayOfYear') {era era' : Int}
    (hlt : era * daysPerEra + dayOfEra < era' * daysPerEra + dayOfEra') :
    yearOfEra + era * 400 < yearOfEra' + era' * 400 ∨
      yearOfEra + era * 400 = yearOfEra' + era' * 400 ∧ dayOfYear < dayOfYear' := by
  unfold daysPerEra at hlt
  have hyear := h.year
  have hyear' := h'.year
  have hlow := h.day
  have heq := h.eq
  have heq' := h'.eq
  -- no day comes after the end of its era, nor after the end of its year
  have hera : dayOfEra' < 146097 := h'.lt (Int.le_refl 400) hyear'.2
  have hsooner : yearOfEra' < yearOfEra →
      dayOfEra' < 365 * yearOfEra + yearOfEra / 4 - yearOfEra / 100 + yearOfEra / 400 :=
    fun hless => h'.lt (by omega) hless
  rcases Int.lt_trichotomy era era' with hless | rfl | hmore
  · left
    omega
  · rcases Int.lt_trichotomy yearOfEra yearOfEra' with hless | rfl | hmore
    · left
      omega
    · right
      omega
    · have hbefore := hsooner hmore
      omega
  · omega

/-- In a year that begins in March later days have later dates, and so have later years. -/
theorem Date.before_ofDayOfYear {year year' : Int} (hday : 0 ≤ dayOfYear ∧ dayOfYear ≤ 365)
    (hday' : 0 ≤ dayOfYear' ∧ dayOfYear' ≤ 365)
    (h : year < year' ∨ year = year' ∧ dayOfYear < dayOfYear') :
    (ofDayOfYear year dayOfYear).Before (ofDayOfYear year' dayOfYear') := by
  unfold ofDayOfYear Before
  simp only
  obtain ⟨month, hmonth⟩ : ∃ month, month = (5 * dayOfYear + 2) / 153 := ⟨_, rfl⟩
  obtain ⟨month', hmonth'⟩ : ∃ month, month = (5 * dayOfYear' + 2) / 153 := ⟨_, rfl⟩
  obtain ⟨day, hd⟩ : ∃ day, day = dayOfYear - (153 * month + 2) / 5 + 1 := ⟨_, rfl⟩
  obtain ⟨day', hd'⟩ : ∃ day, day = dayOfYear' - (153 * month' + 2) / 5 + 1 := ⟨_, rfl⟩
  -- months are counted on from year to year, which brings January to the right place
  have hrange : 0 ≤ month ∧ month ≤ 11 ∧ 1 ≤ day := by omega
  have hrange' : 0 ≤ month' ∧ month' ≤ 11 ∧ 1 ≤ day' := by omega
  have hlater : 12 * year + month < 12 * year' + month' ∨
      12 * year + month = 12 * year' + month' ∧ day < day' := by
    rcases h with h | ⟨rfl, h⟩
    · left
      omega
    · have hle : month ≤ month' := by omega
      rcases Int.lt_or_eq_of_le hle with hless | rfl
      · left
        omega
      · right
        omega
  rw [← hmonth, ← hmonth', ← hd, ← hd']
  clear hmonth hmonth' hd hd' hday hday' h
  split_ifs <;> omega

/-- **Later days have later dates.** -/
theorem Date.before_ofDays {days days' : Int} (h : days < days') :
    (ofDays days).Before (ofDays days') := by
  obtain ⟨era, dayOfEra, yearOfEra, dayOfYear, hday, rfl⟩ := exists_era days
  obtain ⟨era', dayOfEra', yearOfEra', dayOfYear', hday', rfl⟩ := exists_era days'
  rw [ofDays_eq hday, ofDays_eq hday']
  exact before_ofDayOfYear hday.day hday'.day (hday.before hday' (by omega))

end

/-! ### Texts -/

section

variable {r r' : List Char}

/-- **Later dates have later texts**, whatever follows them. -/
theorem dateDigits_lt_dateDigits {days days' : Int} (hplain : (Date.ofDays days).IsPlain)
    (hplain' : (Date.ofDays days').IsPlain) (h : days < days' ∨ days = days' ∧ r < r') :
    dateDigits (Date.ofDays days) ++ r < dateDigits (Date.ofDays days') ++ r' := by
  rcases h with h | ⟨rfl, h⟩
  · have hbefore := Date.before_ofDays h
    have hm := Date.month_ofDays days
    have hm' := Date.month_ofDays days'
    have hd := Date.day_ofDays days
    have hd' := Date.day_ofDays days'
    have hmax := daysInMonth_le (Date.ofDays days).year (Date.ofDays days).month
    have hmax' := daysInMonth_le (Date.ofDays days').year (Date.ofDays days').month
    obtain ⟨hlow, hhigh⟩ := hplain
    obtain ⟨hlow', hhigh'⟩ := hplain'
    unfold Date.Before at hbefore
    unfold dateDigits yearDigits
    rw [if_pos ⟨hlow, hhigh⟩, if_pos ⟨hlow', hhigh'⟩]
    simp only [List.append_assoc, List.cons_append]
    refine padded_lt_padded (by decide) (by omega) (by omega) ?_
    rcases hbefore with hyear | ⟨hyear, hmonth⟩
    · left
      omega
    · refine Or.inr ⟨by rw [hyear], cons_lt_cons_self _ ?_⟩
      refine padded_lt_padded (by decide) (by omega) (by omega) ?_
      rcases hmonth with hmonth | ⟨hmonth, hday⟩
      · exact Or.inl hmonth
      · refine Or.inr ⟨hmonth, cons_lt_cons_self _ ?_⟩
        exact padded_lt_padded (by decide) (by omega) (by omega) (Or.inl hday)
  · exact List.append_left_lt h

/-- **Later times of day have later texts**: hours, minutes, seconds and what follows them. -/
theorem clockDigits_lt_clockDigits {second second' leap leap' : Nat} (hs : second < 86400)
    (hs' : second' < 86400) (hleap : leap = 0 ∨ leap = 1 ∧ second % 60 = 59)
    (hleap' : leap' = 0 ∨ leap' = 1 ∧ second' % 60 = 59)
    (h : second < second' ∨ second = second' ∧ (leap < leap' ∨ leap = leap' ∧ r < r')) :
    clockDigits second leap ++ r < clockDigits second' leap' ++ r' := by
  unfold clockDigits
  simp only [List.append_assoc, List.cons_append]
  refine padded_lt_padded (by decide) (by omega) (by omega) ?_
  by_cases hhour : second / 3600 = second' / 3600
  · refine Or.inr ⟨hhour, cons_lt_cons_self _ ?_⟩
    refine padded_lt_padded (by decide) (by omega) (by omega) ?_
    by_cases hminute : second / 60 % 60 = second' / 60 % 60
    · refine Or.inr ⟨hminute, cons_lt_cons_self _ ?_⟩
      refine padded_lt_padded (by decide) (by omega) (by omega) ?_
      rcases h with h | ⟨rfl, h | ⟨rfl, h⟩⟩
      · left
        omega
      · left
        omega
      · exact Or.inr ⟨rfl, h⟩
    · left
      omega
  · left
    omega

/-- The digits of a fraction that is not zero, and the count of zeros that would fill them up. -/
theorem exists_fractionDigits {nanos : Nat} (hpos : 0 < nanos) (hn : nanos < 1000000000) :
    ∃ ds m, fractionDigits nanos = '.' :: ds ∧ (∀ d ∈ ds, d.isDigit) ∧ ds.length + m = 9 ∧
      Decimal.ofDigits (ds ++ List.replicate m '0') = nanos := by
  have hfill : ∀ width n m, 0 < width → n < 10 ^ width → width + m = 9 → n * 10 ^ m = nanos →
      (∀ d ∈ padded width n, d.isDigit) ∧ (padded width n).length + m = 9 ∧
        Decimal.ofDigits (padded width n ++ List.replicate m '0') = nanos := by
    intro width n m hwidth hn hm hvalue
    refine ⟨fun _ => isDigit_of_mem_padded, by rw [length_padded hwidth hn, hm], ?_⟩
    rw [Decimal.ofDigits_append, ofDigits_padded, Decimal.ofDigits_zeros, List.length_replicate,
      Nat.add_zero, Nat.mul_comm, hvalue]
  have hne : nanos ≠ 0 := by omega
  unfold fractionDigits
  rw [if_neg hne]
  split_ifs with hmillis hmicros
  · exact ⟨_, 6, rfl, hfill 3 _ 6 (by decide) (by omega) rfl (by omega)⟩
  · exact ⟨_, 3, rfl, hfill 6 _ 3 (by decide) (by omega) rfl (by omega)⟩
  · exact ⟨_, 0, rfl, hfill 9 _ 0 (by decide) (by omega) rfl (by omega)⟩

/-- **Later fractions have later texts**, although they have no fixed width: the mark of the offset
comes before the point and before all digits. -/
theorem fractionDigits_lt_fractionDigits {nanos nanos' : Nat} (hn' : nanos' < 1000000000)
    (h : nanos < nanos') :
    fractionDigits nanos ++ '+' :: r < fractionDigits nanos' ++ r' := by
  obtain ⟨ds', m', hdigits', hds', hlength', hvalue'⟩ :=
    exists_fractionDigits (Nat.zero_lt_of_lt h) hn'
  rw [hdigits', List.cons_append]
  by_cases hzero : nanos = 0
  · have hnone : fractionDigits nanos = [] := if_pos hzero
    rw [hnone, List.nil_append]
    exact List.cons_lt_cons_iff.mpr (Or.inl (by decide))
  · obtain ⟨ds, m, hdigits, hds, hlength, hvalue⟩ :=
      exists_fractionDigits (Nat.pos_of_ne_zero hzero) (Nat.lt_trans h hn')
    rw [hdigits, List.cons_append]
    refine cons_lt_cons_self _ (append_lt_append (m := m) (n := m') hds hds' ?_ ?_ ?_)
    · exact hlength.trans hlength'.symm
    · rw [hvalue, hvalue']
      exact h
    · rintro - c ⟨⟩
      decide

end

section

variable {s t : Timestamp}

theorem offsetText_lt (hs : s.IsPlain) (ht : t.IsPlain) (h : s.Before t) :
    s.offsetText < t.offsetText := by
  have hsn := hs.nanos
  have htn := ht.nanos
  have hsd := secondOfDay_lt s
  have htd := secondOfDay_lt t
  have hday : ∀ u : Timestamp, u.seconds = u.seconds.fdiv 86400 * 86400 + u.secondOfDay := by
    intro u
    unfold secondOfDay
    rw [Int.fdiv_eq_ediv_of_nonneg _ (by decide), Int.fmod_eq_emod_of_nonneg _ (by decide)]
    omega
  have hsday := hday s
  have htday := hday t
  unfold Before at h
  rw [String.lt_iff_toList_lt]
  simp only [offsetText, localDigits, String.toList_ofList, List.append_assoc, List.cons_append]
  refine dateDigits_lt_dateDigits hs.date ht.date ?_
  by_cases hdays : s.seconds.fdiv 86400 < t.seconds.fdiv 86400
  · exact Or.inl hdays
  · have hsame : s.seconds.fdiv 86400 = t.seconds.fdiv 86400 := by omega
    refine Or.inr ⟨hsame, cons_lt_cons_self _ ?_⟩
    refine clockDigits_lt_clockDigits hsd htd (by omega) (by omega) ?_
    rcases h with h | ⟨heq, hnanos⟩
    · left
      omega
    · refine Or.inr ⟨by omega, ?_⟩
      by_cases hleap : s.nanos / 1000000000 < t.nanos / 1000000000
      · exact Or.inl hleap
      · refine Or.inr ⟨by omega, ?_⟩
        exact fractionDigits_lt_fractionDigits (by omega) (by omega)

/-- **The order of texts is that of times**, in the years 0 to 9999. -/
theorem offsetText_lt_offsetText (hs : s.IsPlain) (ht : t.IsPlain) :
    s.offsetText < t.offsetText ↔ s.Before t := by
  refine ⟨fun hlt => ?_, offsetText_lt hs ht⟩
  rcases before_trichotomy s t with h | rfl | h
  · exact h
  · exact absurd hlt (lt_irrefl _)
  · exact absurd hlt (lt_asymm (offsetText_lt ht hs h))

end

end Timestamp

end FlowGraph

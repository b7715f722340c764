import FlowGraph.Proofs.Timestamp.Calendar
import Mathlib.Algebra.Group.Nat.Defs

/-! # Timestamps as text

The text of a timestamp is a row of numbers with marks between them. Reading goes through it from the
left, and each step takes what was written for it and leaves the rest.

* `number_padded` is the step for a number, `fraction_fractionDigits` the one for a fraction;
  `Form.Reads` is what is asked of a form for the other parts.
* `Strict.reads` and `Lenient.reads`: both forms read what is written, but the strict one only the
  years of four digits (`Date.IsPlain`).
* `parseAs_localDigits` puts the steps together, for all timestamps that a clock can show (`IsValid`)
  and any mark of a zero offset; `parse_text` and `parseStrict_offsetText` are its two cases. -/

namespace FlowGraph

namespace Timestamp

/-- **A timestamp that a clock can show**: the calendar has its day, and only the last second of a
minute may be a long one. -/
structure IsValid (t : Timestamp) : Prop where
  onCalendar : t.isOnCalendar
  nanos : t.nanos < 1000000000 ∨ (t.nanos < 2000000000 ∧ t.seconds % 60 = 59)

/-- Whether a date is written with four digits for its year. -/
def Date.IsPlain (d : Date) : Prop := 0 ≤ d.year ∧ d.year ≤ 9999

instance (d : Date) : Decidable d.IsPlain := inferInstanceAs (Decidable (_ ∧ _))

/-- **A timestamp of the years 0 to 9999** that a clock can show. -/
structure IsPlain (t : Timestamp) : Prop extends t.IsValid where
  date : t.date.IsPlain

/-! ### Numbers -/

theorem isBlank_of_isDigit {c : Char} (h : c.isDigit) : Text.isBlank c = false := by
  have hrange : 48 ≤ c.toNat ∧ c.toNat ≤ 57 := by
    simpa [Char.isDigit, UInt32.le_iff_toNat_le] using h
  simp [Text.isBlank]
  omega

theorem skipBlanks_cons {c : Char} (h : Text.isBlank c = false) (cs : List Char) :
    skipBlanks (c :: cs) = c :: cs := by
  simp [skipBlanks, h]

/-- A number that the fields of a timestamp have room for. -/
theorem lt_numberLimit {n : Nat} (h : n < 1000000000) : n < numberLimit :=
  Nat.lt_trans h (by decide)

section

variable {width n : Nat}

theorem isDigit_of_mem_padded {c : Char} (h : c ∈ padded width n) : c.isDigit := by
  rcases List.mem_append.mp h with h | h
  · rw [List.eq_of_mem_replicate h]
    rfl
  · exact Nat.isDigit_of_mem_toDigits (by decide) (by decide) h

theorem length_padded (hwidth : 0 < width) (hn : n < 10 ^ width) :
    (padded width n).length = width := by
  have hle := (Nat.length_toDigits_le_iff (by decide) hwidth).mpr hn
  simp [padded]
  omega

theorem ofDigits_padded : Decimal.ofDigits (padded width n) = n := by
  have hzeros : Nat.ofDigitChars 10 (List.replicate (width - (Nat.toDigits 10 n).length) '0') 0 = 0 := by
    rw [Nat.ofDigitChars_replicate_zero, Nat.mul_zero]
  change Nat.ofDigitChars 10 (_ ++ _) 0 = n
  rw [Nat.ofDigitChars_append, hzeros, Nat.ofDigitChars_ten_toDigits]

theorem exists_padded (width n : Nat) : ∃ c cs, padded width n = c :: cs ∧ c.isDigit := by
  have hne : padded width n ≠ [] := by simp [padded, Nat.toDigits_ne_nil]
  obtain ⟨c, cs, heq⟩ := List.exists_cons_of_ne_nil hne
  exact ⟨c, cs, heq, isDigit_of_mem_padded (heq ▸ List.mem_cons_self)⟩

theorem skipBlanks_padded (width n : Nat) (rest : List Char) :
    skipBlanks (padded width n ++ rest) = padded width n ++ rest := by
  obtain ⟨c, cs, heq, hc⟩ := exists_padded width n
  rw [heq, List.cons_append, skipBlanks_cons (isBlank_of_isDigit hc)]

/-- **A number is read back** if there is room for its digits, and no more digits or no room for them
behind it. -/
theorem number_padded {room : Nat} {rest : List Char} (hn : n < numberLimit)
    (hroom : (padded width n).length ≤ room)
    (hend : (padded width n).length = room ∨ ∀ c ∈ rest.head?, c.isDigit = false) :
    number room (padded width n ++ rest) = .ok (n, rest) := by
  have hstop : (rest.take (room - (padded width n).length)).takeWhile Char.isDigit = [] := by
    cases hmore : room - (padded width n).length with
    | zero => rfl
    | succ k =>
      have hne : (padded width n).length ≠ room := by omega
      cases rest with
      | nil => rfl
      | cons c cs => simp [hend.resolve_left hne c rfl]
  have hread : ((padded width n ++ rest).take room).takeWhile Char.isDigit = padded width n := by
    rw [List.take_append, List.take_of_length_le hroom,
      List.takeWhile_append_of_pos fun _ => isDigit_of_mem_padded, hstop, List.append_nil]
  obtain ⟨c, cs, heq, -⟩ := exists_padded width n
  unfold number
  simp only [hread, ofDigits_padded, hn, List.drop_left]
  rw [heq]
  rfl

end

/-! ### The parts of a text -/

/-- **A fraction is read back**, with however many digits it is written. -/
theorem fraction_fractionDigits {nanos : Nat} (hn : nanos < 1000000000) {rest : List Char}
    (hrest : ∀ c ∈ rest.head?, c ≠ '.' ∧ c.isDigit = false) :
    fraction (fractionDigits nanos ++ rest) = .ok (nanos, rest) := by
  have hend : rest.dropWhile Char.isDigit = rest := by
    cases rest with
    | nil => rfl
    | cons c cs => simp [(hrest c rfl).2]
  have hdigits : ∀ width n, 0 < width → width ≤ 9 → n < 10 ^ width → n < 1000000000 →
      n * Nat.pow 10 (9 - width) = nanos →
        fraction ('.' :: padded width n ++ rest) = .ok (nanos, rest) := by
    intro width n hwidth h9 hpow hn hvalue
    have hlength : (padded width n).length = width := length_padded hwidth hpow
    have hread : number 9 (padded width n ++ rest) = .ok (n, rest) :=
      number_padded (lt_numberLimit hn) (Nat.le_trans (Nat.le_of_eq hlength) h9)
        (Or.inr fun c hc => (hrest c hc).2)
    have hcount : (padded width n ++ rest).length - rest.length = width := by
      rw [List.length_append, hlength, Nat.add_sub_cancel]
    simp only [fraction, List.cons_append, hread, bind, Except.bind, hcount, hend, hvalue]
  unfold fractionDigits
  split_ifs with hzero hmillis hmicros
  · cases rest with
    | nil => rw [hzero]; rfl
    | cons c cs =>
      have hpoint := (hrest c rfl).1
      rw [hzero, List.nil_append]
      unfold fraction
      split
      · next heq => exact absurd (List.cons.inj heq).1 hpoint
      · rfl
  · exact hdigits 3 _ (by decide) (by decide) (by omega) (by omega)
      (Nat.div_mul_cancel (Nat.dvd_of_mod_eq_zero hmillis))
  · exact hdigits 6 _ (by decide) (by decide) (by omega) (by omega)
      (Nat.div_mul_cancel (Nat.dvd_of_mod_eq_zero hmicros))
  · exact hdigits 9 _ (by decide) (by decide) hn hn (Nat.mul_one nanos)

/-- **A form reads the parts that are written**: the years of a range up to the mark behind them,
numbers of two digits, and marks. -/
structure Form.Reads (form : Form) (years : Int → Prop) : Prop where
  year : ∀ {year : Int}, years year → ∀ rest,
    form.year (yearDigits year ++ '-' :: rest) = .ok (year, '-' :: rest)
  field : ∀ (low high : Nat) {n : Nat}, low ≤ n ∧ n ≤ high → n < 100 → ∀ rest,
    form.field low high (padded 2 n ++ rest) = .ok (n, rest)
  mark : ∀ {c : Char}, Text.isBlank c = false → ∀ rest, form.mark c (c :: rest) = .ok rest

theorem Strict.number_padded {width n : Nat} (hwidth : 0 < width) (hn : n < 10 ^ width)
    (rest : List Char) : Strict.number width (padded width n ++ rest) = .ok (n, rest) := by
  have hlength : (padded width n).length = width := length_padded hwidth hn
  have htake : (padded width n ++ rest).take width = padded width n := List.take_left' hlength
  have hdrop : (padded width n ++ rest).drop width = rest := List.drop_left' hlength
  have hdigits : (padded width n).all Char.isDigit :=
    List.all_eq_true.mpr fun _ => isDigit_of_mem_padded
  unfold Strict.number
  simp only [htake, hdrop, hlength, hdigits, and_self, if_true, ofDigits_padded]

/-- **The strict form** reads years of four digits. -/
theorem Strict.reads : form.Reads fun year => 0 ≤ year ∧ year ≤ 9999 where
  year := by
    intro year hplain rest
    have hyear : (year.toNat : Int) = year := Int.toNat_of_nonneg hplain.1
    have hread : Strict.number 4 (padded 4 year.toNat ++ '-' :: rest) =
        .ok (year.toNat, '-' :: rest) := Strict.number_padded (by decide) (by omega) _
    change Strict.year _ = _
    unfold Strict.year yearDigits
    rw [if_pos hplain, hread]
    simp only [bind, Except.bind, hyear]
  field := by
    intro low high n h hn rest
    change Strict.field low high _ = _
    unfold Strict.field
    rw [Strict.number_padded (by decide) hn]
    exact if_pos h
  mark := by
    intro c _ rest
    exact if_pos rfl

/-- **The lenient form** reads all years of the calendar. Only a year with a sign may have more than
four digits. -/
theorem Lenient.reads : form.Reads fun year => firstYear ≤ year ∧ year ≤ lastYear where
  year := by
    rintro year ⟨hfirst, hlast⟩ rest
    unfold firstYear at hfirst
    unfold lastYear at hlast
    have hmark : ∀ c ∈ ('-' :: rest).head?, c.isDigit = false := by
      rintro c ⟨⟩
      rfl
    have hsigned : ∀ n < 1000000, number (padded 4 n ++ '-' :: rest).length
        (padded 4 n ++ '-' :: rest) = .ok (n, '-' :: rest) := fun n hn =>
      number_padded (lt_numberLimit (by omega)) (by simp) (Or.inr hmark)
    change Lenient.year _ = _
    unfold yearDigits Lenient.year
    split_ifs with hplain hnegative
    · have hyear : (year.toNat : Int) = year := Int.toNat_of_nonneg hplain.1
      have hlength : (padded 4 year.toNat).length = 4 := length_padded (by decide) (by omega)
      have hread : number 4 (padded 4 year.toNat ++ '-' :: rest) = .ok (year.toNat, '-' :: rest) :=
        number_padded (lt_numberLimit (by omega)) (Nat.le_of_eq hlength) (Or.inl hlength)
      rw [skipBlanks_padded]
      -- the first digit is no sign
      obtain ⟨c, cs, heq, hc⟩ := exists_padded 4 year.toNat
      rw [heq, List.cons_append] at hread ⊢
      split
      · next hsign => cases hsign; cases hc
      · next hsign => cases hsign; cases hc
      · rw [hread, ← hyear]
        rfl
    · have hyear : -(year.natAbs : Int) = year := by omega
      have hbound : year.natAbs ≤ Nat.pow 2 31 := Nat.le_trans (m := 1000000) (by omega) (by decide)
      rw [List.cons_append, skipBlanks_cons (by decide)]
      simp only [hsigned year.natAbs (by omega), bind, Except.bind, hbound, if_true, hyear]
    · have hyear : (year.natAbs : Int) = year := by omega
      have hbound : year.natAbs < Nat.pow 2 31 := Nat.lt_trans (m := 1000000) (by omega) (by decide)
      rw [List.cons_append, skipBlanks_cons (by decide)]
      simp only [hsigned year.natAbs (by omega), bind, Except.bind, hbound, if_true, hyear]
  field := by
    intro low high n h hn rest
    have hlength : (padded 2 n).length = 2 := length_padded (by decide) hn
    change Lenient.field low high _ = _
    unfold Lenient.field
    rw [skipBlanks_padded, number_padded (lt_numberLimit (by omega)) (Nat.le_of_eq hlength)
      (Or.inl hlength)]
    exact if_pos h
  mark := by
    intro c hblank rest
    change Strict.mark c (skipBlanks (c :: rest)) = _
    rw [skipBlanks_cons hblank]
    exact if_pos rfl

/-! ### The whole text -/

section

variable {t : Timestamp}

theorem secondOfDay_lt (t : Timestamp) : t.secondOfDay < 86400 := by
  have hlt := Int.fmod_lt_of_pos t.seconds (show 0 < 86400 by decide)
  unfold secondOfDay
  omega

theorem date_isValid (h : t.IsValid) : t.date.isValid := by
  have hcalendar := h.onCalendar
  simp only [isOnCalendar, Bool.and_eq_true, decide_eq_true_eq] at hcalendar
  exact Date.isValid_ofDays hcalendar.1 hcalendar.2

/-- A timestamp is made up of its date and the numbers on its clock, where a leap second shows as the
60th of its minute. -/
theorem eq_of_clock (h : t.IsValid) :
    let second := t.secondOfDay % 60 + t.nanos / 1000000000
    (⟨t.date.toDays * 86400 + (t.secondOfDay / 3600 * 3600 + t.secondOfDay / 60 % 60 * 60 +
        (second - second / 60) : Nat) - 0,
      t.nanos % 1000000000 + second / 60 * 1000000000⟩ : Timestamp) = t := by
  intro second
  have hdays : t.date.toDays = t.seconds / 86400 := by
    rw [← Int.fdiv_eq_ediv_of_nonneg _ (by decide)]
    exact Date.toDays_ofDays _
  have hsecond : (t.secondOfDay : Int) = t.seconds % 86400 := by
    unfold secondOfDay
    rw [Int.fmod_eq_emod_of_nonneg _ (by decide)]
    omega
  have hnanos := h.nanos
  have hsecond' : second = t.secondOfDay % 60 + t.nanos / 1000000000 := rfl
  have hleap : second / 60 = t.nanos / 1000000000 := by omega
  have hwhole : t.date.toDays * 86400 + ((t.secondOfDay / 3600 * 3600 +
      t.secondOfDay / 60 % 60 * 60 + (second - second / 60) : Nat) : Int) - 0 = t.seconds := by
    omega
  have hrest : t.nanos % 1000000000 + second / 60 * 1000000000 = t.nanos := by omega
  rw [hwhole, hrest]

theorem ofParts_clock (h : t.IsValid) :
    ofParts t.date (t.secondOfDay / 3600) (t.secondOfDay / 60 % 60)
      (t.secondOfDay % 60 + t.nanos / 1000000000) (t.nanos % 1000000000) 0 = .ok t := by
  have hmade := eq_of_clock h
  simp only at hmade
  unfold ofParts
  simp only [hmade]
  simp [date_isValid h, h.onCalendar]

/-- **A timestamp is read back from its date and time** and any mark of a zero offset. -/
theorem parseAs_localDigits {form : Form} {years : Int → Prop} (hform : form.Reads years)
    (h : t.IsValid) (hyears : years t.date.year) {zone : List Char}
    (hzone : form.offset zone = .ok (0, []))
    (hend : ∀ c ∈ zone.head?, c ≠ '.' ∧ c.isDigit = false) :
    parseAs form (String.ofList (t.localDigits ++ zone)) = .ok t := by
  have hdate : t.date.isValid := date_isValid h
  have hbounds := hdate
  simp only [Date.isValid, Bool.and_eq_true, decide_eq_true_eq] at hbounds
  obtain ⟨⟨⟨⟨-, hm1⟩, hm12⟩, hd1⟩, hd⟩ := hbounds
  have hd31 := Nat.le_trans hd (daysInMonth_le _ _)
  have hclock := secondOfDay_lt t
  have hnanos := h.nanos
  -- the steps of reading, in the order of the text
  have hyear := hform.year hyears
  have hdash := hform.mark (c := '-') (by decide)
  have hmonth := hform.field 1 12 ⟨hm1, hm12⟩ (by omega)
  have hday := hform.field 1 31 ⟨hd1, hd31⟩ (by omega)
  have hmiddle : ∀ rest, dateEnd ('T' :: rest) = .ok rest := fun _ => rfl
  have hhour : ∀ rest, form.field 0 23 (padded 2 (t.secondOfDay / 3600) ++ rest) =
      .ok (t.secondOfDay / 3600, rest) := hform.field 0 23 (by omega) (by omega)
  have hcolon := hform.mark (c := ':') (by decide)
  have hminute : ∀ rest, form.field 0 59 (padded 2 (t.secondOfDay / 60 % 60) ++ rest) =
      .ok (t.secondOfDay / 60 % 60, rest) := hform.field 0 59 (by omega) (by omega)
  have hsecond : ∀ rest,
      form.field 0 60 (padded 2 (t.secondOfDay % 60 + t.nanos / 1000000000) ++ rest) =
        .ok (t.secondOfDay % 60 + t.nanos / 1000000000, rest) :=
    hform.field 0 60 (by omega) (by omega)
  have hfraction : fraction (fractionDigits (t.nanos % 1000000000) ++ zone) =
      .ok (t.nanos % 1000000000, zone) := fraction_fractionDigits (by omega) hend
  have hparts : (⟨t.date.year, t.date.month, t.date.day⟩ : Date) = t.date := rfl
  unfold localDigits dateDigits clockDigits parseAs
  simp only [String.toList_ofList, List.append_assoc, List.cons_append, hyear, hdash, hmonth, hday,
    hmiddle, hhour, hcolon, hminute, hsecond, hfraction, hzone, hparts, bind, Except.bind]
  exact ofParts_clock h

theorem parse_text (h : t.IsValid) : parse t.text = .ok t := by
  have hdate := date_isValid h
  simp only [Date.isValid, Bool.and_eq_true, decide_eq_true_eq] at hdate
  exact parseAs_localDigits Lenient.reads h hdate.1.1.1.1 rfl (by rintro c ⟨⟩; decide)

theorem parseStrict_offsetText (h : t.IsPlain) : parseStrict t.offsetText = .ok t :=
  parseAs_localDigits Strict.reads h.toIsValid h.date rfl (by rintro c ⟨⟩; decide)

end

end Timestamp

end FlowGraph

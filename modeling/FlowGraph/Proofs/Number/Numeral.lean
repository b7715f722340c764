import FlowGraph.Json.Reader
import FlowGraph.Proofs.Number.Nearest
import FlowGraph.Proofs.Text
import FlowGraph.Proofs.Timestamp.Text

/-! # Numerals

The text of a number is a numeral: a sign, digits before and after a point, an exponent. A numeral
is laid out by its parts (`Parts.chars`), and every text that a number is written as is the layout of
parts with digits in all their places (`Parts.IsWritten`).

* `toString_eq_chars` and `exponentText_eq_chars` give the parts of integers and of doubles.
* `parse?_unsigned` and `isSome_parseDouble?_chars` say that such a text is read as a decimal.
* `isNaN_of_parseDouble?`: of all texts only the spellings of `nan` are read as no number. -/

namespace FlowGraph

/-! ### Digits -/

namespace Decimal

variable {c : Char} {cs ds : List Char}

theorem toNat_of_isDigit (h : c.isDigit) : 48 ≤ c.toNat ∧ c.toNat ≤ 57 := by
  simpa [Char.isDigit, UInt32.le_iff_toNat_le] using h

theorem digitValue_of_isDigit (h : c.isDigit) : c.toNat = 48 + digitValue c := by
  have hrange := toNat_of_isDigit h
  have hzero : '0'.toNat = 48 := rfl
  unfold digitValue
  omega

theorem ofDigits_append (cs ds : List Char) :
    ofDigits (cs ++ ds) = 10 ^ ds.length * ofDigits cs + ofDigits ds := by
  change Nat.ofDigitChars 10 (cs ++ ds) 0 = _
  rw [Nat.ofDigitChars_append, Nat.ofDigitChars_eq_ofDigitChars_zero]
  rfl

theorem ofDigits_cons (c : Char) (cs : List Char) :
    ofDigits (c :: cs) = 10 ^ cs.length * digitValue c + ofDigits cs := by
  have hone : ofDigits [c] = digitValue c := Nat.zero_add _
  rw [← List.singleton_append, ofDigits_append, hone]

theorem ofDigits_lt (h : ∀ c ∈ cs, c.isDigit) : ofDigits cs < 10 ^ cs.length := by
  induction cs with
  | nil => decide
  | cons c cs ih =>
    have hrest := ih fun d hd => h d (List.mem_cons_of_mem _ hd)
    have hrange := toNat_of_isDigit (h c List.mem_cons_self)
    have hvalue := digitValue_of_isDigit (h c List.mem_cons_self)
    have hmore : 10 ^ cs.length * digitValue c ≤ 10 ^ cs.length * 9 :=
      Nat.mul_le_mul_left _ (by omega)
    rw [ofDigits_cons, List.length_cons, Nat.pow_succ]
    omega

@[simp] theorem ofDigits_zeros (n : Nat) : ofDigits (List.replicate n '0') = 0 := by
  change Nat.ofDigitChars 10 _ 0 = 0
  rw [Nat.ofDigitChars_replicate_zero, Nat.mul_zero]

@[simp] theorem ofDigits_toDigits (n : Nat) : ofDigits (Nat.toDigits 10 n) = n :=
  Nat.ofDigitChars_ten_toDigits

end Decimal

/-- A run of digits. -/
structure IsDigits (cs : List Char) : Prop where
  ne_nil : cs ≠ []
  isDigit : ∀ c ∈ cs, c.isDigit

namespace IsDigits

variable {cs ds : List Char}

theorem toDigits (n : Nat) : IsDigits (Nat.toDigits 10 n) where
  ne_nil := Nat.toDigits_ne_nil
  isDigit _ h := Nat.isDigit_of_mem_toDigits (by decide) (by decide) h

theorem append_zeros (h : IsDigits cs) (n : Nat) : IsDigits (cs ++ Double.zeros n) where
  ne_nil := by simp [h.ne_nil]
  isDigit c hc := by
    rcases List.mem_append.mp hc with hc | hc
    · exact h.isDigit c hc
    · rw [List.eq_of_mem_replicate hc]
      rfl

theorem zeros_append (h : IsDigits cs) (n : Nat) : IsDigits (Double.zeros n ++ cs) where
  ne_nil := by simp [h.ne_nil]
  isDigit c hc := by
    rcases List.mem_append.mp hc with hc | hc
    · rw [List.eq_of_mem_replicate hc]
      rfl
    · exact h.isDigit c hc

theorem take (h : IsDigits cs) {n : Nat} (hn : 0 < n) : IsDigits (cs.take n) where
  ne_nil := by simp [h.ne_nil, Nat.ne_of_gt hn]
  isDigit c hc := h.isDigit c (List.mem_of_mem_take hc)

theorem drop (h : IsDigits cs) {n : Nat} (hn : n < cs.length) : IsDigits (cs.drop n) where
  ne_nil := by simpa using hn
  isDigit c hc := h.isDigit c (List.mem_of_mem_drop hc)

/-- Digits are read up to what is no digit. -/
theorem readDigits_append (h : ∀ c ∈ cs, c.isDigit) {rest : List Char}
    (hrest : ∀ c ∈ rest.head?, c.isDigit = false) :
    Decimal.readDigits (cs ++ rest) = (cs, rest) := by
  have htake : rest.takeWhile Char.isDigit = [] ∧ rest.dropWhile Char.isDigit = rest := by
    cases rest with
    | nil => exact ⟨rfl, rfl⟩
    | cons c rest => simp [hrest c rfl]
  unfold Decimal.readDigits
  rw [List.takeWhile_append_of_pos h, List.dropWhile_append_of_pos h, htake.1, htake.2,
    List.append_nil]

end IsDigits

namespace Json.Numeral.Parts

/-! ### Layout -/

/-- A point and the digits after it. -/
def fractionChars : Option (List Char) → List Char
  | none => []
  | some ds => '.' :: ds

/-- The mark, the sign and the digits of an exponent. -/
def exponentChars : Option (Bool × List Char) → List Char
  | none => []
  | some (small, ds) => 'e' :: (if small then '-' else '+') :: ds

/-- A numeral without its sign. -/
def unsigned (p : Parts) : List Char :=
  p.whole ++ (fractionChars p.fraction ++ exponentChars p.exponent)

/-- A numeral. -/
def chars (p : Parts) : List Char := (if p.negative then ['-'] else []) ++ p.unsigned

/-- **Parts that can be written**: there are digits in all places. -/
structure IsWritten (p : Parts) : Prop where
  whole : IsDigits p.whole
  fraction : ∀ ds ∈ p.fraction, IsDigits ds
  exponent : ∀ x ∈ p.exponent, IsDigits x.2

variable {p : Parts}

theorem fractionChars_head (fraction : Option (List Char)) {rest : List Char}
    (hrest : ∀ c ∈ rest.head?, c.isDigit = false) :
    ∀ c ∈ (fractionChars fraction ++ rest).head?, c.isDigit = false := by
  cases fraction with
  | none => exact hrest
  | some ds =>
    rintro c ⟨⟩
    rfl

theorem exponentChars_head (exponent : Option (Bool × List Char)) {rest : List Char}
    (hrest : ∀ c ∈ rest.head?, c.isDigit = false) :
    ∀ c ∈ (exponentChars exponent ++ rest).head?, c.isDigit = false := by
  cases exponent with
  | none => exact hrest
  | some x =>
    rintro c ⟨⟩
    rfl

theorem IsWritten.exists_unsigned (h : p.IsWritten) :
    ∃ c cs, p.unsigned = c :: cs ∧ c.isDigit := by
  obtain ⟨c, cs, heq⟩ := List.exists_cons_of_ne_nil h.whole.ne_nil
  refine ⟨c, cs ++ (fractionChars p.fraction ++ exponentChars p.exponent), ?_, ?_⟩
  · rw [unsigned, heq, List.cons_append]
  · exact h.whole.isDigit c (heq ▸ List.mem_cons_self)

/-- A numeral has digits and few other characters. -/
theorem isDigit_or_mem_of_mem_chars (h : p.IsWritten) {c : Char} (hc : c ∈ p.chars) :
    c.isDigit ∨ c ∈ ['.', 'e', '-', '+'] := by
  have hfraction : c ∈ fractionChars p.fraction → c.isDigit ∨ c = '.' := by
    intro hc
    cases hf : p.fraction with
    | none => simp [hf, fractionChars] at hc
    | some ds =>
      rw [hf] at hc
      rcases List.mem_cons.mp hc with rfl | hc
      · exact Or.inr rfl
      · exact Or.inl ((h.fraction ds hf).isDigit c hc)
  have hexponent : c ∈ exponentChars p.exponent → c.isDigit ∨ c ∈ ['e', '-', '+'] := by
    intro hc
    cases he : p.exponent with
    | none => simp [he, exponentChars] at hc
    | some x =>
      obtain ⟨small, ds⟩ := x
      rw [he] at hc
      rcases List.mem_cons.mp hc with rfl | hc
      · exact Or.inr (by decide)
      · rcases List.mem_cons.mp hc with rfl | hc
        · cases small <;> exact Or.inr (by decide)
        · exact Or.inl ((h.exponent (small, ds) he).isDigit c hc)
  rcases List.mem_append.mp hc with hc | hc
  · cases hn : p.negative <;> simp [hn] at hc
    exact Or.inr (by simp [hc])
  · rcases List.mem_append.mp hc with hc | hc
    · exact Or.inl (h.whole.isDigit c hc)
    · rcases List.mem_append.mp hc with hc | hc
      · exact (hfraction hc).imp_right fun heq => by simp [heq]
      · exact (hexponent hc).imp_right (List.mem_cons_of_mem _)

theorem isBlank_of_mem_chars (h : p.IsWritten) {c : Char} (hc : c ∈ p.chars) :
    Text.isBlank c = false := by
  rcases isDigit_or_mem_of_mem_chars h hc with hdigit | hother
  · exact Timestamp.isBlank_of_isDigit hdigit
  · simp only [List.mem_cons, List.not_mem_nil, or_false] at hother
    rcases hother with rfl | rfl | rfl | rfl <;> rfl

/-! ### The parts of a number -/

/-- The parts of an integer. -/
def ofInt (n : Int) : Parts := ⟨n < 0, Nat.toDigits 10 n.natAbs, none, none⟩

theorem isWritten_ofInt (n : Int) : (ofInt n).IsWritten where
  whole := IsDigits.toDigits _
  fraction := by simp [ofInt]
  exponent := by simp [ofInt]

theorem toString_eq_chars (n : Int) : toString n = String.ofList (ofInt n).chars := by
  cases n with
  | ofNat m =>
    have hsign : ¬ (Int.ofNat m < 0) := by
      rw [Int.ofNat_eq_natCast]
      omega
    unfold chars ofInt
    rw [decide_eq_false hsign]
    simp only [unsigned, fractionChars, exponentChars, List.append_nil]
    rfl
  | negSucc m =>
    have hminus : "-" = String.ofList ['-'] := rfl
    unfold chars ofInt
    rw [decide_eq_true (Int.negSucc_lt_zero m)]
    simp only [unsigned, fractionChars, exponentChars, List.append_nil, if_true]
    rw [String.ofList_append, ← hminus]
    rfl

/-- The parts of `n * 10 ^ e` with an exponent where the number is very large or small. -/
def ofDecimal (negative : Bool) (n : Nat) (e : Int) : Parts :=
  let digits := Nat.toDigits 10 n
  let lead : Int := digits.length - 1 + e
  if Double.isPlainExponent lead then
    if 0 ≤ e then ⟨negative, digits ++ Double.zeros e.toNat, some ['0'], none⟩
    else if 0 ≤ lead then
      ⟨negative, digits.take (lead + 1).toNat, some (digits.drop (lead + 1).toNat), none⟩
    else ⟨negative, ['0'], some (Double.zeros (-(lead + 1)).toNat ++ digits), none⟩
  else
    ⟨negative, digits.take 1, if digits.length = 1 then none else some (digits.drop 1),
      some (lead < 0, Nat.toDigits 10 lead.natAbs)⟩

theorem isWritten_ofDecimal (negative : Bool) (n : Nat) (e : Int) :
    (ofDecimal negative n e).IsWritten := by
  have hdigits := IsDigits.toDigits n
  have hpos := List.length_pos_iff.mpr hdigits.ne_nil
  have hzero : IsDigits ['0'] := ⟨by simp, by simp⟩
  unfold ofDecimal
  simp only
  generalize Nat.toDigits 10 n = digits at hdigits hpos
  split_ifs with hplain he hlead hone
  · exact ⟨hdigits.append_zeros _, by simpa using hzero, by simp⟩
  · have hfraction : IsDigits (digits.drop ((digits.length : Int) - 1 + e + 1).toNat) :=
      hdigits.drop (by omega)
    exact ⟨hdigits.take (by omega), by simpa using hfraction, by simp⟩
  · have hfraction := hdigits.zeros_append (-((digits.length : Int) - 1 + e + 1)).toNat
    exact ⟨hzero, by simpa using hfraction, by simp⟩
  · exact ⟨hdigits.take (by decide), by simp, by simpa using IsDigits.toDigits _⟩
  · have hfraction : IsDigits (digits.drop 1) := hdigits.drop (by omega)
    exact ⟨hdigits.take (by decide), by simpa using hfraction, by simpa using IsDigits.toDigits _⟩

/-- The parts of a finite double. -/
def ofDouble (d : Double) : Parts :=
  if d.isZero then ⟨d.isNegative, ['0'], some ['0'], none⟩
  else ofDecimal d.isNegative (Shortest.decimal d).1 (Shortest.decimal d).2

theorem isWritten_ofDouble (d : Double) : (ofDouble d).IsWritten := by
  have hzero : IsDigits ['0'] := ⟨by simp, by simp⟩
  unfold ofDouble
  split_ifs
  · exact ⟨hzero, by simpa using hzero, by simp⟩
  · exact isWritten_ofDecimal ..

theorem unsigned_ofDecimal (negative : Bool) (n : Nat) (e : Int) :
    (ofDecimal negative n e).unsigned =
      let digits := Nat.toDigits 10 n
      let lead : Int := digits.length - 1 + e
      if Double.isPlainExponent lead then
        Double.plainDigits n e ++ (if 0 ≤ e then ['.', '0'] else [])
      else match digits with
        | [] => []
        | [c] => c :: Double.exponentDigits lead
        | c :: rest => c :: '.' :: rest ++ Double.exponentDigits lead := by
  have hne : Nat.toDigits 10 n ≠ [] := Nat.toDigits_ne_nil
  have hmark : ∀ lead : Int, exponentChars (some (lead < 0, Nat.toDigits 10 lead.natAbs)) =
      Double.exponentDigits lead := by
    intro lead
    simp [exponentChars, Double.exponentDigits]
  unfold ofDecimal Double.plainDigits
  simp only
  generalize Nat.toDigits 10 n = digits at hne
  split_ifs with hplain he hlead hlead' hlead' hone
  · simp [unsigned, fractionChars, exponentChars]
  · have hsame : (digits.length : Int) - 1 + e + 1 = digits.length + e := by omega
    simp [unsigned, fractionChars, exponentChars, hsame]
  · omega
  · omega
  · have hsame : -((digits.length : Int) - 1 + e + 1) = -(digits.length + e) := by omega
    simp [unsigned, fractionChars, exponentChars, hsame]
  · obtain ⟨c, rfl⟩ := List.length_eq_one_iff.mp hone
    simp [unsigned, fractionChars, hmark]
  · match digits, hne, hone with
    | [c], _, hone => exact absurd rfl hone
    | c :: d :: rest, _, _ => simp [unsigned, fractionChars, hmark]

theorem exponentText_eq_chars (d : Double) : d.exponentText = String.ofList (ofDouble d).chars := by
  unfold Double.exponentText ofDouble
  have hsign : d.signText = if d.isNegative then ['-'] else [] := rfl
  split_ifs with hzero
  · simp [chars, unsigned, fractionChars, exponentChars, hsign]
  · obtain ⟨n, e⟩ := Shortest.decimal d
    have hnegative : (ofDecimal d.isNegative n e).negative = d.isNegative := by
      unfold ofDecimal
      simp only
      split_ifs <;> rfl
    have hchars : (ofDecimal d.isNegative n e).chars =
        (if d.isNegative then ['-'] else []) ++ (ofDecimal d.isNegative n e).unsigned := by
      rw [chars, hnegative]
    exact congrArg String.ofList
      (hchars.trans (congrArg (_ ++ ·) (unsigned_ofDecimal d.isNegative n e))).symm

/-! ### Reading -/

theorem readExponent?_exponentChars {exponent : Option (Bool × List Char)}
    (h : ∀ x ∈ exponent, IsDigits x.2) :
    ∃ e, Decimal.readExponent? (exponentChars exponent) = some e := by
  cases exponent with
  | none => exact ⟨0, rfl⟩
  | some x =>
    obtain ⟨small, ds⟩ := x
    obtain ⟨hne, hdigit⟩ := h (small, ds) rfl
    have hsign : Decimal.readSign ((if small then '-' else '+') :: ds) = (small, ds) := by
      cases small <;> rfl
    have hall : ds.all Char.isDigit = true := List.all_eq_true.mpr hdigit
    exact ⟨_, by
      simp only [exponentChars, Decimal.readExponent?, hsign, true_or, if_true, hall]
      simp [hne]; rfl⟩

/-- **A numeral is read as a decimal.** -/
theorem parse?_unsigned (h : p.IsWritten) : ∃ d, Decimal.parse? p.unsigned = some d := by
  obtain ⟨e, he⟩ := readExponent?_exponentChars h.exponent
  have hexponent : ∀ c ∈ (exponentChars p.exponent).head?, c.isDigit = false := by
    have hnone : ∀ c ∈ ([] : List Char).head?, c.isDigit = false := by simp
    simpa using exponentChars_head p.exponent hnone
  have hwhole := IsDigits.readDigits_append h.whole.isDigit
    (fractionChars_head p.fraction hexponent)
  have hfraction : Decimal.readFraction (fractionChars p.fraction ++ exponentChars p.exponent) =
      (p.fraction.getD [], exponentChars p.exponent) := by
    cases hf : p.fraction with
    | none =>
      cases p.exponent <;> rfl
    | some ds =>
      exact IsDigits.readDigits_append (h.fraction ds hf).isDigit hexponent
  unfold Decimal.parse? unsigned
  simp only [hwhole, hfraction, he]
  simp [h.whole.ne_nil]

theorem readSign_chars (h : p.IsWritten) : Decimal.readSign p.chars = (p.negative, p.unsigned) := by
  obtain ⟨c, cs, heq, hc⟩ := h.exists_unsigned
  unfold chars
  rw [heq]
  cases p.negative with
  | true => rfl
  | false =>
    change Decimal.readSign (c :: cs) = _
    unfold Decimal.readSign
    split
    · next hsign => cases hsign; cases hc
    · next hsign => cases hsign; cases hc
    · rfl

theorem trim_chars (h : p.IsWritten) :
    Text.trim (String.ofList p.chars) = String.ofList p.chars := by
  unfold Text.trim
  rw [String.toList_ofList, Text.trimChars_eq_self]
  · exact fun c hc => isBlank_of_mem_chars h (List.mem_of_head? hc)
  · exact fun c hc => isBlank_of_mem_chars h (List.mem_of_getLast? hc)

/-- The text of a number is a numeric text. -/
theorem isSome_parseDouble?_chars (h : p.IsWritten) :
    (Decimal.parseDouble? (Text.trim (String.ofList p.chars))).isSome := by
  obtain ⟨d, hd⟩ := parse?_unsigned h
  rw [trim_chars h]
  unfold Decimal.parseDouble?
  rw [String.toList_ofList, readSign_chars h]
  simp only [hd]
  split_ifs <;> rfl

end Json.Numeral.Parts

/-! ### Texts that are no numerals -/

namespace Decimal

/-- Nothing that starts like a word or a container is a numeric text. -/
theorem parseDouble?_cons {c : Char} (cs : List Char) (hdigit : c.isDigit = false)
    (hmark : c ≠ '.' ∧ c ≠ '-' ∧ c ≠ '+') (hletter : c.toLower ≠ 'i' ∧ c.toLower ≠ 'n') :
    parseDouble? (String.ofList (c :: cs)) = none := by
  have hsign : readSign (c :: cs) = (false, c :: cs) := by
    unfold readSign
    split
    · next h => exact absurd (List.cons.inj h).1 hmark.2.1
    · next h => exact absurd (List.cons.inj h).1 hmark.2.2
    · rfl
  have hword : ∀ d ds, c.toLower ≠ d → String.ofList ((c :: cs).map Char.toLower) ≠
      String.ofList (d :: ds) := by
    intro d ds hne heq
    exact hne (List.cons.inj (String.ofList_injective heq)).1
  have hparse : parse? (c :: cs) = none := by
    have hfraction : readFraction (c :: cs) = ([], c :: cs) := by
      unfold readFraction
      split
      · next h => exact absurd (List.cons.inj h).1 hmark.1
      · rfl
    unfold parse? readDigits
    simp [hdigit, hfraction]
  unfold parseDouble?
  rw [String.toList_ofList, hsign]
  simp only [hparse]
  rw [if_neg, if_neg]
  · rfl
  · exact hword 'n' ['a', 'n'] hletter.2
  · exact not_or.mpr ⟨hword 'i' ['n', 'f'] hletter.1,
      hword 'i' ['n', 'f', 'i', 'n', 'i', 't', 'y'] hletter.1⟩

/-- Whether a text spells the double that is no number: `nan` in any letter case, perhaps with a
sign. -/
def spellsNaN (text : String) : Bool :=
  String.ofList ((readSign text.toList).2.map Char.toLower) = "nan"

theorem isNaN_toDouble (negative : Bool) (d : Decimal) : (toDouble negative d).isNaN = false := by
  have hmagnitude : ∀ m < 2 ^ 63, m ≤ Double.infinityMagnitude →
      (Double.ofMagnitude negative m).isNaN = false := by
    intro m hm hle
    unfold Double.isNaN
    rw [Double.magnitude_ofMagnitude hm]
    simpa using hle
  unfold toDouble
  split_ifs
  · exact hmagnitude _ (by decide) (by decide)
  · exact hmagnitude _ (by decide) (by decide)
  · exact hmagnitude _ (by decide) (by decide)
  · split <;> exact Double.isNaN_ofRatio ..

/-- **Only the spellings of `nan`** are read as no number. -/
theorem isNaN_of_parseDouble? {text : String} {x : Double} (h : parseDouble? text = some x) :
    x.isNaN = spellsNaN text := by
  have hnames : "inf" ≠ "nan" ∧ "infinity" ≠ "nan" := by decide
  unfold parseDouble? at h
  unfold spellsNaN
  simp only at h
  split_ifs at h with hinf hnan
  · cases h
    have hother : String.ofList ((readSign text.toList).2.map Char.toLower) ≠ "nan" := by
      rcases hinf with hinf | hinf <;> rw [hinf]
      · exact hnames.1
      · exact hnames.2
    rw [decide_eq_false hother]
    cases (readSign text.toList).1 <;> decide
  · cases h
    rw [decide_eq_true hnan]
    decide
  · obtain ⟨d, -, rfl⟩ := Option.map_eq_some_iff.mp h
    rw [decide_eq_false hnan]
    exact isNaN_toDouble _ d

theorem isSome_of_spellsNaN {text : String} (h : spellsNaN text) : (parseDouble? text).isSome := by
  unfold spellsNaN at h
  unfold parseDouble?
  simp only
  rw [of_decide_eq_true h]
  rfl

end Decimal

end FlowGraph

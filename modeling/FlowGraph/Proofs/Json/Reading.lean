import FlowGraph.Proofs.Json.Numeral
import FlowGraph.Proofs.Json.Value
import FlowGraph.Proofs.Text

/-! # Written values are read

What is written without blanks is read again, part by part: each part is found at the front of the
text, and what follows it is left. The reader goes 127 containers deep, and it is the depth of a
value (`Json.depth`) that decides whether it is read.

* `Reader.quotedText_quote` is the part of a string, with its escapes.
* `Reader.Finds` says that something is found at the front of a text, and when it can be read;
  `finds_arr` and `finds_obj` are the steps from the parts of a container to the container.
* `IsValue.exists_parse_compact`: the text of a value is read as a value exactly if it is not too deep.
  A double may come back as one of its neighbours, so it need not be the same value. -/

namespace FlowGraph.Json

/-! ### Depth -/

mutual

/-- How deep containers are nested in a value. -/
def depth : Json → Nat
  | .arr items => itemsDepth items + 1
  | .obj fields => fieldsDepth fields + 1
  | _ => 0

/-- The depth of the deepest item. -/
def itemsDepth : List Json → Nat
  | [] => 0
  | j :: rest => max (depth j) (itemsDepth rest)

/-- The depth of the deepest field. -/
def fieldsDepth : List (String × Json) → Nat
  | [] => 0
  | (_, j) :: rest => max (depth j) (fieldsDepth rest)

end

namespace Reader

variable {rest : List Char}

/-! ### Strings -/

theorem hexDigit?_hexDigit (n : Nat) : hexDigit? (hexDigit n) = some (n % 16) := by
  have hall : ∀ k < 16, hexDigit? ((Nat.toDigits 16 k).headD '0') = some k := by decide
  exact hall _ (Nat.mod_lt n (by decide))

theorem hexUnit?_control {n : Nat} (hn : n < 32) (rest : List Char) :
    hexUnit? ('0' :: '0' :: hexDigit (n / 16) :: hexDigit n :: rest) = some (n, rest) := by
  have hzero : hexDigit? '0' = some 0 := by decide
  have hvalue : ((0 * 16 + 0) * 16 + n / 16 % 16) * 16 + n % 16 = n := by omega
  simp only [hexUnit?, hzero, hexDigit?_hexDigit, bind, Option.bind, hvalue]

theorem unitChar_control {n : Nat} (hn : n < 32) (rest : List Char) :
    unitChar n rest = (some (Char.ofNat n), rest) := by
  unfold unitChar
  rw [if_neg (by omega), if_neg (by omega)]

/-- **A character is read back**, escaped or not. -/
theorem chars_escapeChar (fuel : Nat) (read : List Char) (c : Char) (rest : List Char) :
    chars (fuel + 1) (some read) (escapeChar c ++ rest) = chars fuel (some (c :: read)) rest := by
  have hself : Char.ofNat c.toNat = c := Char.ofNat_toNat c
  unfold escapeChar
  split_ifs with hquote hslash hcontrol hn hr ht hb hf
  · subst hquote
    rfl
  · subst hslash
    rfl
  · subst hn
    rfl
  · subst hr
    rfl
  · subst ht
    rfl
  · rw [hb] at hself
    subst hself
    rfl
  · rw [hf] at hself
    subst hself
    rfl
  · have hfound :
        escape? ('u' :: '0' :: '0' :: hexDigit (c.toNat / 16) :: hexDigit c.toNat :: rest) =
          some (some c, rest) := by
      simp only [escape?, if_true, hexUnit?_control hcontrol, Option.map_some,
        unitChar_control hcontrol, hself]
    have hmark : ¬ '\\' = '"' := by decide
    simp only [List.cons_append, List.nil_append, chars, hmark, if_false, if_true, hfound, bind,
      Option.bind]
  · simp only [List.singleton_append, chars, hquote, hslash, hcontrol, if_false, Option.map_some]

theorem chars_flatMap (s read rest : List Char) {fuel : Nat} (hfuel : s.length < fuel) :
    chars fuel (some read) (s.flatMap escapeChar ++ '"' :: rest) =
      some (some (read.reverse ++ s), rest) := by
  induction s generalizing read fuel with
  | nil =>
    obtain ⟨fuel, rfl⟩ : ∃ k, fuel = k + 1 := ⟨fuel - 1, by omega⟩
    simp [chars]
  | cons c s ih =>
    rw [List.length_cons] at hfuel
    obtain ⟨fuel, rfl⟩ : ∃ k, fuel = k + 1 := ⟨fuel - 1, by omega⟩
    rw [List.flatMap_cons, List.append_assoc, chars_escapeChar, ih _ (by omega)]
    simp

theorem length_le_flatMap (s : List Char) : s.length ≤ (s.flatMap escapeChar).length := by
  have hpos : ∀ c, 0 < (escapeChar c).length := by
    intro c
    unfold escapeChar
    split_ifs <;> simp
  induction s with
  | nil => simp
  | cons c s ih =>
    have hc := hpos c
    rw [List.flatMap_cons, List.length_append, List.length_cons]
    omega

/-- The characters of a quoted text. -/
theorem toList_quote (s : String) :
    (quote s).toList = '"' :: (s.toList.flatMap escapeChar ++ ['"']) := by
  unfold quote
  rw [String.toList_ofList, List.cons_append]

/-- **A string is read back** from behind its opening quote. -/
theorem quotedText_quote (s : String) (rest : List Char) :
    quotedText (s.toList.flatMap escapeChar ++ '"' :: rest) = (Tree.ofText s, some rest) := by
  have hlength := length_le_flatMap s.toList
  unfold quotedText
  rw [chars_flatMap _ _ _ (by rw [List.length_append]; omega), List.reverse_nil, List.nil_append]
  simp only [String.ofList_toList]

/-! ### Values at the front of a text -/

/-- A tree that stands for some value. -/
def IsReadable (t : Tree) : Prop := ∃ v, t.value = .ok v

/-- **Something is found** at the front of a text: enough steps go through it at a level, and leave
what follows it. It can be read on a condition. -/
def Finds (level : Nat) (cs : List Char) (readable : Prop) : Prop :=
  ∀ fuel rest, cs.length ≤ fuel → Ends rest →
    ∃ t, valueAt fuel level (cs ++ rest) = (t, some rest) ∧ (IsReadable t ↔ readable)

theorem isReadable_ofAtom (j : Json) : IsReadable (Tree.ofAtom j) ↔ True :=
  iff_true_intro ⟨j, rfl⟩

theorem not_isReadable_unreadable : ¬ IsReadable Tree.unreadable := by
  rintro ⟨v, hv⟩
  cases hv

/-- A text that begins with a character that is no blank. -/
theorem skipSpace_cons {c : Char} (h : isSpace c = false) (cs : List Char) :
    skipSpace (c :: cs) = c :: cs :=
  List.dropWhile_cons_of_neg (by simp [h])

theorem isSpace_of_isDigit {c : Char} (h : c.isDigit) : isSpace c = false := by
  have hrange := Decimal.toNat_of_isDigit h
  unfold isSpace
  rw [Bool.eq_false_iff]
  intro hspace
  simp only [Bool.or_eq_true, beq_iff_eq] at hspace
  rcases hspace with ((rfl | rfl) | rfl) | rfl <;> revert hrange <;> decide

theorem ends_nil : Ends [] := by
  rintro c ⟨⟩

theorem exists_fuel {cs : List Char} {fuel : Nat} (hne : cs ≠ []) (h : cs.length ≤ fuel) :
    ∃ k, fuel = k + 1 := by
  have hpos := List.length_pos_iff.mpr hne
  exact ⟨fuel - 1, by omega⟩

/-- A number is found by its sign or its first digit. -/
theorem finds_number {p : Numeral.Parts} (h : p.IsStrict) (hvalue : (Numeral.value? p).isSome)
    (level : Nat) : Finds level p.chars True := by
  intro fuel rest hfuel hrest
  obtain ⟨j, hj⟩ := Option.isSome_iff_exists.mp hvalue
  obtain ⟨c, cs, heq, hc⟩ := h.exists_unsigned
  have hnumber : number p.negative (p.unsigned ++ rest) = (Tree.ofAtom j, some rest) := by
    unfold number
    rw [numeral_unsigned h hrest]
    simp only [hj]
  refine ⟨Tree.ofAtom j, ?_, isReadable_ofAtom j⟩
  unfold Numeral.Parts.chars at hfuel ⊢
  obtain ⟨fuel, rfl⟩ := exists_fuel (by rw [heq]; simp) hfuel
  cases hn : p.negative with
  | true =>
    rw [hn] at hnumber
    exact hnumber
  | false =>
    rw [hn] at hnumber
    rw [heq, List.cons_append] at hnumber
    have hother : c ≠ '"' ∧ c ≠ '[' ∧ c ≠ '\x7b' ∧ c ≠ '-' := by
      refine ⟨?_, ?_, ?_, ?_⟩ <;> rintro rfl <;> revert hc <;> decide
    simp only [Bool.false_eq_true, if_false, List.nil_append, heq, List.cons_append, valueAt,
      skipSpace_cons (isSpace_of_isDigit hc), hother.1, hother.2.1, hother.2.2.1, hother.2.2.2, hc,
      if_true]
    exact hnumber

/-! ### Texts of values -/

/-- The texts of items or fields behind the first one, each with a comma before it. -/
def others (texts : List String) : List Char := texts.flatMap fun s => ',' :: s.toList

theorem toList_intercalate (s : String) (texts : List String) :
    (",".intercalate (s :: texts)).toList = s.toList ++ others texts := by
  induction texts generalizing s with
  | nil => simp [others]
  | cons t texts ih =>
    rw [String.intercalate_cons_cons, String.toList_append, String.toList_append, ih]
    simp [others]

theorem toList_compact_int (n : Int) :
    (compact (.int n)).toList = (Numeral.Parts.ofInt n).chars := by
  have htext : compact (.int n) = toString n := by simp only [compact, atomText]
  rw [htext, Numeral.Parts.toString_eq_chars, String.toList_ofList]

theorem toList_compact_float {d : Double} (h : d.isFinite) :
    (compact (.float d)).toList = (Numeral.Parts.ofDouble d).chars := by
  have htext : compact (.float d) = d.exponentText := by
    simp only [compact, atomText, doubleText, h, if_true]
  rw [htext, Numeral.Parts.exponentText_eq_chars, String.toList_ofList]

theorem toList_compact_str (s : String) :
    (compact (.str s)).toList = '"' :: (s.toList.flatMap escapeChar ++ ['"']) := by
  have htext : compact (.str s) = quote s := by simp only [compact, atomText]
  rw [htext, toList_quote]

theorem compactItems_eq (items : List Json) : compactItems items = items.map compact := by
  induction items with
  | nil => rfl
  | cons j items ih => rw [compactItems, ih, List.map_cons]

/-- The text of a field. -/
def fieldText (p : String × Json) : String := quote p.1 ++ ":" ++ compact p.2

theorem compactFields_eq (fields : List (String × Json)) :
    compactFields fields = fields.map fieldText := by
  induction fields with
  | nil => rfl
  | cons p fields ih => rw [compactFields, ih, List.map_cons]; rfl

theorem toList_compact_arr (j : Json) (items : List Json) :
    (compact (.arr (j :: items))).toList =
      '[' :: (j.compact.toList ++ (others (items.map compact) ++ [']'])) := by
  have htext : compact (.arr (j :: items)) =
      "[" ++ ",".intercalate (compactItems (j :: items)) ++ "]" := by rw [compact]
  rw [htext, compactItems_eq, List.map_cons, String.toList_append, String.toList_append,
    toList_intercalate]
  simp

theorem toList_fieldText (p : String × Json) :
    (fieldText p).toList =
      '"' :: (p.1.toList.flatMap escapeChar ++ '"' :: ':' :: p.2.compact.toList) := by
  rw [fieldText, String.toList_append, String.toList_append, toList_quote]
  simp

theorem toList_compact_obj (p : String × Json) (fields : List (String × Json)) :
    (compact (.obj (p :: fields))).toList =
      '\x7b' :: ((fieldText p).toList ++ (others (fields.map fieldText) ++ ['\x7d'])) := by
  have htext : compact (.obj (p :: fields)) = String.singleton '\x7b' ++
      ",".intercalate (compactFields (p :: fields)) ++ String.singleton '\x7d' := by rw [compact]
  rw [htext, compactFields_eq, List.map_cons, String.toList_append, String.toList_append,
    toList_intercalate]
  simp

/-- No value begins with a blank or with the end of a container. -/
theorem exists_compact (j : Json) :
    ∃ c cs, j.compact.toList = c :: cs ∧ isSpace c = false ∧ c ≠ ']' ∧ c ≠ '\x7d' := by
  have hnumeral : ∀ p : Numeral.Parts, p.IsWritten →
      ∃ c cs, p.chars = c :: cs ∧ isSpace c = false ∧ c ≠ ']' ∧ c ≠ '\x7d' := by
    intro p hp
    obtain ⟨c, cs, heq, hc⟩ := hp.exists_unsigned
    unfold Numeral.Parts.chars
    cases p.negative with
    | true => exact ⟨'-', p.unsigned, rfl, rfl, by decide, by decide⟩
    | false =>
      refine ⟨c, cs, heq, isSpace_of_isDigit hc, ?_, ?_⟩ <;> rintro rfl <;> revert hc <;> decide
  cases j with
  | null => exact ⟨'n', ['u', 'l', 'l'], rfl, rfl, by decide, by decide⟩
  | bool b =>
    cases b with
    | true => exact ⟨'t', ['r', 'u', 'e'], rfl, rfl, by decide, by decide⟩
    | false => exact ⟨'f', ['a', 'l', 's', 'e'], rfl, rfl, by decide, by decide⟩
  | int n =>
    rw [toList_compact_int]
    exact hnumeral _ (Numeral.Parts.isWritten_ofInt n)
  | float d =>
    by_cases hd : d.isFinite
    · rw [toList_compact_float hd]
      exact hnumeral _ (Numeral.Parts.isWritten_ofDouble d)
    · have htext : (compact (.float d)).toList = ['n', 'u', 'l', 'l'] := by
        simp only [compact, atomText, doubleText, hd, Bool.false_eq_true, if_false]
        rfl
      exact ⟨'n', ['u', 'l', 'l'], htext, rfl, by decide, by decide⟩
  | str s =>
    rw [toList_compact_str]
    exact ⟨'"', _, rfl, rfl, by decide, by decide⟩
  | arr items =>
    cases items with
    | nil => exact ⟨'[', [']'], rfl, rfl, by decide, by decide⟩
    | cons j items =>
      rw [toList_compact_arr]
      exact ⟨'[', _, rfl, rfl, by decide, by decide⟩
  | obj fields =>
    cases fields with
    | nil => exact ⟨'\x7b', ['\x7d'], rfl, rfl, by decide, by decide⟩
    | cons p fields =>
      rw [toList_compact_obj]
      exact ⟨'\x7b', _, rfl, rfl, by decide, by decide⟩

/-! ### Containers -/

theorem exists_valuesOf (ts : List Tree) (position : Nat) :
    (∃ vs, Tree.valuesOf position ts = .ok vs) ↔ ∀ t ∈ ts, IsReadable t := by
  induction ts generalizing position with
  | nil => exact iff_of_true ⟨[], rfl⟩ (List.forall_mem_nil _)
  | cons t ts ih =>
    rw [List.forall_mem_cons, ← ih (position + 1), Tree.valuesOf]
    cases hv : t.value with
    | error e =>
      refine iff_of_false ?_ ?_
      · rintro ⟨vs, ⟨⟩⟩
      · rintro ⟨⟨v, hok⟩, -⟩
        rw [hv] at hok
        cases hok
    | ok v =>
      have hread : IsReadable t := ⟨v, hv⟩
      cases Tree.valuesOf (position + 1) ts with
      | error e =>
        refine iff_of_false ?_ ?_
        · rintro ⟨vs, ⟨⟩⟩
        · rintro ⟨-, vs, ⟨⟩⟩
      | ok vs => exact iff_of_true ⟨v :: vs, rfl⟩ ⟨hread, vs, rfl⟩

theorem exists_fieldsOf {es : List (Tree × Tree)} (hnames : ∀ e ∈ es, ∃ name, e.1 = Tree.ofText name)
    (fields : Fields Json) :
    (∃ vs, Tree.fieldsOf fields es = .ok vs) ↔ ∀ e ∈ es, IsReadable e.2 := by
  induction es generalizing fields with
  | nil => exact iff_of_true ⟨fields, rfl⟩ (List.forall_mem_nil _)
  | cons e es ih =>
    obtain ⟨k, t⟩ := e
    obtain ⟨⟨name, rfl⟩, hothers⟩ := List.forall_mem_cons.mp hnames
    have hname : Tree.text (Tree.ofText name) = .ok name := rfl
    rw [List.forall_mem_cons, Tree.fieldsOf, hname]
    cases hv : t.value with
    | error e =>
      refine iff_of_false ?_ ?_
      · rintro ⟨vs, ⟨⟩⟩
      · rintro ⟨⟨v, hok⟩, -⟩
        rw [hv] at hok
        cases hok
    | ok v =>
      have hread : IsReadable t := ⟨v, hv⟩
      exact (ih hothers (Fields.insert name v fields)).trans (and_iff_right hread).symm

/-- A container can be read if it is not too deep and all that is in it can be read. -/
theorem isReadable_container (level : Nat) (t : Tree) (rest : List Char) :
    ∃ t', container (level + 1) t (some rest) = (t', some rest) ∧
      (IsReadable t' ↔ level < depthLimit ∧ IsReadable t) := by
  unfold container
  by_cases hlevel : level < depthLimit
  · rw [if_pos (Nat.succ_le_of_lt hlevel)]
    exact ⟨t, rfl, (and_iff_right hlevel).symm⟩
  · rw [if_neg (fun hle : level + 1 ≤ depthLimit => hlevel hle)]
    exact ⟨Tree.unreadable, rfl,
      iff_of_false not_isReadable_unreadable fun hand => hlevel hand.1⟩

theorem isReadable_seq (ts : List Tree) :
    IsReadable (.seq .exactly ts) ↔ ∀ t ∈ ts, IsReadable t := by
  rw [← exists_valuesOf ts 0]
  unfold IsReadable
  rw [Tree.value]
  cases Tree.valuesOf 0 ts with
  | error e => exact iff_of_false (by rintro ⟨v, ⟨⟩⟩) (by rintro ⟨vs, ⟨⟩⟩)
  | ok vs => exact iff_of_true ⟨.arr vs, rfl⟩ ⟨vs, rfl⟩

theorem isReadable_map {es : List (Tree × Tree)}
    (hnames : ∀ e ∈ es, ∃ name, e.1 = Tree.ofText name) :
    IsReadable (.map es) ↔ ∀ e ∈ es, IsReadable e.2 := by
  rw [← exists_fieldsOf hnames []]
  unfold IsReadable
  rw [Tree.value]
  cases Tree.fieldsOf [] es with
  | error e => exact iff_of_false (by rintro ⟨v, ⟨⟩⟩) (by rintro ⟨vs, ⟨⟩⟩)
  | ok vs => exact iff_of_true ⟨.obj vs, rfl⟩ ⟨vs, rfl⟩

theorem ends_others (texts : List String) {c : Char} (hc : c = ']' ∨ c = '\x7d')
    (rest : List Char) : Ends (others texts ++ c :: rest) := by
  intro d hd
  cases texts with
  | nil =>
    cases hd
    exact Or.inr hc
  | cons s texts =>
    cases hd
    exact Or.inl rfl

section

variable {level : Nat} {readable : Json → Prop}

/-- **Items are found one after the other** up to the end of the array. -/
theorem itemsAt_compact (j : Json) (items : List Json)
    (h : ∀ k ∈ j :: items, Finds level k.compact.toList (readable k)) (fuel : Nat)
    (hfuel : j.compact.toList.length + (others (items.map compact)).length < fuel)
    (rest : List Char) :
    ∃ ts, itemsAt fuel level (j.compact.toList ++ (others (items.map compact) ++ ']' :: rest)) =
      (ts, some rest) ∧ ((∀ t ∈ ts, IsReadable t) ↔ ∀ k ∈ j :: items, readable k) := by
  induction items generalizing j fuel with
  | nil =>
    obtain ⟨fuel, rfl⟩ : ∃ k, fuel = k + 1 := ⟨fuel - 1, by omega⟩
    obtain ⟨t, hfound, hread⟩ := h j List.mem_cons_self fuel (']' :: rest) (by omega)
      (ends_others [] (Or.inl rfl) rest)
    have hnone : others (([] : List Json).map compact) ++ ']' :: rest = ']' :: rest := rfl
    refine ⟨[t], ?_, ?_⟩
    · rw [hnone, itemsAt, hfound]
      rfl
    · rw [List.forall_mem_singleton, List.forall_mem_singleton]
      exact hread
  | cons k items ih =>
    obtain ⟨fuel, rfl⟩ : ∃ k, fuel = k + 1 := ⟨fuel - 1, by omega⟩
    have hsplit : others ((k :: items).map compact) =
        ',' :: (k.compact.toList ++ others (items.map compact)) := rfl
    rw [hsplit] at hfuel ⊢
    simp only [List.length_cons, List.length_append] at hfuel
    obtain ⟨t, hfound, hread⟩ := h j List.mem_cons_self fuel _ (by omega)
      (ends_others ((k :: items).map compact) (Or.inl rfl) rest)
    obtain ⟨ts, hts, hreadable⟩ :=
      ih k (fun l hl => h l (List.mem_cons_of_mem _ hl)) fuel (by omega)
    rw [hsplit] at hfound
    refine ⟨t :: ts, ?_, ?_⟩
    · rw [itemsAt, hfound]
      simp only [List.cons_append, List.append_assoc,
        skipSpace_cons (show isSpace ',' = false from rfl), hts]
    · rw [List.forall_mem_cons, List.forall_mem_cons (a := j), hread, hreadable]

/-- **Fields are found one after the other** up to the end of the object. -/
theorem entriesAt_compact (p : String × Json) (fields : List (String × Json))
    (h : ∀ q ∈ p :: fields, Finds level q.2.compact.toList (readable q.2)) (fuel : Nat)
    (hfuel : (fieldText p).toList.length + (others (fields.map fieldText)).length < fuel)
    (rest : List Char) :
    ∃ es, entriesAt fuel level
        ((fieldText p).toList ++ (others (fields.map fieldText) ++ '\x7d' :: rest)) =
      (es, some rest) ∧ (∀ e ∈ es, ∃ name, e.1 = Tree.ofText name) ∧
        ((∀ e ∈ es, IsReadable e.2) ↔ ∀ q ∈ p :: fields, readable q.2) := by
  induction fields generalizing p fuel with
  | nil =>
    obtain ⟨fuel, rfl⟩ : ∃ k, fuel = k + 1 := ⟨fuel - 1, by omega⟩
    rw [toList_fieldText] at hfuel ⊢
    simp only [List.length_cons, List.length_append] at hfuel
    obtain ⟨t, hfound, hread⟩ := h p List.mem_cons_self fuel ('\x7d' :: rest) (by omega)
      (ends_others [] (Or.inr rfl) rest)
    have hnone : others (([] : List (String × Json)).map fieldText) ++ '\x7d' :: rest =
        '\x7d' :: rest := rfl
    refine ⟨[(Tree.ofText p.1, t)], ?_, ?_, ?_⟩
    · rw [hnone, entriesAt]
      simp only [List.cons_append, List.append_assoc,
        skipSpace_cons (show isSpace '"' = false from rfl), quotedText_quote,
        skipSpace_cons (show isSpace ':' = false from rfl), hfound,
        skipSpace_cons (show isSpace '\x7d' = false from rfl)]
    · exact List.forall_mem_singleton.mpr ⟨p.1, rfl⟩
    · rw [List.forall_mem_singleton, List.forall_mem_singleton]
      exact hread
  | cons q fields ih =>
    obtain ⟨fuel, rfl⟩ : ∃ k, fuel = k + 1 := ⟨fuel - 1, by omega⟩
    have hsplit : others ((q :: fields).map fieldText) =
        ',' :: ((fieldText q).toList ++ others (fields.map fieldText)) := rfl
    rw [hsplit, toList_fieldText p] at hfuel
    simp only [List.length_cons, List.length_append] at hfuel
    obtain ⟨t, hfound, hread⟩ := h p List.mem_cons_self fuel _ (by omega)
      (ends_others ((q :: fields).map fieldText) (Or.inr rfl) rest)
    obtain ⟨es, hes, hnames, hreadable⟩ :=
      ih q (fun l hl => h l (List.mem_cons_of_mem _ hl)) fuel (by omega)
    rw [hsplit] at hfound ⊢
    refine ⟨(Tree.ofText p.1, t) :: es, ?_, ?_, ?_⟩
    · rw [toList_fieldText p, entriesAt]
      simp only [List.cons_append, List.append_assoc,
        skipSpace_cons (show isSpace '"' = false from rfl), quotedText_quote,
        skipSpace_cons (show isSpace ':' = false from rfl)] at hfound ⊢
      simp only [hfound, skipSpace_cons (show isSpace ',' = false from rfl), hes]
    · exact List.forall_mem_cons.mpr ⟨⟨p.1, rfl⟩, hnames⟩
    · rw [List.forall_mem_cons, List.forall_mem_cons (a := p), hread, hreadable]

/-- **From the items of an array to the array.** -/
theorem finds_arr {items : List Json}
    (h : ∀ j ∈ items, Finds (level + 1) j.compact.toList (readable j)) :
    Finds level (compact (.arr items)).toList (level < depthLimit ∧ ∀ j ∈ items, readable j) := by
  intro fuel rest hfuel hrest
  cases items with
  | nil =>
    have htext : (compact (.arr [])).toList = ['[', ']'] := rfl
    rw [htext] at hfuel ⊢
    obtain ⟨fuel, rfl⟩ := exists_fuel (by simp) hfuel
    obtain ⟨t, ht, hread⟩ := isReadable_container level (.seq .exactly []) rest
    refine ⟨t, ?_, hread.trans (and_congr_right' ?_)⟩
    · simp only [List.cons_append, List.nil_append, valueAt,
        skipSpace_cons (show isSpace '[' = false from rfl),
        skipSpace_cons (show isSpace ']' = false from rfl)]
      simpa using ht
    · exact iff_of_true ⟨.arr [], rfl⟩ (List.forall_mem_nil _)
  | cons j items =>
    rw [toList_compact_arr] at hfuel ⊢
    obtain ⟨fuel, rfl⟩ := exists_fuel (by simp) hfuel
    simp only [List.length_cons, List.length_append] at hfuel
    obtain ⟨ts, hts, hreadable⟩ := itemsAt_compact j items h fuel (by omega) rest
    obtain ⟨t, ht, hread⟩ := isReadable_container level (.seq .exactly ts) rest
    obtain ⟨c, cs, heq, hspace, hclose, -⟩ := exists_compact j
    refine ⟨t, ?_, hread.trans (and_congr_right' ((isReadable_seq ts).trans hreadable))⟩
    simp only [List.cons_append, List.append_assoc, List.nil_append, valueAt,
      skipSpace_cons (show isSpace '[' = false from rfl)]
    rw [heq, List.cons_append] at hts ⊢
    rw [skipSpace_cons hspace]
    simpa [hts, hclose] using ht

/-- **From the fields of an object to the object.** -/
theorem finds_obj {fields : List (String × Json)}
    (h : ∀ p ∈ fields, Finds (level + 1) p.2.compact.toList (readable p.2)) :
    Finds level (compact (.obj fields)).toList
      (level < depthLimit ∧ ∀ p ∈ fields, readable p.2) := by
  intro fuel rest hfuel hrest
  cases fields with
  | nil =>
    have htext : (compact (.obj [])).toList = ['\x7b', '\x7d'] := rfl
    rw [htext] at hfuel ⊢
    obtain ⟨fuel, rfl⟩ := exists_fuel (by simp) hfuel
    obtain ⟨t, ht, hread⟩ := isReadable_container level (.map []) rest
    refine ⟨t, ?_, hread.trans (and_congr_right' ?_)⟩
    · simp only [List.cons_append, List.nil_append, valueAt,
        skipSpace_cons (show isSpace '\x7b' = false from rfl),
        skipSpace_cons (show isSpace '\x7d' = false from rfl)]
      simpa using ht
    · exact iff_of_true ⟨.obj [], rfl⟩ (List.forall_mem_nil _)
  | cons p fields =>
    rw [toList_compact_obj] at hfuel ⊢
    obtain ⟨fuel, rfl⟩ := exists_fuel (by simp) hfuel
    simp only [List.length_cons, List.length_append] at hfuel
    obtain ⟨es, hes, hnames, hreadable⟩ := entriesAt_compact p fields h fuel (by omega) rest
    obtain ⟨t, ht, hread⟩ := isReadable_container level (.map es) rest
    refine ⟨t, ?_, hread.trans (and_congr_right' ((isReadable_map hnames).trans hreadable))⟩
    simp only [List.cons_append, List.append_assoc, List.nil_append, valueAt,
      skipSpace_cons (show isSpace '\x7b' = false from rfl)]
    rw [toList_fieldText, List.cons_append] at hes ⊢
    rw [skipSpace_cons (show isSpace '"' = false from rfl)]
    simp only [List.cons_append, List.append_assoc] at hes ⊢
    simpa [hes] using ht

end

/-! ### Every value -/

/-- A word is found at its front. -/
theorem word_append (expected : String) (j : Json) (rest : List Char) :
    word expected j (expected.toList ++ rest) = (Tree.ofAtom j, some rest) := by
  unfold word
  rw [Text.dropStart?_eq_some.mpr rfl]

theorem finds_null (level : Nat) : Finds level (compact .null).toList True := by
  have htext : (compact .null).toList = ['n', 'u', 'l', 'l'] := rfl
  intro fuel rest hfuel hrest
  rw [htext] at hfuel ⊢
  obtain ⟨fuel, rfl⟩ := exists_fuel (by simp) hfuel
  exact ⟨Tree.ofAtom .null, word_append "null" .null rest, isReadable_ofAtom _⟩

theorem finds_bool (b : Bool) (level : Nat) : Finds level (compact (.bool b)).toList True := by
  intro fuel rest hfuel hrest
  refine ⟨Tree.ofAtom (.bool b), ?_, isReadable_ofAtom _⟩
  cases b with
  | true =>
    have htext : (compact (.bool true)).toList = ['t', 'r', 'u', 'e'] := rfl
    rw [htext] at hfuel ⊢
    obtain ⟨fuel, rfl⟩ := exists_fuel (by simp) hfuel
    exact word_append "true" (.bool true) rest
  | false =>
    have htext : (compact (.bool false)).toList = ['f', 'a', 'l', 's', 'e'] := rfl
    rw [htext] at hfuel ⊢
    obtain ⟨fuel, rfl⟩ := exists_fuel (by simp) hfuel
    exact word_append "false" (.bool false) rest

theorem finds_str (s : String) (level : Nat) : Finds level (compact (.str s)).toList True := by
  intro fuel rest hfuel hrest
  rw [toList_compact_str] at hfuel ⊢
  obtain ⟨fuel, rfl⟩ := exists_fuel (by simp) hfuel
  refine ⟨Tree.ofText s, ?_, iff_true_intro ⟨.str s, rfl⟩⟩
  simp only [List.cons_append, List.append_assoc, List.nil_append, valueAt,
    skipSpace_cons (show isSpace '"' = false from rfl), if_true]
  exact quotedText_quote s rest

end Reader

theorem itemsDepth_le {items : List Json} {n : Nat} :
    itemsDepth items ≤ n ↔ ∀ j ∈ items, j.depth ≤ n := by
  induction items with
  | nil => exact iff_of_true (Nat.zero_le n) (List.forall_mem_nil _)
  | cons k items ih => rw [itemsDepth, max_le_iff, List.forall_mem_cons, ih]

theorem fieldsDepth_le {fields : List (String × Json)} {n : Nat} :
    fieldsDepth fields ≤ n ↔ ∀ p ∈ fields, p.2.depth ≤ n := by
  induction fields with
  | nil => exact iff_of_true (Nat.zero_le n) (List.forall_mem_nil _)
  | cons q fields ih => rw [fieldsDepth, max_le_iff, List.forall_mem_cons, ih]

/-- **Whether the containers of a value are not too deep** at a level. -/
def IsWithin (level : Nat) (j : Json) : Prop := j.depth = 0 ∨ level + j.depth ≤ Reader.depthLimit

/-- A container that is not too deep holds parts that are not too deep one level further in. -/
theorem isWithin_succ {level deepest : Nat} {j : Json} {parts : List Json}
    (hdepth : j.depth = deepest + 1)
    (hdeepest : ∀ n, deepest ≤ n ↔ ∀ k ∈ parts, k.depth ≤ n) :
    IsWithin level j ↔ level < Reader.depthLimit ∧ ∀ k ∈ parts, IsWithin (level + 1) k := by
  have hparts := hdeepest (Reader.depthLimit - (level + 1))
  unfold IsWithin
  rw [hdepth]
  constructor
  · intro h
    have hlevel : level + (deepest + 1) ≤ Reader.depthLimit := by omega
    refine ⟨by omega, fun k hk => Or.inr ?_⟩
    have hk := hparts.mp (by omega) k hk
    omega
  · rintro ⟨hlevel, h⟩
    have hle := hparts.mpr fun k hk => by
      have hk := h k hk
      omega
    exact Or.inr (by omega)

theorem isWithin_arr {level : Nat} {items : List Json} : IsWithin level (.arr items) ↔
    level < Reader.depthLimit ∧ ∀ j ∈ items, IsWithin (level + 1) j :=
  isWithin_succ (by rw [depth]) fun _ => itemsDepth_le

theorem isWithin_obj {level : Nat} {fields : List (String × Json)} : IsWithin level (.obj fields) ↔
    level < Reader.depthLimit ∧ ∀ p ∈ fields, IsWithin (level + 1) p.2 := by
  have hparts : ∀ n, fieldsDepth fields ≤ n ↔ ∀ k ∈ fields.map (·.2), k.depth ≤ n := fun n => by
    rw [List.forall_mem_map, fieldsDepth_le]
  rw [isWithin_succ (by rw [depth]) hparts, List.forall_mem_map]

theorem isWithin_of_depth {level : Nat} {j : Json} (h : j.depth = 0) : IsWithin level j ↔ True :=
  iff_true_intro (Or.inl h)

open Reader in
/-- **Every value is found in its text**, and it can be read unless its containers are too deep
there. -/
theorem IsValue.finds {j : Json} (h : j.IsValue) (level : Nat) :
    Finds level j.compact.toList (j.IsWithin level) := by
  induction h generalizing level with
  | null =>
    rw [isWithin_of_depth rfl]
    exact finds_null level
  | bool b =>
    rw [isWithin_of_depth rfl]
    exact finds_bool b level
  | @int n h =>
    have hvalue := Numeral.value?_ofInt h
    rw [isWithin_of_depth rfl, toList_compact_int]
    exact finds_number (Numeral.Parts.isStrict_ofInt n) (by rw [hvalue]; rfl) level
  | float h =>
    rw [isWithin_of_depth rfl, toList_compact_float h]
    exact finds_number (Numeral.Parts.isStrict_ofDouble h) (Numeral.isSome_value?_ofDouble h) level
  | str s =>
    rw [isWithin_of_depth rfl]
    exact finds_str s level
  | @arr items h ih =>
    rw [isWithin_arr]
    exact finds_arr fun j hj => ih j hj (level + 1)
  | @obj fields h ih =>
    rw [isWithin_obj]
    exact finds_obj fun p hp => ih p hp (level + 1)

open Reader in
/-- **The text of a value is read as a value** exactly if the value is not too deep. -/
theorem IsValue.exists_parse_compact {j : Json} (h : j.IsValue) :
    (∃ v, parse j.compact = .ok v) ↔ j.depth ≤ depthLimit := by
  obtain ⟨t, hfound, hread⟩ :=
    h.finds 0 (2 * j.compact.toList.length + 2) [] (by omega) ends_nil
  rw [List.append_nil] at hfound
  have hwithin : j.IsWithin 0 ↔ j.depth ≤ depthLimit := by
    unfold IsWithin
    omega
  rw [← hwithin, ← hread]
  unfold parse decodeText readDocument IsReadable
  simp only [hfound]
  cases t.value with
  | error e => exact iff_of_false (by rintro ⟨v, ⟨⟩⟩) (by rintro ⟨v, ⟨⟩⟩)
  | ok v => exact iff_of_true ⟨v, rfl⟩ ⟨v, rfl⟩

end FlowGraph.Json

import FlowGraph.Proofs.Json.Reading

/-! # Where a text is too deep

Of a text that is too deep, one bracket is named. The search for it (`Reader.excess?`) does not read
the text, it goes over its characters and tells brackets in quotes from others.

* `Reader.Scans` says that the search gets through a part of a text, or ends in it if a condition is
  not met; `Scans.append` puts parts together, `scans_brackets` puts brackets around them.
* `IsValue.isSome_excess?`: in the text of a value a bracket is found exactly if the value is too
  deep. So the search and the reader (`IsValue.exists_parse_compact`) never disagree. -/

namespace FlowGraph.Json

namespace Reader

/-! ### Parts of a text -/

/-- **A part of a text is gone through** at a level, up to what follows it, if a condition is met.
If not, the search ends in it. -/
def Scans (level : Nat) (cs : List Char) (within : Prop) : Prop :=
  ∀ place rest,
    (within ∧ ∃ after,
      excess? level place .outside (cs ++ rest) = excess? level after .outside rest) ∨
    (¬ within ∧ ∃ found, excess? level place .outside (cs ++ rest) = some found)

section

variable {level : Nat} {cs ds : List Char} {within within' : Prop}

theorem Scans.congr (h : Scans level cs within) (hiff : within ↔ within') :
    Scans level cs within' := by
  rwa [← propext hiff]

/-- **One part after the other.** -/
theorem Scans.append (h : Scans level cs within) (h' : Scans level ds within') :
    Scans level (cs ++ ds) (within ∧ within') := by
  intro place rest
  rw [List.append_assoc]
  rcases h place (ds ++ rest) with ⟨hwithin, after, hgo⟩ | ⟨hnot, found, hend⟩
  · rw [hgo]
    rcases h' after rest with ⟨hwithin', hgo'⟩ | ⟨hnot', hend'⟩
    · exact Or.inl ⟨⟨hwithin, hwithin'⟩, hgo'⟩
    · exact Or.inr ⟨fun hand => hnot' hand.2, hend'⟩
  · exact Or.inr ⟨fun hand => hnot hand.1, found, hend⟩

/-- Neither a quote nor a bracket. -/
def isPlain (c : Char) : Bool := !(['"', '[', ']', '\x7b', '\x7d'].contains c)

theorem excess?_plain {c : Char} (hc : isPlain c) (place : Nat) (rest : List Char) :
    excess? level place .outside (c :: rest) =
      excess? level (place + c.utf8Size) .outside rest := by
  simp only [isPlain, Bool.not_eq_true', List.contains_eq_mem, List.mem_cons, List.not_mem_nil,
    or_false, decide_eq_false_iff_not, not_or] at hc
  obtain ⟨hquote, hopen, hclose, hopen', hclose'⟩ := hc
  simp only [excess?, hquote, hopen, hclose, hopen', hclose', or_self, if_false]

/-- Plain characters are gone through. -/
theorem scans_plain (h : cs.all isPlain) : Scans level cs True := by
  intro place rest
  refine Or.inl ⟨trivial, ?_⟩
  induction cs generalizing place with
  | nil => exact ⟨place, rfl⟩
  | cons c cs ih =>
    rw [List.all_cons, Bool.and_eq_true] at h
    rw [List.cons_append, excess?_plain h.1]
    exact ih h.2 _

theorem scans_nil : Scans level [] True := scans_plain rfl

/-- **Brackets around a part** take it one level deeper. -/
theorem scans_brackets (h : Scans (level + 1) cs within) {first last : Char}
    (hbrackets : first = '[' ∧ last = ']' ∨ first = '\x7b' ∧ last = '\x7d') :
    Scans level (first :: (cs ++ [last])) (level < depthLimit ∧ within) := by
  have hfirst : ∀ place rest, excess? level place .outside (first :: rest) =
      if level < depthLimit then excess? (level + 1) (place + first.utf8Size) .outside rest
      else some (place + first.utf8Size) := by
    rcases hbrackets with ⟨rfl, -⟩ | ⟨rfl, -⟩ <;> exact fun _ _ => rfl
  have hlast : ∀ place rest, excess? (level + 1) place .outside (last :: rest) =
      excess? level (place + last.utf8Size) .outside rest := by
    rcases hbrackets with ⟨-, rfl⟩ | ⟨-, rfl⟩ <;> exact fun _ _ => rfl
  intro place rest
  rw [List.cons_append, List.append_assoc, List.singleton_append, hfirst]
  by_cases hlevel : level < depthLimit
  · rw [if_pos hlevel]
    rcases h (place + first.utf8Size) (last :: rest) with ⟨hwithin, after, hgo⟩ | ⟨hnot, hend⟩
    · rw [hgo, hlast]
      exact Or.inl ⟨⟨hlevel, hwithin⟩, _, rfl⟩
    · exact Or.inr ⟨fun hand => hnot hand.2, hend⟩
  · rw [if_neg hlevel]
    exact Or.inr ⟨fun hand => hlevel hand.1, _, rfl⟩

end

/-! ### Strings -/

theorem excess?_escapeChar (level place : Nat) (c : Char) (rest : List Char) :
    ∃ after, excess? level place .inside (escapeChar c ++ rest) =
      excess? level after .inside rest := by
  have hplain : ∀ d place rest, d ≠ '"' → d ≠ '\\' → excess? level place .inside (d :: rest) =
      excess? level (place + d.utf8Size) .inside rest := by
    intro d place rest hquote hslash
    simp only [excess?, Quoting.next, hquote, hslash, if_false]
  have hpair : ∀ d rest, excess? level place .inside ('\\' :: d :: rest) =
      excess? level (place + '\\'.utf8Size + d.utf8Size) .inside rest := fun _ _ => rfl
  have hhex : ∀ n, hexDigit n ≠ '"' ∧ hexDigit n ≠ '\\' := by
    intro n
    have hall : ∀ k < 16, (Nat.toDigits 16 k).headD '0' ≠ '"' ∧
        (Nat.toDigits 16 k).headD '0' ≠ '\\' := by decide
    exact hall _ (Nat.mod_lt n (by decide))
  unfold escapeChar
  split_ifs with hquote hslash hcontrol hn hr ht hb hf
  case neg =>
    simp only [List.cons_append, List.nil_append, hpair]
    rw [hplain '0' _ _ (by decide) (by decide), hplain '0' _ _ (by decide) (by decide),
      hplain _ _ _ (hhex _).1 (hhex _).2, hplain _ _ _ (hhex _).1 (hhex _).2]
    exact ⟨_, rfl⟩
  case neg => exact ⟨_, hplain c place rest hquote hslash⟩
  all_goals exact ⟨_, hpair _ rest⟩

/-- **A string is gone through**: the brackets in it do not count, and an escaped quote does not end
it. -/
theorem scans_quote (level : Nat) (s : String) : Scans level (quote s).toList True := by
  have hinside : ∀ (cs : List Char) place rest, ∃ after,
      excess? level place .inside (cs.flatMap escapeChar ++ '"' :: rest) =
        excess? level after .outside rest := by
    intro cs
    induction cs with
    | nil => exact fun place rest => ⟨place + '"'.utf8Size, rfl⟩
    | cons c cs ih =>
      intro place rest
      obtain ⟨after, hafter⟩ :=
        excess?_escapeChar level place c (cs.flatMap escapeChar ++ '"' :: rest)
      rw [List.flatMap_cons, List.append_assoc, hafter]
      exact ih after rest
  intro place rest
  rw [toList_quote]
  obtain ⟨after, hafter⟩ := hinside s.toList (place + '"'.utf8Size) rest
  refine Or.inl ⟨trivial, after, ?_⟩
  rw [← hafter, List.cons_append, List.append_assoc, List.singleton_append]
  rfl

/-! ### Values -/

section

variable {level : Nat}

theorem scans_numeral {p : Numeral.Parts} (h : p.IsWritten) : Scans level p.chars True := by
  refine scans_plain (List.all_eq_true.mpr fun c hc => ?_)
  rcases Numeral.Parts.isDigit_or_mem_of_mem_chars h hc with hdigit | hother
  · rw [isPlain, Bool.not_eq_true', List.contains_eq_mem, decide_eq_false_iff_not]
    intro hmark
    simp only [List.mem_cons, List.not_mem_nil, or_false] at hmark
    rcases hmark with rfl | rfl | rfl | rfl | rfl <;> cases hdigit
  · simp only [List.mem_cons, List.not_mem_nil, or_false] at hother
    rcases hother with rfl | rfl | rfl | rfl <;> rfl

/-- Items or fields with a comma before each. -/
theorem scans_others {α : Type} {text : α → String} {readable : α → Prop} {parts : List α}
    (h : ∀ a ∈ parts, Scans level (text a).toList (readable a)) :
    Scans level (others (parts.map text)) (∀ a ∈ parts, readable a) := by
  induction parts with
  | nil =>
    exact scans_nil.congr (iff_of_true trivial (List.forall_mem_nil _))
  | cons a parts ih =>
    rw [List.forall_mem_cons] at h
    have hcomma : Scans level [','] True := scans_plain rfl
    have hsplit : others ((a :: parts).map text) =
        [','] ++ ((text a).toList ++ others (parts.map text)) := rfl
    rw [hsplit]
    refine (hcomma.append (h.1.append (ih h.2))).congr ?_
    rw [true_and, List.forall_mem_cons]

/-- Items or fields with commas between them. -/
theorem scans_parts {α : Type} {text : α → String} {readable : α → Prop} {a : α} {parts : List α}
    (h : ∀ b ∈ a :: parts, Scans level (text b).toList (readable b)) :
    Scans level ((text a).toList ++ others (parts.map text)) (∀ b ∈ a :: parts, readable b) := by
  rw [List.forall_mem_cons] at h
  exact (h.1.append (scans_others h.2)).congr List.forall_mem_cons.symm

end

end Reader

open Reader in
/-- **Every value is gone through** unless its containers are too deep. -/
theorem IsValue.scans {j : Json} (h : j.IsValue) (level : Nat) :
    Scans level j.compact.toList (j.IsWithin level) := by
  induction h generalizing level with
  | null =>
    exact (scans_plain rfl).congr (isWithin_of_depth rfl).symm
  | bool b =>
    refine Scans.congr ?_ (isWithin_of_depth rfl).symm
    cases b <;> exact scans_plain rfl
  | @int n h =>
    rw [toList_compact_int]
    exact (scans_numeral (Numeral.Parts.isWritten_ofInt n)).congr (isWithin_of_depth rfl).symm
  | @float d h =>
    rw [toList_compact_float h]
    exact (scans_numeral (Numeral.Parts.isWritten_ofDouble d)).congr (isWithin_of_depth rfl).symm
  | str s =>
    have htext : compact (.str s) = quote s := by simp only [compact, atomText]
    rw [htext]
    exact (scans_quote level s).congr (isWithin_of_depth rfl).symm
  | @arr items h ih =>
    refine Scans.congr ?_ isWithin_arr.symm
    have hitems : ∀ j ∈ items, Scans (level + 1) j.compact.toList (j.IsWithin (level + 1)) :=
      fun j hj => ih j hj (level + 1)
    cases items with
    | nil =>
      exact (scans_brackets scans_nil (Or.inl ⟨rfl, rfl⟩)).congr
        (and_congr_right' (iff_of_true trivial (List.forall_mem_nil _)))
    | cons j items =>
      rw [toList_compact_arr, ← List.append_assoc]
      exact scans_brackets (scans_parts hitems) (Or.inl ⟨rfl, rfl⟩)
  | @obj fields h ih =>
    refine Scans.congr ?_ isWithin_obj.symm
    have hfields : ∀ p ∈ fields, Scans (level + 1) (fieldText p).toList
        (p.2.IsWithin (level + 1)) := by
      intro p hp
      have hcolon : Scans (level + 1) [':'] True := scans_plain rfl
      rw [fieldText, String.toList_append, String.toList_append]
      refine (((scans_quote (level + 1) p.1).append hcolon).append (ih p hp (level + 1))).congr ?_
      rw [true_and, true_and]
    cases fields with
    | nil =>
      exact (scans_brackets scans_nil (Or.inr ⟨rfl, rfl⟩)).congr
        (and_congr_right' (iff_of_true trivial (List.forall_mem_nil _)))
    | cons p fields =>
      rw [toList_compact_obj, ← List.append_assoc]
      exact scans_brackets (scans_parts hfields) (Or.inr ⟨rfl, rfl⟩)

open Reader in
/-- **A bracket too deep is found** exactly in the texts of values that are too deep. -/
theorem IsValue.isSome_excess? {j : Json} (h : j.IsValue) :
    (excess? 0 0 .outside j.compact.toList).isSome ↔ depthLimit < j.depth := by
  have hscans := h.scans 0 0 []
  have hwithin : j.IsWithin 0 ↔ ¬ depthLimit < j.depth := by
    unfold IsWithin
    omega
  rw [List.append_nil] at hscans
  rcases hscans with ⟨hflat, after, hgo⟩ | ⟨hdeep, found, hend⟩
  · rw [hgo]
    exact iff_of_false (by simp [excess?]) (hwithin.mp hflat)
  · rw [hend]
    exact iff_of_true rfl (not_not.mp fun hnot => hdeep (hwithin.mpr hnot))

end FlowGraph.Json

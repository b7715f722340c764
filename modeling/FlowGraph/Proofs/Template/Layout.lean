import FlowGraph.Proofs.Template.Reference
import Mathlib.Data.List.Forall2

/-! # Templates of literals and references

A template is laid out as literals and references by turns (`Layout`). Where a literal has no
opening mark inside and does not end in half of one, and a reference is not empty and has no braces,
the layout can be read off the text in one way only.

* `render_layout`: rendering puts what each reference shows as in its place, and keeps the literals.
  What is put in is not read again, whatever marks are in it.
* `text_resolve_layout`: an operand without blanks around it resolves to a value with the same text,
  with one exception: a closing brace right after the only reference is taken for a part of it. -/

namespace FlowGraph.Template

/-- **A reference in a template**, with the literal in front of it. -/
structure Link where
  literal : List Char
  inner : List Char
  plain : ¬ opening <:+: literal
  apart : literal.getLast? ≠ some '{'
  ne_nil : inner ≠ []
  braceless : '{' ∉ inner ∧ '}' ∉ inner

/-- **The layout of a template**: references with literals in front of them, then a literal. -/
structure Layout where
  links : List Link
  last : List Char
  plain : ¬ opening <:+: last

/-- The text of a reference and the literal in front of it. -/
def Link.text (link : Link) : List Char := link.literal ++ opening ++ link.inner ++ closing

/-- The text of a template. -/
def Layout.text (layout : Layout) : List Char := layout.links.flatMap Link.text ++ layout.last

/-- The text of a template with other texts in the places of the references. -/
def Layout.fill (layout : Layout) (shown : List (List Char)) : List Char :=
  (List.zipWith (fun link text => link.literal ++ text) layout.links shown).flatten ++ layout.last

variable {scope : Scope} {c : Char} {cs literal : List Char} {link : Link} {layout : Layout}

/-! ### The pieces of a template -/

theorem front_of_not_isPrefix (h : ¬ opening <+: cs) : front cs = .literals 1 := by
  have hnone : Text.dropStart? cs opening = none := by
    rw [← Option.not_isSome_iff_eq_none, Text.isSome_dropStart?]
    exact h
  unfold front
  rw [hnone]

theorem Link.takeWhile_inner (link : Link) (rest : List Char) :
    (link.inner ++ closing ++ rest).takeWhile (· != '}') = link.inner := by
  rw [List.append_assoc, List.takeWhile_append_of_pos]
  · exact List.append_nil _
  · exact fun c hc => bne_iff_ne.mpr fun heq => link.braceless.2 (heq ▸ hc)

theorem Link.dropWhile_inner (link : Link) (rest : List Char) :
    (link.inner ++ closing ++ rest).dropWhile (· != '}') = closing ++ rest := by
  rw [List.append_assoc, List.dropWhile_append_of_pos]
  · rfl
  · exact fun c hc => bne_iff_ne.mpr fun heq => link.braceless.2 (heq ▸ hc)

theorem front_reference (link : Link) (rest : List Char) :
    front (opening ++ (link.inner ++ closing ++ rest)) = .reference link.inner := by
  unfold front
  rw [Text.dropStart?_eq_some.mpr rfl]
  simp only [link.takeWhile_inner, link.dropWhile_inner, List.isEmpty_iff, link.ne_nil, if_false,
    Text.dropStart?_eq_some.mpr rfl]

/-- Characters that are skipped give no pieces. -/
theorem pieces_skip (skipped cs : List Char) :
    pieces skipped.length 0 (skipped ++ cs) = pieces 0 0 cs := by
  induction skipped with
  | nil => rfl
  | cons c skipped ih => exact ih

/-- No opening mark begins in a literal. -/
theorem not_isPrefix_append (hne : literal ≠ []) (hplain : ¬ opening <:+: literal)
    (hapart : literal.getLast? = some '{' → cs.head? ≠ some '{') :
    ¬ opening <+: literal ++ cs := by
  rintro ⟨rest, hrest⟩
  match literal, hne with
  | [c], _ =>
    obtain ⟨rfl, rfl⟩ : c = '{' ∧ cs = '{' :: rest := by simpa [opening, eq_comm] using hrest
    exact hapart rfl rfl
  | c :: d :: literal, _ =>
    obtain ⟨rfl, rfl, -⟩ : c = '{' ∧ d = '{' ∧ literal ++ cs = rest := by
      simpa [opening, eq_comm] using hrest
    exact hplain ⟨[], literal, rfl⟩

/-- A literal is kept character by character. -/
theorem pieces_literal (hplain : ¬ opening <:+: literal)
    (hapart : literal.getLast? = some '{' → cs.head? ≠ some '{') :
    pieces 0 0 (literal ++ cs) = literal.map .literal ++ pieces 0 0 cs := by
  induction literal with
  | nil => rfl
  | cons c literal ih =>
    have hfront := front_of_not_isPrefix (not_isPrefix_append (List.cons_ne_nil _ _) hplain hapart)
    have hrest := ih (fun h => hplain (h.trans (List.suffix_cons c literal).isInfix)) fun hlast =>
      hapart (by simp [List.getLast?_cons, hlast])
    rw [List.cons_append] at hfront ⊢
    rw [pieces, hfront]
    simp [hrest]

theorem pieces_link (link : Link) (rest : List Char) :
    pieces 0 0 (link.text ++ rest) =
      link.literal.map .literal ++ .reference link.inner :: pieces 0 0 rest := by
  have htext : link.text ++ rest =
      link.literal ++ (opening ++ (link.inner ++ closing ++ rest)) := by
    simp [Link.text]
  have hfront := front_reference link rest
  have hskip : pieces (link.inner.length + 3) 0 ('{' :: (link.inner ++ closing ++ rest)) =
      pieces 0 0 rest := by
    simpa [closing] using pieces_skip ('{' :: (link.inner ++ closing)) rest
  rw [htext, pieces_literal link.plain fun hlast => absurd hlast link.apart]
  rw [opening, List.cons_append] at hfront ⊢
  rw [pieces, hfront]
  exact congrArg (_ ++ .reference link.inner :: ·) hskip

/-- The pieces of a template are its literals, character by character, and its references. -/
theorem pieces_text (layout : Layout) : pieces 0 0 layout.text =
    layout.links.flatMap (fun link => link.literal.map .literal ++ [.reference link.inner]) ++
      layout.last.map .literal := by
  obtain ⟨links, last, hlast⟩ := layout
  unfold Layout.text
  induction links with
  | nil =>
    have hpieces : pieces 0 0 (last ++ []) = last.map .literal ++ pieces 0 0 [] :=
      pieces_literal hlast (by simp)
    simpa [pieces] using hpieces
  | cons link links ih => simp [pieces_link, ih]

/-! ### Rendering -/

theorem flatMap_pieceText_literals (scope : Scope) (cs : List Char) :
    (cs.map Piece.literal).flatMap (pieceText scope) = cs := by
  induction cs with
  | nil => rfl
  | cons c cs ih => simpa [pieceText] using ih

theorem Layout.fill_map (layout : Layout) (f : Link → List Char) :
    layout.fill (layout.links.map f) =
      layout.links.flatMap (fun link => link.literal ++ f link) ++ layout.last := by
  unfold fill
  rw [List.zipWith_map_right, List.zipWith_self]
  rfl

/-- What a template is rendered to. -/
theorem render_text (scope : Scope) (layout : Layout) :
    render scope (String.ofList layout.text) =
      String.ofList (layout.fill (layout.links.map fun link => referenceText scope link.inner)) := by
  have hlink : ∀ link : Link,
      (link.literal.map Piece.literal ++ [Piece.reference link.inner]).flatMap (pieceText scope) =
        link.literal ++ referenceText scope link.inner := fun link => by
    rw [List.flatMap_append, flatMap_pieceText_literals]
    simp [pieceText]
  unfold render
  rw [String.toList_ofList, pieces_text, List.flatMap_append, flatMap_pieceText_literals,
    List.flatMap_assoc, layout.fill_map]
  simp only [hlink]

/-- **A template is rendered in one pass**: each reference gives place to what it shows as, and all
else stays. -/
theorem render_layout (scope : Scope) (layout : Layout) :
    ∃ shown, List.Forall₂ (fun link text => scope.Shows link.inner text) layout.links shown ∧
      render scope (String.ofList layout.text) = String.ofList (layout.fill shown) := by
  refine ⟨_, ?_, render_text scope layout⟩
  rw [List.forall₂_map_right_iff, List.forall₂_same]
  exact fun link _ => Scope.shows_iff.mpr rfl

/-- A reference with blanks inside, and one right after it. -/
def greeting : Layout where
  links := [⟨"hi ".toList, " input ".toList, by decide, by decide, by decide, by decide⟩,
    ⟨[], "input.x".toList, by decide, by decide, by decide, by decide⟩]
  last := "!".toList
  plain := by decide

-- a value with marks in it is put in as it is
example : render ⟨.str (String.ofList (opening ++ "input".toList ++ closing)), .null, []⟩
    (String.ofList greeting.text) =
      String.ofList ("hi ".toList ++ opening ++ "input".toList ++ closing ++ "!".toList) := rfl

/-! ### Operands -/

/-- An operand is one reference exactly if, without the blanks around it, it is a text between the
marks with neither mark inside. -/
theorem single?_eq_some {inner : List Char} :
    single? cs = some inner ↔ Text.trimChars cs = opening ++ inner ++ closing ∧
      ¬ opening <:+: inner ∧ ¬ closing <:+: inner := by
  unfold single?
  constructor
  · intro h
    split at h
    · cases h
    · rename_i rest hrest
      split at h
      · cases h
      · rename_i reversed hreversed
        simp only [Bool.or_eq_true, Text.containsChars_iff] at h
        split_ifs at h with hmarks
        cases h
        refine ⟨?_, not_or.mp hmarks⟩
        rw [Text.dropStart?_eq_some.mp hrest, List.append_assoc]
        congr 1
        simpa [closing] using congrArg List.reverse (Text.dropStart?_eq_some.mp hreversed)
  · rintro ⟨htrim, hopening, hclosing⟩
    have hrest : Text.dropStart? (Text.trimChars cs) opening = some (inner ++ closing) :=
      Text.dropStart?_eq_some.mpr (by rw [htrim, List.append_assoc])
    have hreversed : Text.dropStart? (inner ++ closing).reverse closing = some inner.reverse :=
      Text.dropStart?_eq_some.mpr (by simp [closing])
    simp only [hrest, hreversed, List.reverse_reverse]
    exact if_neg (by simp [Text.containsChars_iff, hopening, hclosing])

/-- A text without an opening brace is no more than a last literal. -/
theorem links_eq_nil {links : List Link} {last : List Char}
    (h : '{' ∉ links.flatMap Link.text ++ last) : links = [] := by
  cases links with
  | nil => rfl
  | cons link links => exact absurd (by simp [Link.text, opening]) h

/-- **A closing brace right after the only reference** of a template, with no literal in front. -/
def Layout.IsOverrun (layout : Layout) : Prop :=
  ∃ link, layout.links = [link] ∧ link.literal = [] ∧ layout.last = ['}']

/-- A text that ends in a closing mark and has no other: what follows the mark there is nothing, or
a brace that makes another mark with the last brace of the first. -/
theorem closing_overlap {reference inner tail : List Char}
    (h : reference ++ (closing ++ tail) = inner ++ closing) (hclosing : ¬ closing <:+: inner) :
    tail = [] ∧ inner = reference ∨ tail = ['}'] ∧ inner = reference ++ ['}'] := by
  rcases List.append_eq_append_iff.mp h with ⟨between, rfl, hbetween⟩ | ⟨between, rfl, hbetween⟩
  · match between with
    | [] =>
      exact Or.inl ⟨List.append_cancel_left (hbetween.trans (List.append_nil closing).symm),
        List.append_nil _⟩
    | [c] =>
      obtain ⟨rfl, rfl⟩ : c = '}' ∧ tail = ['}'] := by simpa [closing, eq_comm] using hbetween
      exact Or.inr ⟨rfl, rfl⟩
    | c :: d :: between =>
      obtain ⟨rfl, rfl, -⟩ : c = '}' ∧ d = '}' ∧ tail = between ++ closing := by
        simpa [closing, eq_comm] using hbetween
      exact absurd ⟨reference, between, List.append_assoc ..⟩ hclosing
  · have hlength := congrArg List.length hbetween
    simp only [List.length_append] at hlength
    obtain rfl : between = [] := List.length_eq_zero_iff.mp (by omega)
    obtain rfl : tail = [] := List.length_eq_zero_iff.mp (by omega)
    exact Or.inl ⟨rfl, (List.append_nil _).symm⟩

/-- A template is taken for one reference if it is one, or if it overruns. -/
theorem links_of_single? {inner : List Char} (htrim : Text.trimChars layout.text = layout.text)
    (h : single? layout.text = some inner) : ∃ link, layout.links = [link] ∧ link.literal = [] ∧
      (layout.last = [] ∧ inner = link.inner ∨
        layout.last = ['}'] ∧ inner = link.inner ++ ['}']) := by
  obtain ⟨htext, -, hclosing⟩ := single?_eq_some.mp h
  rw [htrim, List.append_assoc] at htext
  obtain ⟨links, last, hlast⟩ := layout
  cases links with
  | nil => exact absurd ⟨[], inner ++ closing, htext.symm⟩ hlast
  | cons link links =>
    have hsplit : Layout.text ⟨link :: links, last, hlast⟩ = link.literal ++ (opening ++
        (link.inner ++ (closing ++ (links.flatMap Link.text ++ last)))) := by
      simp [Layout.text, Link.text]
    rw [hsplit] at htext
    have hliteral : link.literal = [] := by
      by_contra hne
      exact not_isPrefix_append hne link.plain (fun hlast => absurd hlast link.apart)
        ⟨_, htext.symm⟩
    rw [hliteral, List.nil_append] at htext
    have htail := closing_overlap (List.append_cancel_left htext) hclosing
    have hbrace : '{' ∉ links.flatMap Link.text ++ last := by
      rcases htail with ⟨htail, -⟩ | ⟨htail, -⟩ <;> simp [htail]
    obtain rfl := links_eq_nil hbrace
    exact ⟨link, rfl, hliteral, htail⟩

/-- A template that overruns is taken for one reference, and the brace for a part of it. -/
theorem single?_overrun (htrim : Text.trimChars layout.text = layout.text)
    (hlinks : layout.links = [link]) (hliteral : link.literal = []) (hlast : layout.last = ['}']) :
    single? layout.text = some (link.inner ++ ['}']) := by
  have hcount : (link.inner ++ ['}']).count '}' = 1 := by
    simp [List.count_eq_zero.mpr link.braceless.2]
  refine single?_eq_some.mpr ⟨?_, fun h => ?_, fun h => ?_⟩
  · rw [htrim]
    simp [Layout.text, Link.text, hlinks, hliteral, hlast, closing]
  · have hmem : '{' ∈ link.inner ++ ['}'] := h.subset (by simp [opening])
    exact link.braceless.1 (by simpa using hmem)
  · have hle := h.sublist.count_le '}'
    rw [hcount] at hle
    exact absurd hle (by decide)

/-- A value in the place of a reference has the text that the reference shows as. -/
theorem text_getD_lookup (scope : Scope) (inner : List Char) :
    ((scope.lookup inner).getD .null).text = String.ofList (referenceText scope inner) := by
  unfold referenceText
  cases scope.lookup inner with
  | none => rfl
  | some v => exact String.ofList_toList.symm

/-- Without an opening mark there are no references, and a text is rendered to itself. -/
theorem render_of_not_contains (scope : Scope) (h : ¬ opening <:+: layout.text) :
    render scope (String.ofList layout.text) = String.ofList layout.text := by
  have hlinks : layout.links = [] := by
    cases hl : layout.links with
    | nil => rfl
    | cons link links =>
      refine absurd ⟨link.literal, link.inner ++ closing ++ (links.flatMap Link.text ++
        layout.last), ?_⟩ h
      simp [Layout.text, Link.text, hl]
  rw [render_text]
  simp [Layout.text, Layout.fill, hlinks]

/-- **An operand has the same text whether it is resolved or rendered**, if there are no blanks
around it and it does not overrun. In an operand that does, the closing brace is taken for the last
character of the reference. -/
theorem text_resolve_layout (scope : Scope) (layout : Layout)
    (htrim : Text.trimChars layout.text = layout.text) :
    (¬ layout.IsOverrun → (scope.resolve (.str (String.ofList layout.text))).text =
      render scope (String.ofList layout.text)) ∧
    ∀ link, layout.links = [link] → link.literal = [] → layout.last = ['}'] →
      scope.Shows (link.inner ++ ['}'])
        (scope.resolve (.str (String.ofList layout.text))).text.toList := by
  unfold Scope.resolve
  simp only [String.toList_ofList, Text.containsChars_iff]
  constructor
  · intro hoverrun
    cases hsingle : single? layout.text with
    | none =>
      simp only
      split_ifs with h
      · rfl
      · exact (render_of_not_contains scope h).symm
    | some inner =>
      obtain ⟨link, hlinks, hliteral, ⟨hlast, rfl⟩ | ⟨hlast, -⟩⟩ := links_of_single? htrim hsingle
      · simp only
        rw [text_getD_lookup, render_text]
        simp [Layout.fill, hlinks, hliteral, hlast]
      · exact absurd ⟨link, hlinks, hliteral, hlast⟩ hoverrun
  · intro link hlinks hliteral hlast
    rw [single?_overrun htrim hlinks hliteral hlast]
    simp only
    rw [text_getD_lookup, String.toList_ofList]
    exact Scope.shows_iff.mpr rfl

/-- One reference with a closing brace behind it. -/
def overrun : Layout where
  links := [⟨[], "input".toList, by decide, by decide, by decide, by decide⟩]
  last := ['}']
  plain := by decide

theorem text_resolve_layout_overrun :
    let scope : Scope := ⟨.int 7, .null, []⟩
    Text.trimChars greeting.text = greeting.text ∧ ¬ greeting.IsOverrun ∧
      (scope.resolve (.str (String.ofList greeting.text))).text = "hi 7!" ∧
    Text.trimChars overrun.text = overrun.text ∧
      scope.Shows ("input".toList ++ ['}'])
        (scope.resolve (.str (String.ofList overrun.text))).text.toList := by
  intro scope
  have hgreeting : Text.trimChars greeting.text = greeting.text := by decide
  have hoverrun : Text.trimChars overrun.text = overrun.text := by decide
  have htwo : ¬ greeting.IsOverrun := by
    rintro ⟨link, hlinks, -⟩
    cases congrArg List.length hlinks
  obtain ⟨hrendered, -⟩ := text_resolve_layout scope greeting hgreeting
  obtain ⟨-, hshown⟩ := text_resolve_layout scope overrun hoverrun
  exact ⟨hgreeting, htwo, (hrendered htwo).trans (by decide), hoverrun, hshown _ rfl rfl rfl⟩

/-- Resolved, that operand is null, but it is rendered as a text with a brace. -/
theorem not_text_resolve_overrun :
    ¬ ∀ (scope : Scope) (layout : Layout), Text.trimChars layout.text = layout.text →
      (scope.resolve (.str (String.ofList layout.text))).text =
        render scope (String.ofList layout.text) := by
  intro h
  exact absurd (h ⟨.int 7, .null, []⟩ overrun (by decide)) (by decide)

end FlowGraph.Template

import FlowGraph.Pattern

/-! # Patterns of field values

The condition on a field in a log filter may be a regular expression. This notation is wider than
that of `Pattern.parse?`: classes may be nested and joined by `&&`, `--` and `~~`, and a repetition
may be repeated. It knows no tables of characters: the classes `\d`, `\s`, `\w`, word boundaries and
the flag `i` are only for patterns about bytes, after `(?-u)`, and these must not match bytes that
are no text.

The text of a condition has no comma, no equals sign and no closing brace, so there is no repetition
with bounds and no code in braces. `FieldPattern.isValid` says whether a text is such a pattern. -/

namespace FlowGraph

namespace FieldPattern

open Pattern.Grammar (Flags)

/-- How deep the parts of a pattern may be nested. -/
def nestLimit : Nat := 250

/-- How deep parts side by side are nested: one alone adds nothing. -/
def heightOf : List Nat → Nat
  | [] => 0
  | [h] => h
  | hs => hs.foldl max 0 + 1

/-! ### Escapes -/

/-- What an escape stands for. -/
inductive Escaped where
  /-- A character; `isByte` if two digits give its code. -/
  | char (c : Char) (isByte : Bool)
  /-- A class of one letter; a capital stands for all other characters. -/
  | letterClass (negated : Bool)
  | textEdge
  | wordEdge

/-- A character by its code, with a fixed count of digits. -/
def hexChar (f : Flags) (count : Nat) (cs : List Char) : Option (Escaped × List Char) := do
  let (n, rest) ← Pattern.Grammar.hexFixed f count 0 (f.drop cs)
  let c ← Pattern.Grammar.charOf? n
  some (.char c (count == 2), rest)

/-- An escape after its backslash. -/
def escape (f : Flags) : List Char → Option (Escaped × List Char)
  | [] => none
  | c :: cs =>
    if c = 'x' then hexChar f 2 cs
    else if c = 'u' then hexChar f 4 cs
    else if c = 'U' then hexChar f 8 cs
    else if c = 'd' ∨ c = 's' ∨ c = 'w' then some (.letterClass false, cs)
    else if c = 'D' ∨ c = 'S' ∨ c = 'W' then some (.letterClass true, cs)
    else if c = 'A' ∨ c = 'z' then some (.textEdge, cs)
    else if c = 'b' ∨ c = 'B' ∨ c = '<' ∨ c = '>' then some (.wordEdge, cs)
    else if Pattern.Grammar.isEscapable c then some (.char c false, cs)
    else (Pattern.Grammar.controlChars.lookup c).map fun control => (.char control false, cs)

/-- Whether a character is allowed by itself: a byte beyond the first 128 is no text. -/
def isCharAllowed (f : Flags) (c : Char) (isByte : Bool) : Bool :=
  if f.unicode then !f.ignoreCase else !isByte || c.toNat < 0x80

/-- Whether a character is allowed in a class. -/
def isItemAllowed (f : Flags) (c : Char) : Bool :=
  if f.unicode then !f.ignoreCase else c.toNat < 0x80

/-- Whether all characters but some are allowed. -/
def isNegationAllowed (f : Flags) (negated : Bool) : Bool := f.unicode || !negated

/-- Whether an escape is allowed by itself. -/
def Escaped.isAllowed (f : Flags) : Escaped → Bool
  | .char c isByte => isCharAllowed f c isByte
  | .letterClass negated => !f.unicode && !negated
  | .textEdge => true
  | .wordEdge => !f.unicode

/-- Whether an escape is allowed in a class. -/
def Escaped.isItem (f : Flags) : Escaped → Bool
  | .char c _ => isItemAllowed f c
  | .letterClass negated => !f.unicode && !negated
  | _ => false

/-! ### Classes -/

/-- A character or an escape inside a class. -/
def classItem (f : Flags) : List Char → Option (Escaped × List Char)
  | [] => none
  | c :: cs => if c = '\\' then escape f cs else some (.char c false, cs)

/-- What follows an item of a class, or a range between two. -/
def afterRange? (f : Flags) (cs : List Char) : Option (List Char) := do
  let (first, afterFirst) ← classItem f cs
  let rest := f.drop afterFirst
  if rest.isEmpty then none
  else if Pattern.Grammar.startsRange f rest then
    match first, ← classItem f (f.drop (rest.drop 1)) with
    | .char lo _, (.char hi _, after) =>
      if lo ≤ hi ∧ isItemAllowed f lo ∧ isItemAllowed f hi then some after else none
    | _, _ => none
  else if first.isItem f then some rest
  else none

/-- Whether a named class, which starts with `^` if it stands for all other characters, is allowed. -/
def isNameAllowed (f : Flags) (cs : List Char) : Bool :=
  isNegationAllowed f (cs.head? == some '^') && !(f.unicode && f.ignoreCase)

/-- The front of a class after its opening bracket: whether it is negated, how many characters stand
for themselves, and what follows. -/
def classFront (f : Flags) (cs : List Char) : Bool × Nat × List Char :=
  let (negated, inner) := match f.drop cs with
    | '^' :: rest => (true, f.drop rest)
    | rest => (false, rest)
  let (dashes, rest) := Pattern.Grammar.leadingDashes f inner.length [] inner
  match dashes, rest with
  | [], ']' :: rest => (negated, 1, f.drop rest)
  | dashes, rest => (negated, dashes.length, rest)

/-- Joins what stands before a mark such as `&&` to what stands after it. -/
def joined (left : Option Nat) (right : Nat) : Nat :=
  match left with
  | none => right
  | some l => max l right + 1

/-- A class after its opening bracket: how deep it is nested, and what follows. `body` reads what is
after the front of the class, given how deep the items of the front are nested. -/
def classWith (f : Flags) (body : List Nat → List Char → Option (Nat × List Char))
    (cs : List Char) : Option (Nat × List Char) := do
  let (negated, count, inner) := classFront f cs
  let (height, after) ← body (List.replicate count 0) inner
  if isNegationAllowed f negated ∧ (count = 0 ∨ isItemAllowed f '-') then some (height, after)
  else none

/-- A class after its front: how deep it is nested, and what follows its closing bracket. `left` is
what stands before the last mark that joins classes, `items` what was read after it. -/
def classRest (f : Flags) : Nat → Option Nat → List Nat → List Char → Option (Nat × List Char)
  | 0, _, _, _ => none
  | fuel + 1, left, items, cs =>
    match f.drop cs with
    | [] => none
    | c :: rest =>
      if c = ']' then some (joined left (heightOf items) + 1, rest)
      else if c = '[' then
        match Pattern.Grammar.namedClass rest with
        | some (_, after) =>
          if isNameAllowed f (rest.drop 1) then classRest f fuel left (0 :: items) after else none
        | none => do
          let (height, after) ← classWith f (classRest f fuel none) rest
          classRest f fuel left (height :: items) after
      else if Pattern.Grammar.joinsClasses (c :: rest) then
        classRest f fuel (some (joined left (heightOf items))) [] (rest.drop 1)
      else do
        let after ← afterRange? f (c :: rest)
        classRest f fuel left (0 :: items) after

/-! ### Groups and alternatives -/

/-- A part of a pattern under construction: how deep it is nested, and whether it can be repeated. -/
structure Part where
  height : Nat
  isRepeatable : Bool

/-- Repeats the last part. -/
def repeatLast : List Part → Option (List Part)
  | [] => none
  | p :: parts => if p.isRepeatable then some (⟨p.height + 1, true⟩ :: parts) else none

/-- How deep parts one after another are nested. -/
def heightOfParts (parts : List Part) : Nat := heightOf (parts.map (·.height))

/-- The alternatives up to the end of the text or, in a group, up to its end: how deep they are
nested, the names of the groups so far, and what follows. -/
def alternatives : Nat → Bool → Flags → List (List Char) → List Nat → List Part → List Char →
    Option (Nat × List (List Char) × List Char)
  | 0, _, _, _, _, _, _ => none
  | fuel + 1, inGroup, f, names, finished, parts, cs =>
    let height := heightOf (heightOfParts parts :: finished)
    match f.drop cs with
    | [] => if inGroup then none else some (height, names, [])
    | c :: rest =>
      let next (allowed : Bool) (after : List Char) :=
        if allowed then alternatives fuel inGroup f names finished (⟨0, true⟩ :: parts) after
        else none
      if c = ')' then if inGroup then some (height, names, rest) else none
      else if c = '|' then
        alternatives fuel inGroup f names (heightOfParts parts :: finished) [] rest
      else if c = '(' then
        let inner := f.drop rest
        let group (g : Flags) (names' : List (List Char)) (body : List Char) := do
          let (h, names'', after) ← alternatives fuel true g names' [] [] body
          alternatives fuel inGroup f names'' finished (⟨h + 1, true⟩ :: parts) after
        if Pattern.Grammar.looksAround inner then none
        else match Pattern.Grammar.namedGroup? inner with
          | some named => do
            let (name, body) ← Pattern.Grammar.groupName true [] named
            if names.contains name then none else group f (name :: names) body
          | none => match inner with
            | '?' :: letters => do
              let (g, after) ← Pattern.Grammar.flagLetters f false [] false letters
              match after with
              | ')' :: behind =>
                if letters.length = after.length then none
                else alternatives fuel inGroup g names finished (⟨0, false⟩ :: parts) behind
              | ':' :: body => group g names body
              | _ => none
            | body => group f names body
      else if c = '[' then do
        let (h, after) ← classWith f (classRest f fuel none) rest
        alternatives fuel inGroup f names finished (⟨h, true⟩ :: parts) after
      else if c = '?' ∨ c = '*' ∨ c = '+' then do
        let parts' ← repeatLast parts
        alternatives fuel inGroup f names finished parts' (Pattern.Grammar.dropLazyMark rest)
      else if c = '{' then none
      else if c = '\\' then do
        let (e, after) ← escape f rest
        next (e.isAllowed f) after
      else if c = '.' then next f.unicode rest
      else if c = '^' ∨ c = '$' then next true rest
      else next (isCharAllowed f c false) rest

/-- Whether a text without a comma, an equals sign or a closing brace is a pattern. -/
def isValid (cs : List Char) : Bool :=
  match alternatives (2 * cs.length + 2) false .start [] [] [] cs with
  | some (height, _, _) => height ≤ nestLimit
  | none => false

end FieldPattern

end FlowGraph

import FlowGraph.Json.Loose
import FlowGraph.Pattern
import FlowGraph.Pattern.Automaton

/-! # Conditions

The comparison of two operands. Two operands that are both numeric compare as numbers, all others
by their texts; booleans are numbers only where order is asked for. A name that is no operator, an
operand without a number in an ordering, and a text that is no pattern make the comparison false. -/

namespace FlowGraph

namespace Condition

/-- The comparisons. -/
inductive Operator where
  | equals | notEquals | contains | notContains | startsWith | endsWith
  | greaterThan | lessThan | greaterThanOrEqual | lessThanOrEqual
  | isEmpty | isNotEmpty | isTrue | isFalse | regex
deriving DecidableEq

/-- The operators by name. -/
def operators : List (String × Operator) := [
  ("equals", .equals), ("not_equals", .notEquals), ("contains", .contains),
  ("not_contains", .notContains), ("starts_with", .startsWith), ("ends_with", .endsWith),
  ("greater_than", .greaterThan), ("less_than", .lessThan),
  ("greater_than_or_equal", .greaterThanOrEqual), ("less_than_or_equal", .lessThanOrEqual),
  ("is_empty", .isEmpty), ("is_not_empty", .isNotEmpty), ("is_true", .isTrue),
  ("is_false", .isFalse), ("regex", .regex)]

/-- The operator of a name. -/
def Operator.ofName? (name : String) : Option Operator := operators.lookup name

/-- The number of an operand of an equality. -/
def numeric? : Json → Option Double
  | .bool _ => none
  | j => j.number?

/-- Equality of operands. -/
def looseEq (a b : Json) : Bool :=
  match numeric? a, numeric? b with
  | some x, some y => x.eq y
  | _, _ => a.text == b.text

/-- Whether an array has an item, an object a field or a text a part. -/
def holds (container part : Json) : Bool :=
  match container with
  | .arr items => items.any fun item => looseEq item part
  | .obj fields => Fields.contains fields part.text
  | j => Text.contains j.text part.text

/-- An ordering of operands that are both numbers. -/
def ordered (order : Double → Double → Bool) (a b : Json) : Bool :=
  match a.number?, b.number? with
  | some x, some y => order x y
  | _, _ => false

/-- Whether a pattern is found in a text. -/
def matchesPattern (subject pattern : Json) : Bool :=
  match Pattern.parse? pattern.text with
  | some p => p.isFoundIn subject.text
  | none => false

/-- One comparison. -/
def Operator.eval (op : Operator) (a b : Json) : Bool :=
  match op with
  | equals => looseEq a b
  | notEquals => !looseEq a b
  | contains => holds a b
  | notContains => !holds a b
  | startsWith => Text.startsWith a.text b.text
  | endsWith => Text.endsWith a.text b.text
  | greaterThan => ordered (fun x y => y.lt x) a b
  | lessThan => ordered Double.lt a b
  | greaterThanOrEqual => ordered (fun x y => y.le x) a b
  | lessThanOrEqual => ordered Double.le a b
  | isEmpty => !a.isTruthy
  | isNotEmpty => a.isTruthy
  | isTrue => a.isTruthy
  | isFalse => !a.isTruthy
  | regex => matchesPattern a b

end Condition

/-- A comparison by the name of its operator. -/
def evaluate (left : Json) (operator : String) (right : Json) : Bool :=
  match Condition.Operator.ofName? operator with
  | some op => op.eval left right
  | none => false

end FlowGraph

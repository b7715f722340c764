import FlowGraph.Json.Basic

/-! # Metrics

The counters of a process: runs by their outcome, node executions by type and outcome, and changes
of breakers by the state they go to. `Metrics.lines` writes every counter that was ever raised. -/

namespace FlowGraph

/-- What is counted. -/
inductive Counter where
  | run (status : String)
  | node (tag status : String)
  | transition (state : String)
deriving DecidableEq

namespace Counter

/-- The value of a label with the characters that would end it escaped. -/
def labelValue (s : String) : String :=
  String.ofList (s.toList.flatMap fun c =>
    if c = '\\' then ['\\', '\\']
    else if c = '"' then ['\\', '"']
    else if c = '\n' then ['\\', 'n']
    else [c])

/-- A name with its labels. -/
def series (name : String) (labels : List (String × String)) : String :=
  name ++ String.singleton '{' ++
    ",".intercalate (labels.map fun l => l.1 ++ "=\"" ++ labelValue l.2 ++ "\"") ++
    String.singleton '}'

/-- The name and the labels of a counter. -/
def text : Counter → String
  | run status => series "nodeflow_runs_total" [("status", status)]
  | node tag status =>
    series "nodeflow_nodes_executed_total" [("node_type", tag), ("status", status)]
  | transition state => series "nodeflow_circuit_transitions_total" [("to", state)]

end Counter

/-- The counters and how often each was raised. -/
structure Metrics where
  counts : List (Counter × Nat) := []

namespace Metrics

/-- Adds one to a counter. -/
def count (m : Metrics) (c : Counter) : Metrics :=
  let rec go : List (Counter × Nat) → List (Counter × Nat)
    | [] => [(c, 1)]
    | (d, n) :: rest => if d = c then (d, n + 1) :: rest else (d, n) :: go rest
  ⟨go m.counts⟩

/-- One line for every counter. -/
def lines (m : Metrics) : List String := m.counts.map fun p => p.1.text ++ " " ++ toString p.2

end Metrics

end FlowGraph

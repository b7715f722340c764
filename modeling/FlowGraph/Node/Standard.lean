import FlowGraph.Node.Data
import FlowGraph.Node.Flow
import FlowGraph.Node.Request

/-! # The standard registry

The handlers of the built-in kinds. Requests travel by the transport of the embedding program, and
waits pass as it says. -/

namespace FlowGraph

/-- The handler of nested workflows. -/
def subWorkflowHandler (σ : Type) : Handler σ :=
  { tag := "sub_workflow"
    description := "Execute a nested workflow and wait for it to finish"
    behaviour := .subWorkflow }

/-- The handlers of the built-in kinds. -/
def standardHandlers {σ : Type} (t : Transport σ) (pause : Pause) : List (Handler σ) := [
  Trigger.handler σ "manual_trigger" "Start a run manually",
  Trigger.handler σ "webhook_trigger" "Start a run from an inbound webhook payload",
  Trigger.handler σ "schedule_trigger" "Start a run on a schedule",
  IfElse.handler σ, Switch.handler σ, Loop.handler σ, ErrorHandler.handler σ,
  SetFields.handler σ, Delay.handler σ pause, RequestNode.handler t, WebhookNode.handler t,
  subWorkflowHandler σ]

/-- The registry of the built-in kinds. -/
def Registry.standard {σ : Type} (t : Transport σ) (pause : Pause := .instant) : Registry σ :=
  .ofHandlers (standardHandlers t pause)

end FlowGraph

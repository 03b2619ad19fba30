import Outline.Tree.Visitor

/-!
# Tracing visits

A visitor that records which operation every node was handed to, in visiting order. It
collects the labels of the nodes it passed, refuses nodes with a given label, and can be
told not to go below nodes of given types.
-/

namespace Outline

/-- What a tracing visitor reacts to. -/
structure TracePlan where
  /-- Labels of nodes at which the visit fails. -/
  refused : List String := []
  /-- Names of kinds below which the visit does not go. -/
  stops : List String := []
  /-- Names of the specialized operations that are traced as themselves. -/
  specialized : List String := []

/-- The visit came to a node it was told to refuse. -/
structure Refusal where
  /-- The label of the node. -/
  label : String
  /-- How many labels had been collected. -/
  collected : Nat

namespace Refusal

/-- The text that reports a refusal. -/
def message (refusal : Refusal) : String :=
  "refused " ++ refusal.label ++ " after " ++ toString refusal.collected

end Refusal

namespace TracePlan

/-- Records the call, refuses or collects the label, and goes down unless told to stop. -/
def traced (plan : TracePlan) (name : String) :
    Operation (List String) Refusal (List String) :=
  fun node descend labels calls =>
    let calls := calls ++ [name ++ ":" ++ node.label]
    if plan.refused.contains node.label then
      (.error ⟨node.label, labels.length⟩, calls)
    else
      let labels := labels ++ [node.label]
      if plan.stops.contains node.item.name then (.ok labels, calls)
      else descend labels calls

/-- The operation traced under its own name if the plan names it, and the general one
    otherwise. -/
def special (plan : TracePlan) (name : String) :
    Operation (List String) Refusal (List String) :=
  plan.traced (if plan.specialized.contains name then name else "node")

/-- The visitor that follows a plan. -/
def visitor (plan : TracePlan) : Visitor (List String) Refusal (List String) where
  node := plan.traced "node"
  start := plan.special "start"
  add := plan.special "add"
  multiply := plan.special "multiply"
  identifier := plan.special "identifier"
  integer := plan.special "integer"

end TracePlan

end Outline

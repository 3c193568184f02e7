import StackCode.Verify.Walk

/-!
# Tracing a walk

A rule that makes a remark at every node it is handed, to show what a set of
subscriptions selects.

Main definition: `trace`.
-/

namespace StackCode.Verify

/-- The remark about a node: an error for the module, a warning for anything else. -/
def remarkOn (position : Position) : Node → List Finding
  | .module => [.remark .error ("module " ++ position.module.name)]
  | .definition definition =>
    [.remark .warning (definition.kindName ++ " " ++ idText definition.id)]
  | .instruction index instruction =>
    match position.routine? with
    | some routine =>
      [.remark .warning (routine.name ++ " " ++ idText routine.id ++ " " ++ toString index ++
        " " ++ instruction.opcode.mnemonic)]
    | none => []

/-- The rule that remarks on every node that matches the subscriptions. -/
def trace (subscriptions : List Subscription) : Rule where
  name := "trace"
  subscriptions
  check := remarkOn

end StackCode.Verify

import DecompilerBridge.Script.Interpreter
import DecompilerBridge.World

/-!
# Probes

Probing the bridge: single expressions evaluated in a lasting engine, outside any run.
-/

set_option autoImplicit false

namespace DecompilerBridge.Probe

open Script

/-- The statements that give back the text of an expression, or name and message of what it throws.
-/
def statements (e : Expr) : List Stmt :=
  [.tryCatch [.giveBack (.call (.read "String") [e])]
    [.giveBack (.concat
      [.member (.read "caught") "name", .ofString ": ", .member (.read "caught") "message"])]]

/-- The text of an expression, or name and message of what it throws. -/
def textOf (i : Interpreter) (e : Expr) : Eval (Option String) := do
  match ← i.onStack fun self => runBlock self {} (statements e) with
  | .returned (.text s) => pure (Text.Units.toString? s).toOption
  | _ => pure none

/-- Evaluate an expression in an engine. There is no text if the evaluation itself is stopped. -/
def evaluate {η : Type} (i : Interpreter) (resolver : Resolver) (channel : Option (HostChannel η))
    (e : Expr) (engine : Live Engine) (w : World η) : Option String × Live Engine × World η :=
  let natives := (i.machine resolver).natives
  match Interaction.drive (World.answer channel) ((Bridge.within natives (textOf i e)).run engine) w
    with
  | (.ok (.ok text, after), world) => (text, after, world)
  | (.ok (.error _, after), world) => (none, after, world)
  | (.error _, world) => (none, engine, world)

end DecompilerBridge.Probe

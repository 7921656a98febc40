import TextMacro.Command.Basic

/-!
# Registries

A registry holds the commands that blocks may use, in the order in which they were registered. A new
registry has the two built-in commands. A name is registered only once, and only with an arity that
is not negative.
-/

namespace TextMacro

/-- The commands that blocks may use. -/
structure Registry where
  commands : List Command

/-- Why a command was not registered. -/
inductive RegistrationError where
  | duplicate (name : Text)
  | negativeArity (name : Text) (arity : Int)
  /-- The arity is no number. -/
  | arityForm (form : Form)
deriving DecidableEq, Repr

namespace RegistrationError

/-- The diagnostic for a refused registration. -/
def message : RegistrationError → String
  | duplicate name => "Command @" ++ String.ofList name ++ " is already registered"
  | negativeArity name arity =>
    "Command @" ++ String.ofList name ++ " has negative arity " ++ toString arity
  | arityForm form => (Misfit.compared "<" form .number).message

end RegistrationError

namespace Registry

/-- The registry of the built-in commands. -/
def builtin : Registry := ⟨[.definition, .inclusion]⟩

/-- The command of a name. -/
def find? (registry : Registry) (name : Text) : Option Command :=
  registry.commands.find? (·.name == name)

/-- The command that a value names. Only texts are names, but not every other value can be looked
up. -/
def lookup (registry : Registry) (name : Value) : Except Misfit (Option Command) :=
  match name with
  | .text name => .ok (registry.find? name)
  | .list _ | .table _ => .error (.asKey name.form)
  | _ => .ok none

/-- Add a command. -/
def register (registry : Registry) (command : Command) : Except RegistrationError Registry :=
  if (registry.find? command.name).isSome then .error (.duplicate command.name)
  else if command.arity < 0 then .error (.negativeArity command.name command.arity)
  else .ok ⟨registry.commands ++ [command]⟩

/-- Add a command with an arity of any form. -/
def registerWith (registry : Registry) (command : Command) (arity : Value) :
    Except RegistrationError Registry :=
  match arity.number? with
  | some number => registry.register { command with arity := number }
  | none =>
    if (registry.find? command.name).isSome then .error (.duplicate command.name)
    else .error (.arityForm arity.form)

/-- The registered names, in the order of their code points. -/
def names (registry : Registry) : List Text :=
  (registry.commands.map Command.name).mergeSort Text.isAtMost

end Registry

end TextMacro

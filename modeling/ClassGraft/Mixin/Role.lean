/-!
# Roles of mixin members

What a member of a mixin is for. Bodies of injectors are handlers; the kind of
injector decides the prefix under which a handler is renamed.
-/

namespace ClassGraft

/-- Kinds of injectors. -/
inductive Injector where
  | inject
  | redirect
  | modifyArg
  | modifyArgs
  | modifyVariable
  | modifyConstant
  deriving DecidableEq, Repr

/-- The word that names of handlers of this kind start with. -/
def Injector.handlerWord : Injector → String
  | inject => "handler"
  | redirect => "redirect"
  | modifyArg => "modify"
  | modifyArgs => "args"
  | modifyVariable => "localvar"
  | modifyConstant => "constant"

/-- Kinds of injectors have words of their own. -/
theorem Injector.handlerWord_injective {a b : Injector} (h : a.handlerWord = b.handlerWord) :
    a = b := by
  cases a <;> cases b <;> first | rfl | exact absurd h (by decide)

/-- What a member of a mixin is for. -/
inductive Role where
  /-- Copied into the target as it is. -/
  | plain
  /-- Stands for a member that the target has already. -/
  | shadow
  /-- Copied into the target, renamed if it would clash. -/
  | unique
  /-- Body of an injector, renamed so that it cannot clash. -/
  | handler (injector : Injector)
  /-- Replaces the member of the target. -/
  | overwrite
  deriving DecidableEq, Repr

/-- The injector whose body the member is. -/
def Role.injector? : Role → Option Injector
  | handler injector => some injector
  | _ => none

/-- Is the member the body of an injector? -/
def Role.isHandler (r : Role) : Bool := r.injector?.isSome

end ClassGraft

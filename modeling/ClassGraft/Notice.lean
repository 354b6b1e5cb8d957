import ClassGraft.Name.Class

/-!
# Notices

Records for a log: things worth telling that change no answer. Each notice names
what it is about; severity and wording follow from it.
-/

namespace ClassGraft

/-- How much a notice matters. -/
inductive Severity where
  | debug
  | warning
  | error
  deriving DecidableEq, Repr

/-- The word for a severity at the front of a record. -/
def Severity.label : Severity → String
  | debug => "DEBUG"
  | warning => "WARN"
  | error => "ERROR"

/-- A record for the log. Members are given by their signatures. -/
inductive Notice where
  /-- A class that is not declared was taken for a plain class. -/
  | interfaceUnknown (cls : ClassName)
  /-- The class behind a type was asked for. -/
  | liveLoading (type : Text)
  /-- A class received its id, which is also shown in letters. -/
  | classIdAssigned (id : Nat) (letters : Text) (cls : ClassName)
  | uniqueMethodNamed (name : Text) (target : ClassName)
  | uniqueFieldNamed (name : Text) (target : ClassName)
  /-- A handler is renamed anyway, so marking it unique says nothing. -/
  | redundantUnique (member : Text) (mixin : ClassName)
  | handlerConformed (handler : MemberName) (mixin : ClassName) (name : MemberName)
      (target : ClassName)
  | shadowNotFound (member : Text) (target : ClassName)
  | mutableIgnored (member : Text) (mixin : ClassName)
  | inlinableShadow (member : Text) (mixin : ClassName)
  | fieldExists (member : Text) (target : ClassName)
  | overwriting (member : Text) (target : ClassName)
  | mixinApplied (mixin target : ClassName) (methods renamed : Nat)
  | mixinRegistered (mixin ancestor : ClassName)
  deriving DecidableEq

namespace Notice

/-- How much the notice matters. -/
def severity : Notice → Severity
  | interfaceUnknown .. => .warning
  | liveLoading .. => .error
  | redundantUnique .. => .warning
  | shadowNotFound .. => .warning
  | mutableIgnored .. => .error
  | inlinableShadow .. => .warning
  | _ => .debug

/-- The wording of the notice. -/
def message : Notice → String
  | interfaceUnknown cls => s!"Cannot tell if {cls} is an interface, assuming it isn't"
  | liveLoading type =>
    let shown := Text.toStr type
    s!"Live-loading of {shown} attempted by the offline verifier"
  | classIdAssigned id letters cls =>
    let shown := Text.toStr letters
    s!"Assigned class id {id} ({shown}) to {cls}"
  | uniqueMethodNamed name target =>
    let shown := Text.toStr name
    s!"Allocated unique method name {shown} in {target}"
  | uniqueFieldNamed name target =>
    let shown := Text.toStr name
    s!"Allocated unique field name {shown} in {target}"
  | redundantUnique member mixin =>
    let shown := Text.toStr member
    s!"Redundant unique marker on injector handler {shown} in {mixin}"
  | handlerConformed handler mixin name target =>
    s!"Conformed handler {handler} of {mixin} to {name} in {target}"
  | shadowNotFound member target =>
    let shown := Text.toStr member
    s!"Shadow field {shown} was not located in the target interface {target}"
  | mutableIgnored member mixin =>
    let shown := Text.toStr member
    s!"Ignoring illegal @Mutable on {shown} in {mixin}"
  | inlinableShadow member mixin =>
    let shown := Text.toStr member
    s!"Shadow field {shown} in {mixin} has an inlinable constant value"
  | fieldExists member target =>
    let shown := Text.toStr member
    s!"Field {shown} already exists in {target}"
  | overwriting member target =>
    let shown := Text.toStr member
    s!"Overwriting {shown} in {target}"
  | mixinApplied mixin target methods renamed =>
    s!"Applied mixin {mixin} to {target} ({methods} methods, {renamed} renamed)"
  | mixinRegistered mixin ancestor =>
    s!"Registered mixin {mixin} under parent mixin {ancestor}"

/-- The record as one line of a log. -/
def render (n : Notice) : String :=
  let label := n.severity.label
  let text := n.message
  s!"{label} {text}"

end Notice

end ClassGraft

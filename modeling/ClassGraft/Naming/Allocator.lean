import ClassGraft.Mixin.Basic
import ClassGraft.Naming.Registry

/-!
# Allocating names in one target

An allocator names the members merged into one target. Unique members get the
next number of a counter that restarts with `reset`, when the target is
transformed again. Handlers get a name from the shared registry; the allocator
remembers it, so a handler that comes again, also after a reset, keeps its name.
-/

namespace ClassGraft

/-- What makes a handler the same handler: its mixin, its name and its type. -/
structure HandlerKey where
  mixin : ClassName
  name : MemberName
  type : MethodType ClassName
  deriving DecidableEq

/-- Names for the members merged into one target. The two counters are words of
32 bits that wrap around, as the occurrences of the registry do. -/
structure Allocator where
  target : ClassName
  /-- The number of the next unique method. -/
  nextMethod : UInt32 := 0
  /-- The number of the next unique field. -/
  nextField : UInt32 := 0
  /-- Handlers that have been named, with their names. -/
  conformed : List (HandlerKey × MemberName) := []
  deriving DecidableEq

namespace Allocator

/-- The allocator of a target for which nothing has been named. -/
def new (target : ClassName) : Allocator := { target := target }

/-- Start the counters of unique members over. Named handlers keep their names. -/
def reset (a : Allocator) : Allocator := { a with nextMethod := 0, nextField := 0 }

/-! ## Unique members -/

/-- The name of the unique method with a number. Either the declared name comes
first, so that what its start tells stays visible, or the mark of unique methods
does. -/
def uniqueMethodText (source : Option Text) (session name : Text) (keepsStart : Bool)
    (number : UInt32) : Text :=
  let space := Naming.sourceNamespace source
  let stripped := Naming.stripSource name space
  let tail := Naming.sessionTail session
  let digits := Text.hex number.toNat
  if keepsStart then
    let body := if space = [] then name else stripped ++ '$' :: space
    body ++ Text.ofString "_$md$" ++ tail ++ '$' :: digits
  else
    let body := if space = [] then name else space ++ '$' :: stripped
    Text.ofString "md" ++ tail ++ '$' :: body ++ '$' :: digits

/-- A name for a unique method that clashes with a method of the target. -/
def uniqueMethod (a : Allocator) (source : Option Text) (session name : Text)
    (keepsStart : Bool) : Text × Allocator :=
  (uniqueMethodText source session name keepsStart a.nextMethod,
    { a with nextMethod := a.nextMethod + 1 })

/-- The name of the unique field with a number. A source id in front of the
declared name stays. -/
def uniqueFieldText (source : Option Text) (session name : Text) (number : UInt32) : Text :=
  Text.ofString "fd" ++ Naming.sessionTail session ++ '$'
    :: Naming.sourceMark (Naming.sourceNamespace source) ++ name ++ '$' :: Text.hex number.toNat

/-- A name for a unique field that clashes with a field of the target. -/
def uniqueField (a : Allocator) (source : Option Text) (session name : Text) :
    Text × Allocator :=
  (uniqueFieldText source session name a.nextField, { a with nextField := a.nextField + 1 })

/-! ## Handlers -/

/-- The collision-free name of a handler in the target. -/
def handlerName (a : Allocator) (r : Registry) (source : Option Text)
    (word name descriptor : Text) (isSurrogate : Bool) : Text × Registry :=
  r.handlerName source word a.target name descriptor isSurrogate

/-- The name that a handler got earlier in the target. -/
def conformed? (a : Allocator) (key : HandlerKey) : Option MemberName :=
  a.conformed.lookup key

/-- What naming a handler comes to. -/
structure Conforming where
  /-- The name of the handler; none for a method that is no handler. -/
  outcome : Except NameError (Option MemberName)
  allocator : Allocator
  registry : Registry
  notices : List Notice

/-- Name an injector handler of a mixin, by the name that it got earlier or by a
new one from the registry. Other methods are left alone. -/
def conform (a : Allocator) (r : Registry) (mixin : Mixin) (handler : MixinMethod) :
    Conforming :=
  match handler.role.injector? with
  | none => { outcome := .ok none, allocator := a, registry := r, notices := [] }
  | some injector =>
    let redundant : List Notice :=
      if handler.isMarkedUnique then [.redundantUnique handler.signature mixin.name] else []
    let key : HandlerKey := ⟨mixin.name, handler.name, handler.type⟩
    match a.conformed? key with
    -- A handler seen before costs no number.
    | some name => { outcome := .ok (some name), allocator := a, registry := r, notices := redundant }
    | none =>
      let named := a.handlerName r mixin.sourceId (Text.ofString injector.handlerWord)
        handler.name.text handler.type.render handler.isSurrogate
      let numbered := r.classIdNotices a.target
      match MemberName.ofText named.1 with
      | .error fault =>
        { outcome := .error fault, allocator := a, registry := named.2
          notices := redundant ++ numbered }
      | .ok name =>
        { outcome := .ok (some name)
          allocator := { a with conformed := (key, name) :: a.conformed }
          registry := named.2
          notices := redundant ++ numbered ++
            [.handlerConformed handler.name mixin.name name a.target] }

/-! ## What stays -/

@[simp] theorem conformed?_reset (a : Allocator) (key : HandlerKey) :
    a.reset.conformed? key = a.conformed? key := rfl

@[simp] theorem target_reset (a : Allocator) : a.reset.target = a.target := rfl

/-- Handlers take no numbers from the counters of unique members. -/
theorem counters_conform (a : Allocator) (r : Registry) (mixin : Mixin) (handler : MixinMethod) :
    (a.conform r mixin handler).allocator.nextMethod = a.nextMethod ∧
      (a.conform r mixin handler).allocator.nextField = a.nextField := by
  unfold conform
  split
  · exact ⟨rfl, rfl⟩
  · dsimp only
    split
    · exact ⟨rfl, rfl⟩
    · split <;> exact ⟨rfl, rfl⟩

end Allocator

end ClassGraft

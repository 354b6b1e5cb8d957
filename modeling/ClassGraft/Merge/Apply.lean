import ClassGraft.Merge.Audit
import ClassGraft.Naming.Allocator

/-!
# Merging a mixin into its target

A mixin that passes the audit is merged in four stages: interfaces, shadowed
fields, new fields (classes only), methods. A merge goes from state to state;
the state holds the target, the names handed out so far, and the report. A stage
can fail only where a generated name is no member name, and then the state it
failed in is part of the answer: nothing is taken back.
-/

namespace ClassGraft

/-- A member that ended up under another name in the target. -/
structure Rename where
  declared : MemberName
  renamed : MemberName
  deriving DecidableEq

/-- What applying a mixin did to its target. -/
structure Report where
  addedInterfaces : List ClassName := []
  addedFields : List MemberName := []
  /-- Final names of the methods that were copied or put in the place of others. -/
  mergedMethods : List MemberName := []
  renamed : List Rename := []
  /-- Signatures of members that were left out on purpose. -/
  skipped : List Text := []
  /-- Did constructor code of the mixin go into constructors of the target? -/
  initialisersApplied : Bool := false
  deriving DecidableEq

/-- Where a merge stands. -/
structure MergeState where
  target : Target
  allocator : Allocator
  registry : Registry
  report : Report := {}
  notices : List Notice := []

/-- What applying a mixin comes to: a report or a failure, and the state in
which it was reached. -/
structure Applied where
  outcome : Except ApplyError Report
  target : Target
  allocator : Allocator
  registry : Registry
  notices : List Notice

namespace MergeState

/-- Add to the log. -/
def note (s : MergeState) (notices : List Notice) : MergeState :=
  { s with notices := s.notices ++ notices }

/-- Report a member that is left out. -/
def skip (s : MergeState) (signature : Text) : MergeState :=
  { s with report := { s.report with skipped := s.report.skipped ++ [signature] } }

/-- Report a member that got another name. -/
def rename (s : MergeState) (declared renamed : MemberName) : MergeState :=
  { s with report := { s.report with renamed := s.report.renamed ++ [⟨declared, renamed⟩] } }

/-- The failure of a merge in this state. -/
def failed (s : MergeState) (fault : NameError) : Applied :=
  { outcome := .error (.badName fault), target := s.target, allocator := s.allocator
    registry := s.registry, notices := s.notices }

end MergeState

namespace Merge

/-- A step of a merge: a further state, or a fault and the state it arose in. -/
abbrev Step := Except (NameError × MergeState) MergeState

/-! ## Interfaces -/

/-- Add one interface, unless the target has it or is it. -/
def addInterface (s : MergeState) (i : ClassName) : MergeState :=
  if i = s.target.name ∨ i ∈ s.target.interfaces then s
  else
    { s with
      target := s.target.pushInterface i
      report := { s.report with addedInterfaces := s.report.addedInterfaces ++ [i] } }

/-- Add the interfaces of a mixin. -/
def addInterfaces (mixin : Mixin) (s : MergeState) : MergeState :=
  mixin.interfaces.foldl addInterface s

/-! ## Shadowed fields -/

/-- What a shadow leaves in the log of a merge into an interface. -/
def shadowNotices (mixin : Mixin) (target : Target) (f : MixinField) : List Notice :=
  match target.field? f.name f.type with
  | none => [.shadowNotFound f.signature target.name]
  | some _ =>
    (if f.isMutable then [.mutableIgnored f.signature mixin.name] else [])
      ++ if f.hasConstant then [.inlinableShadow f.signature mixin.name] else []

/-- Merge one shadow: in a class, a writable one takes the final flag off the
field that it stands for; in an interface, nothing changes. -/
def mergeShadow (mixin : Mixin) (s : MergeState) (f : MixinField) : MergeState :=
  match s.target.kind with
  | .interface => s.note (shadowNotices mixin s.target f)
  | .cls => if f.isMutable then { s with target := s.target.unfinaliseField f.name f.type } else s

/-- Merge the shadows among the fields of a mixin. -/
def mergeShadows (mixin : Mixin) (s : MergeState) : MergeState :=
  (mixin.fields.filter fun f => f.role = .shadow).foldl (mergeShadow mixin) s

/-! ## New fields -/

/-- Add a field under a name that nothing in the target has, or that was made
for it. -/
def pushField (s : MergeState) (f : MixinField) (name : MemberName) : MergeState :=
  { s with
    target := s.target.pushField ⟨name, f.type, f.flags⟩
    report := { s.report with addedFields := s.report.addedFields ++ [name] } }

/-- Merge one new field. Where the name is taken, a unique field gets another
one, and any other field is left out. -/
def mergeField (settings : Settings) (mixin : Mixin) (s : MergeState) (f : MixinField) : Step :=
  if s.target.hasFieldNamed f.name then
    if f.role = .unique then
      let named := s.allocator.uniqueField mixin.sourceId settings.session f.name.text
      let s := { s.note [.uniqueFieldNamed named.1 s.allocator.target] with allocator := named.2 }
      match MemberName.ofText named.1 with
      | .error fault => .error (fault, s)
      | .ok name => .ok (pushField (s.rename f.name name) f name)
    else .ok ((s.note [.fieldExists f.signature s.target.name]).skip f.signature)
  else .ok (pushField s f f.name)

/-- Merge the fields of a mixin that are no shadows. -/
def mergeFields (settings : Settings) (mixin : Mixin) (s : MergeState) : Step :=
  (mixin.fields.filter fun f => f.role ≠ .shadow).foldlM (mergeField settings mixin) s

/-! ## Methods -/

/-- The method under its final name takes the place of what has that name and
type in the target, or is added. -/
def putMethod (mixin : Mixin) (s : MergeState) (m : MixinMethod) (name : MemberName) :
    MergeState :=
  { s with
    target := s.target.putMethod
      { name := name, type := m.type, flags := m.flags, mergedFrom := some mixin.name }
    report := { s.report with mergedMethods := s.report.mergedMethods ++ [name] } }

/-- Put a method under a name that differs from the one it was written with. -/
def putRenamed (mixin : Mixin) (s : MergeState) (m : MixinMethod) (name : MemberName) :
    MergeState :=
  putMethod mixin (s.rename m.name name) m name

/-- Merge a method that clashes with one of the target under a name of its own. -/
def mergeUnique (settings : Settings) (mixin : Mixin) (s : MergeState) (m : MixinMethod)
    (keepsStart : Bool) : Step :=
  let named := s.allocator.uniqueMethod mixin.sourceId settings.session m.name.text keepsStart
  -- The number is used up even if the name turns out to be none.
  let s := { s.note [.uniqueMethodNamed named.1 s.allocator.target] with allocator := named.2 }
  match MemberName.ofText named.1 with
  | .error fault => .error (fault, s)
  | .ok name => .ok (putRenamed mixin s m name)

/-- Merge a handler under its collision-free name. -/
def mergeHandler (mixin : Mixin) (s : MergeState) (m : MixinMethod) : Step :=
  let c := s.allocator.conform s.registry mixin m
  let s := { s.note c.notices with allocator := c.allocator, registry := c.registry }
  match c.outcome with
  | .error fault => .error (fault, s)
  | .ok (some name) => .ok (putRenamed mixin s m name)
  | .ok none => .ok (putMethod mixin s m m.name)

/-- Merge a method that has a place in the target: handlers are renamed always,
unique and synthetic methods where they clash, and everything else replaces what
it clashes with. -/
def mergeBody (settings : Settings) (mixin : Mixin) (s : MergeState) (m : MixinMethod) : Step :=
  let clashes := s.target.hasMethod m.name m.type
  match m.role with
  | .handler _ => mergeHandler mixin s m
  | .unique =>
    if clashes then mergeUnique settings mixin s m false else .ok (putMethod mixin s m m.name)
  | role =>
    if clashes then
      if role = .plain && m.flags.isSynthetic then mergeUnique settings mixin s m true
      else .ok (putMethod mixin (s.note [.overwriting m.signature s.target.name]) m m.name)
    else .ok (putMethod mixin s m m.name)

/-- Merge one method. Shadows are there already; constructors of a mixin end up
in those of a class, and an interface takes neither them nor static initialisers. -/
def mergeMethod (settings : Settings) (mixin : Mixin) (s : MergeState) (m : MixinMethod) : Step :=
  if m.role = .shadow then .ok s
  else if m.name = .constructor then
    if s.target.isInterface then .ok (s.skip m.signature)
    else .ok { s with report := { s.report with initialisersApplied := true } }
  else if m.name = .staticInitialiser && s.target.isInterface then .ok (s.skip m.signature)
  else mergeBody settings mixin s m

/-- Merge the methods of a mixin, as they were prepared for the target. -/
def mergeMethods (settings : Settings) (mixin : Mixin) (methods : List MixinMethod)
    (s : MergeState) : Step :=
  methods.foldlM (mergeMethod settings mixin) s

/-! ## The whole merge -/

/-- All stages of a merge. -/
def mergeAll (settings : Settings) (mixin : Mixin) (methods : List MixinMethod)
    (s : MergeState) : Step := do
  let s := mergeShadows mixin (addInterfaces mixin s)
  let s ← match s.target.kind with
    | .cls => mergeFields settings mixin s
    | .interface => .ok s
  mergeMethods settings mixin methods s

/-- Merge a mixin into its target, if the audit finds no fault. -/
def apply (settings : Settings) (target : Target) (mixin : Mixin) (allocator : Allocator)
    (registry : Registry) : Applied :=
  let refuse (errors : List MergeError) : Applied :=
    { outcome := .error (.rejected errors), target, allocator, registry, notices := [] }
  match audit settings target.kind mixin with
  | e :: es => refuse (e :: es)
  | [] =>
    match prepareMethods settings target.kind mixin with
    | .error fault => refuse [fault]
    | .ok methods =>
      match mergeAll settings mixin methods { target, allocator, registry } with
      | .error (fault, s) => s.failed fault
      | .ok s =>
        let s := s.note [.mixinApplied mixin.name s.target.name s.report.mergedMethods.length
          s.report.renamed.length]
        { outcome := .ok s.report, target := s.target, allocator := s.allocator
          registry := s.registry, notices := s.notices }

/-! ## Small facts about the state -/

@[simp] theorem target_note (s : MergeState) (ns : List Notice) : (s.note ns).target = s.target :=
  rfl

@[simp] theorem target_skip (s : MergeState) (sig : Text) : (s.skip sig).target = s.target := rfl

@[simp] theorem target_rename (s : MergeState) (a b : MemberName) :
    (s.rename a b).target = s.target := rfl

/-- A mixin that the audit rejects changes nothing. -/
theorem apply_of_audit_ne_nil {settings : Settings} {target : Target} {mixin : Mixin}
    {allocator : Allocator} {registry : Registry} (h : audit settings target.kind mixin ≠ []) :
    apply settings target mixin allocator registry
      = { outcome := .error (.rejected (audit settings target.kind mixin))
          target, allocator, registry, notices := [] } := by
  unfold apply
  cases haudit : audit settings target.kind mixin with
  | nil => exact absurd haudit h
  | cons e es => rfl

end Merge

end ClassGraft

import ClassGraft.Proofs.Merge.Outcome
import ClassGraft.Proofs.Merge.Placement

/-!
# Which methods survive a merge

A method that came from elsewhere than the mixin should be replaced only where the
mixin says so. That holds as long as methods keep their names, which are checked
against the target. A generated name is not, and if the target has a method with
that name and type, the method is lost.

The main statement gives the exact condition, for every site that a run of events
leads to. It needs two facts about each method that is put: one that replaces what it
clashes with keeps its name, and any other keeps it only where it clashes with
nothing and has a generated name otherwise. All generated names hold a dollar sign,
so methods without one in their names are safe.
-/

namespace ClassGraft

/-- The method as it stands in the target under its final name. -/
def MixinMethod.placed (mixin : Mixin) (m : MixinMethod) (name : MemberName) : TargetMethod :=
  { name := name, type := m.type, flags := m.flags, mergedFrom := some mixin.name }

/-- The methods of the mixin that have a place, each with its final name. -/
def Report.placements (report : Report) (kind : TargetKind) (mixin : Mixin) :
    List (MixinMethod × MemberName) :=
  (mixin.methods.filter (·.isPlaced kind)).zip report.mergedMethods

/-- A final name is one that the rules allow for the method in this target, whose
allocator is that of `owner`. -/
def Target.Admits (t : Target) (owner : ClassName) (p : MixinMethod × MemberName) : Prop :=
  (p.1.replaces = true → p.2 = p.1.name) ∧
    (p.1.replaces = false → IsGenerated owner p.1.name p.1.type p.2.text ∨
      (p.2 = p.1.name ∧ t.hasMethod p.2 p.1.type = false))

/-- What is allowed in a target was allowed before methods were added to it. -/
theorem Target.Admits.of_isPrefix {t t' : Target} {owner : ClassName}
    {p : MixinMethod × MemberName} (h : t'.Admits owner p)
    (hkeys : t.methodKeys <+: t'.methodKeys) : t.Admits owner p := by
  refine ⟨h.1, ?_⟩
  intro hreplaces
  rcases h.2 hreplaces with hgenerated | ⟨hname, hfree⟩
  · exact Or.inl hgenerated
  · refine Or.inr ⟨hname, ?_⟩
    by_contra hclash
    have hmem := hkeys.subset ((t.hasMethod_iff p.2 p.1.type).mp (by simpa using hclash))
    rw [← t'.hasMethod_iff, hfree] at hmem
    cases hmem

namespace Merge

variable {settings : Settings} {mixin : Mixin} {s t : MergeState} {m : MixinMethod}

/-! ## One method -/

/-- A method without a place leaves the target alone. One with a place is put into it,
under a name that the rules allow if those of handlers were generated. -/
theorem MethodStep.placed_cases (h : MethodStep settings mixin s m t) :
    (m.isPlaced s.target.kind = false ∧ t.target = s.target ∧
        t.report.mergedMethods = s.report.mergedMethods) ∨
      (m.isPlaced s.target.kind = true ∧ ∃ name,
        t.target = s.target.putMethod (m.placed mixin name) ∧
        t.report.mergedMethods = s.report.mergedMethods ++ [name] ∧
        (s.allocator.IsSound → s.target.Admits s.allocator.target (m, name))) := by
  cases h with
  | shadow hrole => exact Or.inl ⟨by simp [MixinMethod.isPlaced, hrole], rfl, rfl⟩
  | initialiser hrole hname hkind =>
      exact Or.inl ⟨by simp [MixinMethod.isPlaced, hname], rfl, rfl⟩
  | skipped hrole hname hkind =>
      refine Or.inl ⟨?_, rfl, rfl⟩
      rcases hname with hname | hname <;> simp [MixinMethod.isPlaced, hname, hkind]
  | declared hplaced hrole hfree notices =>
      refine Or.inr ⟨hplaced, m.name, rfl, rfl, fun _ => ⟨fun _ => rfl, ?_⟩⟩
      intro hreplaces
      rcases hfree with hreplaces' | hfree
      · rw [hreplaces] at hreplaces'
        cases hreplaces'
      · exact Or.inr ⟨rfl, hfree⟩
  | unique hplaced hrole hreplaces hclash name keepsStart hname notices =>
      refine Or.inr ⟨hplaced, name, rfl, rfl, fun _ => ⟨?_, ?_⟩⟩
      · intro hreplaces'
        rw [hreplaces] at hreplaces'
        cases hreplaces'
      · intro _
        refine Or.inl ?_
        show IsGenerated s.allocator.target m.name m.type name.text
        rw [hname]
        exact .unique mixin.config settings.session keepsStart s.allocator.nextMethod
  | handler hplaced hrole name hname notices =>
      refine Or.inr ⟨hplaced, name, rfl, rfl, fun hsound => ⟨?_, ?_⟩⟩
      · intro hreplaces
        rw [MixinMethod.replaces_of_isHandler hrole] at hreplaces
        cases hreplaces
      · intro _
        exact Or.inl ((hsound.conform s.registry mixin m).2 name hname)

/-! ## All methods -/

/-- The methods that have a place are put one after the other, each under a name of its
own, which the rules allow if those of handlers were generated. -/
theorem exists_placements {ms : List MixinMethod}
    (h : mergeMethods settings mixin ms s = .ok t) :
    ∃ names, names.length = (ms.filter (·.isPlaced s.target.kind)).length ∧
      t.report.mergedMethods = s.report.mergedMethods ++ names ∧
      t.target = s.target.putMethods
        (((ms.filter (·.isPlaced s.target.kind)).zip names).map fun p => p.1.placed mixin p.2) ∧
      (s.allocator.IsSound → ∀ p ∈ (ms.filter (·.isPlaced s.target.kind)).zip names,
        s.target.Admits s.allocator.target p) := by
  induction ms generalizing s with
  | nil =>
      cases h
      exact ⟨[], rfl, by simp, rfl, by simp⟩
  | cons m ms ih =>
      obtain ⟨u, hfirst, hrest⟩ := Runs.foldlM_cons_eq_ok_iff.mp h
      have hsound : s.allocator.IsSound → u.allocator.IsSound := by
        intro hs
        have hkept := Allocator.IsSound.isKept.mergeMethod hs settings mixin m
        rw [hfirst] at hkept
        exact hkept
      have hstep := methodStep_of_mergeMethod hfirst
      obtain ⟨names, hlength, hmerged, htarget, hadmits⟩ := ih hrest
      rw [hstep.owner] at hadmits
      rcases hstep.placed_cases with
        ⟨hout, hsame, hreport⟩ | ⟨hplaced, name, hput, hreport, hadmit⟩
      · rw [hsame] at hlength htarget hadmits
        rw [hreport] at hmerged
        have hfilter : (m :: ms).filter (·.isPlaced s.target.kind)
            = ms.filter (·.isPlaced s.target.kind) := List.filter_cons_of_neg (by simp [hout])
        rw [hfilter]
        exact ⟨names, hlength, hmerged, htarget, fun hs => hadmits (hsound hs)⟩
      · have hkind : u.target.kind = s.target.kind := by
          rw [hput]
          exact Target.kind_putMethod _ _
        rw [hkind] at hlength htarget hadmits
        rw [List.filter_cons_of_pos hplaced]
        refine ⟨name :: names, ?_, ?_, ?_, ?_⟩
        · rw [List.length_cons, List.length_cons, hlength]
        · rw [hmerged, hreport, List.append_assoc, List.singleton_append]
        · rw [htarget, hput]
          rfl
        · intro hs p hp
          rw [List.zip_cons_cons] at hp
          rcases List.mem_cons.mp hp with rfl | hp
          · exact hadmit hs
          · refine (hadmits (hsound hs) p hp).of_isPrefix ?_
            rw [hput]
            exact Target.methodKeys_putMethod _ _

/-! ## The mixin as it was declared -/

/-- The method as it is merged into a target of this kind: handlers may be hidden in
interfaces. -/
def preparedMethod (settings : Settings) (kind : TargetKind) (m : MixinMethod) : MixinMethod :=
  match kind with
  | .cls => m
  | .interface => if settings.hidesHandlers then hideHandler m else m

/-- At most the flags of handlers change. -/
theorem preparedMethod_cases (settings : Settings) (kind : TargetKind) (m : MixinMethod) :
    preparedMethod settings kind m = m ∨
      (m.role.isHandler = true ∧ ∃ flags, preparedMethod settings kind m = { m with flags }) := by
  cases kind with
  | cls => exact Or.inl rfl
  | interface =>
      dsimp only [preparedMethod]
      split
      · unfold hideHandler
        split
        · next hhandler => exact Or.inr ⟨hhandler, _, rfl⟩
        · exact Or.inl rfl
      · exact Or.inl rfl

@[simp] theorem name_preparedMethod (settings : Settings) (kind : TargetKind) (m : MixinMethod) :
    (preparedMethod settings kind m).name = m.name := by
  rcases preparedMethod_cases settings kind m with h | ⟨_, flags, h⟩ <;> rw [h]

@[simp] theorem type_preparedMethod (settings : Settings) (kind : TargetKind) (m : MixinMethod) :
    (preparedMethod settings kind m).type = m.type := by
  rcases preparedMethod_cases settings kind m with h | ⟨_, flags, h⟩ <;> rw [h]

@[simp] theorem isPlaced_preparedMethod (settings : Settings) (kind : TargetKind)
    (m : MixinMethod) : (preparedMethod settings kind m).isPlaced kind = m.isPlaced kind := by
  rcases preparedMethod_cases settings kind m with h | ⟨_, flags, h⟩
  · rw [h]
  · rw [h]
    rfl

@[simp] theorem replaces_preparedMethod (settings : Settings) (kind : TargetKind)
    (m : MixinMethod) : (preparedMethod settings kind m).replaces = m.replaces := by
  rcases preparedMethod_cases settings kind m with h | ⟨hhandler, flags, h⟩
  · rw [h]
  · rw [h, MixinMethod.replaces_of_isHandler hhandler]
    exact MixinMethod.replaces_of_isHandler hhandler

/-- Each method is prepared by itself. -/
theorem prepareMethods_eq_map {kind : TargetKind} {ms : List MixinMethod}
    (h : prepareMethods settings kind mixin = .ok ms) :
    ms = mixin.methods.map (preparedMethod settings kind) := by
  have hid : mixin.methods = mixin.methods.map id := by simp
  unfold prepareMethods at h
  split at h
  · cases h
    exact hid
  · split at h
    · next hnone =>
      cases h
      -- No handler is there that could be hidden.
      refine hid.trans (List.map_congr_left ?_)
      intro m hm
      rcases preparedMethod_cases settings .interface m with hsame | ⟨hhandler, _⟩
      · exact hsame.symm
      · exact absurd hhandler (List.find?_eq_none.mp hnone m hm)
    · split at h
      · cases h
        split
        · next hhides => exact List.map_congr_left fun m _ => (if_pos hhides).symm
        · next hhides => exact hid.trans (List.map_congr_left fun m _ => (if_neg hhides).symm)
      · cases h

/-- The methods that have a place in the target are put one after the other, as they
were prepared, under the names that the report gives them. -/
theorem methods_of_apply {target : Target} {allocator : Allocator} {registry : Registry}
    {report : Report} (h : (apply settings target mixin allocator registry).outcome = .ok report) :
    report.mergedMethods.length = (mixin.methods.filter (·.isPlaced target.kind)).length ∧
      (apply settings target mixin allocator registry).target.methods
          = (target.putMethods ((report.placements target.kind mixin).map fun p =>
              (preparedMethod settings target.kind p.1).placed mixin p.2)).methods ∧
        (allocator.IsSound →
          ∀ p ∈ report.placements target.kind mixin, target.Admits allocator.target p) := by
  rcases apply_cases settings target mixin allocator registry with
    ⟨errors, hrefused⟩ | ⟨ms, run, hprep, hmerge, htarget, _, hreport⟩
  · rw [hrefused] at h
    cases h
  obtain ⟨s, rfl, rfl⟩ := hreport report h
  obtain ⟨u, hsame, hmethods | ⟨fault, hfailed⟩⟩ :=
    mergeAll_cases settings mixin ms { target, allocator, registry }
  · rw [hmerge] at hmethods
    obtain ⟨names, hlength, hnames, hput, hadmits⟩ := exists_placements hmethods.symm
    have hnames : s.report.mergedMethods = names := by rw [hnames, hsame.merged, List.nil_append]
    have hkeys : target.methodKeys = u.target.methodKeys := by
      simp only [Target.methodKeys, hsame.methods]
    have hfilter : ms.filter (·.isPlaced u.target.kind)
        = (mixin.methods.filter (·.isPlaced target.kind)).map
            (preparedMethod settings target.kind) := by
      rw [prepareMethods_eq_map hprep, hsame.kind, List.filter_map]
      congr 1
      exact List.filter_congr fun m _ => isPlaced_preparedMethod settings target.kind m
    rw [hfilter, List.length_map] at hlength
    rw [hfilter, List.zip_map_left, ← hnames] at hput hadmits
    refine ⟨hnames ▸ hlength, ?_, ?_⟩
    · rw [htarget]
      show s.target.methods = _
      rw [hput, List.map_map]
      exact Target.methods_putMethods_congr hsame.methods _
    · intro hsound p hp
      have hadmit := hadmits (hsound.congr hsame.owner hsame.conformed) _ (List.mem_map_of_mem hp)
      rw [hsame.owner] at hadmit
      have hadmit' := hadmit.of_isPrefix (t := target) (by rw [hkeys])
      simpa [Target.Admits] using hadmit'
  · rw [hmerge] at hfailed
    cases hfailed

/-- The final names are the ones that the report lists. -/
theorem map_snd_placements_of_apply {target : Target} {allocator : Allocator}
    {registry : Registry} {report : Report}
    (h : (apply settings target mixin allocator registry).outcome = .ok report) :
    (report.placements target.kind mixin).map Prod.snd = report.mergedMethods :=
  List.map_snd_zip (methods_of_apply h).1.le

/-- What is put has the names and the types that the report and the declaration give
it. -/
theorem exists_putMethods_of_apply {target : Target} {allocator : Allocator}
    {registry : Registry} {report : Report} (hsound : allocator.IsSound)
    (h : (apply settings target mixin allocator registry).outcome = .ok report) :
    ∃ xs : List TargetMethod,
      (apply settings target mixin allocator registry).target.methods
          = (target.putMethods xs).methods ∧
        (∀ x ∈ xs, x.mergedFrom = some mixin.name) ∧
        (∀ name type, (∃ x ∈ xs, x.isAt name type = true) ↔
          ∃ p ∈ report.placements target.kind mixin, p.2 = name ∧ p.1.type = type) ∧
        ∀ p ∈ report.placements target.kind mixin, target.Admits allocator.target p := by
  obtain ⟨_, hput, hadmits⟩ := methods_of_apply h
  refine ⟨_, hput, ?_, ?_, hadmits hsound⟩
  · intro x hx
    obtain ⟨p, _, rfl⟩ := List.mem_map.mp hx
    rfl
  · intro name type
    simp [TargetMethod.isAt, MixinMethod.placed]

end Merge

/-! ## Every site -/

/-- At a site that a run of events leads to, let a mixin be applied. A method that was
not merged from this mixin, and that the mixin does not say it replaces, is kept in
its place with everything it has, exactly if no method gets its name and type through
a generated name (where several have them, the first one counts). A method without a
dollar sign in its name is always kept. -/
theorem Site.getElem?_methods_applied_iff {site : Site} (hsite : site.IsReached)
    {settings : Settings} {mixin : Mixin} {report : Report}
    (hok : (site.applied settings mixin).outcome = .ok report) {i : Nat} {m : TargetMethod}
    (hm : site.target.methods[i]? = some m) (hfrom : m.mergedFrom ≠ some mixin.name)
    (hdeclared : ∀ d ∈ mixin.methods, d.replaces = true → ¬ (d.name = m.name ∧ d.type = m.type)) :
    ((site.applied settings mixin).target.methods[i]? = some m ↔
        ¬ (site.target.methodIndex? m.name m.type = some i ∧
          ∃ p ∈ report.placements site.target.kind mixin, p.1.replaces = false ∧
            IsGenerated site.allocator.target p.1.name p.1.type p.2.text ∧
            p.2 = m.name ∧ p.1.type = m.type)) ∧
      ('$' ∉ m.name.text → (site.applied settings mixin).target.methods[i]? = some m) := by
  obtain ⟨xs, hput, hxs, hhits, hadmits⟩ := Merge.exists_putMethods_of_apply hsite.isSound hok
  have hkept := Target.getElem?_putMethods_iff hxs hm hfrom
  rw [← hput, hhits] at hkept
  have hthere : site.target.hasMethod m.name m.type = true := by
    rw [Target.hasMethod_iff]
    exact List.mem_of_getElem? (Target.getElem?_methodKeys hm)
  -- A method that keeps its name is no hit: either the mixin would say that it replaces
  -- this one, or there would be a clash.
  have hgenerated : ∀ p ∈ report.placements site.target.kind mixin, p.2 = m.name →
      p.1.type = m.type →
      p.1.replaces = false ∧ IsGenerated site.allocator.target p.1.name p.1.type p.2.text := by
    intro p hp hname htype
    have hmem : p.1 ∈ mixin.methods := (List.mem_filter.mp (List.of_mem_zip hp).1).1
    cases hreplaces : p.1.replaces with
    | true =>
        have hown := (hadmits p hp).1 hreplaces
        exact absurd ⟨hown.symm.trans hname, htype⟩ (hdeclared p.1 hmem hreplaces)
    | false =>
        rcases (hadmits p hp).2 hreplaces with hmade | ⟨_, hfree⟩
        · exact ⟨rfl, hmade⟩
        · rw [hname, htype, hthere] at hfree
          cases hfree
  refine ⟨?_, ?_⟩
  · refine hkept.trans (not_congr (and_congr_right fun _ => ?_))
    constructor
    · rintro ⟨p, hp, hname, htype⟩
      obtain ⟨hreplaces, hmade⟩ := hgenerated p hp hname htype
      exact ⟨p, hp, hreplaces, hmade, hname, htype⟩
    · rintro ⟨p, hp, _, _, hname, htype⟩
      exact ⟨p, hp, hname, htype⟩
  · intro hdollar
    refine hkept.mpr ?_
    rintro ⟨_, p, hp, hname, htype⟩
    exact hdollar (hname ▸ (hgenerated p hp hname htype).2.dollar_mem)

/-! ## A lost method -/

/-- A mixin without a source id, whose handler is called what the handler of the
other mixin is called with its source id in front. -/
def Merge.mimickingMixin : Mixin where
  name := .literal "plain/mixin/TMixin"
  config := { name := "plain" }
  methods :=
    [{ name := .literal "mod$onTick"
       type := { parameters := [], result := none }
       flags := { isPrivate := true }
       role := .handler .inject }]

namespace Site

open Merge

/-- A class to which that mixin was applied. -/
def mimicked : Site :=
  (fresh { name := .literal "a/Target", kind := .cls } .empty).run
    [.apply (sessionAt .java8) mimickingMixin]

/-- The method that it got. -/
def mimickedMethod : TargetMethod where
  name := .literal "handler$zza000$mod$onTick"
  type := { parameters := [], result := none }
  flags := { isPrivate := true }
  mergedFrom := some mimickingMixin.name

theorem isReached_mimicked : mimicked.IsReached := ⟨_, _, _, rfl⟩

theorem methods_mimicked : mimicked.target.methods = [mimickedMethod] := by
  decide +kernel

/-- The handler of one mixin takes the place of the handler of another, which is lost. -/
theorem methods_applied_mimicked :
    (sessionAt .java8).IsBuilt ∧ mimicked.IsReached ∧
      audit (sessionAt .java8) mimicked.target.kind handlerMixin = [] ∧
      mimicked.target.methods = [mimickedMethod] ∧
      mimickedMethod.mergedFrom ≠ some handlerMixin.name ∧
      (∀ d ∈ handlerMixin.methods, d.replaces = false) ∧
      (mimicked.applied (sessionAt .java8) handlerMixin).target.methods
        = [{ mimickedMethod with mergedFrom := some handlerMixin.name }] := by
  refine ⟨isBuilt_sessionAt .java8, isReached_mimicked, ?_, methods_mimicked, ?_, ?_, ?_⟩
  · decide +kernel
  · decide
  · decide
  · decide +kernel

/-- The condition under which the first method would have been kept. -/
theorem getElem?_methods_applied_mimicked_iff :
    ∃ report, (mimicked.applied (sessionAt .java8) handlerMixin).outcome = .ok report ∧
      ((mimicked.applied (sessionAt .java8) handlerMixin).target.methods[0]? = some mimickedMethod ↔
        ¬ (mimicked.target.methodIndex? mimickedMethod.name mimickedMethod.type = some 0 ∧
          ∃ p ∈ report.placements mimicked.target.kind handlerMixin, p.1.replaces = false ∧
            IsGenerated mimicked.allocator.target p.1.name p.1.type p.2.text ∧
            p.2 = mimickedMethod.name ∧ p.1.type = mimickedMethod.type)) := by
  have haudit : audit (sessionAt .java8) mimicked.target.kind handlerMixin = [] := by
    decide +kernel
  obtain ⟨report, hok⟩ := exists_report_of_audit_eq_nil (isBuilt_sessionAt .java8) haudit
    mimicked.allocator mimicked.registry
  have hfirst : mimicked.target.methods[0]? = some mimickedMethod := by
    rw [methods_mimicked]
    rfl
  exact ⟨report, hok, (getElem?_methods_applied_iff isReached_mimicked hok hfirst (by decide)
    (by decide)).1⟩

end Site

end ClassGraft

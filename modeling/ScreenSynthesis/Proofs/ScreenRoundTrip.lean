import ScreenSynthesis.Execution
import ScreenSynthesis.Proofs.SessionReachability

/-!
# Screens and their arguments

A factory stores its argument under the screen's key, and the accessor of the same owner reads it
from there. Key, type and nullability come to the two on separate ways, but from one candidate and
one declaration, so that what goes in comes out again.

## Key results

- `Executor.body_eq`: the body that an executor finds for a member
- `Executor.exists_argumentsFor_iff`, `Executor.entries_of_argumentsFor`: which arguments a factory
  takes and what it makes of them
- `Executor.readArgument_eq`: an accessor reads what is stored under its key
- `Controller.get?_afterPuts`: arguments under other keys leave an argument as it is
-/

namespace ScreenSynthesis

/-- Whether a parameter of some type takes an argument: one of the type itself, or none at all if
the type is nullable. -/
def TypeRef.Accepts (type : TypeRef) (a : Option Parcel) : Prop :=
  (∃ parcel, a = some parcel ∧ parcel.typeName = type.name.text) ∨
    (type.nullable = true ∧ a = none)

namespace Controller

/-- The controller after some arguments were put under their keys, one after the other. -/
def afterPuts (c : Controller) (puts : List (String × Parcel)) : Controller :=
  puts.foldl (fun c put => (c.putArgument put.1 put.2).2) c

/-- `afterPuts` leaves the argument under a key as it is, if all are put under other keys. -/
theorem get?_afterPuts {key : String} {puts : List (String × Parcel)}
    (h : ∀ put ∈ puts, put.1 ≠ key) (c : Controller) :
    (c.afterPuts puts).arguments.get? key = c.arguments.get? key := by
  induction puts generalizing c with
  | nil => rfl
  | cons put rest ih =>
    have hrest : ∀ put' ∈ rest, put'.1 ≠ key := fun put' hmem =>
      h put' (List.mem_cons_of_mem put hmem)
    have hput : ((c.putArgument put.1 put.2).2).arguments.get? key = c.arguments.get? key :=
      SortedMap.get?_put_of_ne c.arguments.entries put.2 (h put List.mem_cons_self).symm
    exact (ih hrest (c.putArgument put.1 put.2).2).trans hput

end Controller

namespace Stubs

variable {c : Candidate} {argument : Option TypeRef}

/-- `factoryStub` has no parameter exactly if there is no argument. -/
private theorem parameters_factoryStub_eq_nil_iff :
    (factoryStub c argument).parameters = [] ↔ argument = none := by
  cases argument <;> simp [factoryStub]

/-- `factoryStub` has a parameter of the argument's type. -/
private theorem exists_parameter_factoryStub_iff {P : TypeRef → Prop} :
    (∃ p, (factoryStub c argument).parameters = [p] ∧ P p.type) ↔
      ∃ type, argument = some type ∧ P type := by
  cases argument with
  | none => simp [factoryStub]
  | some type =>
    constructor
    · rintro ⟨p, hp, hP⟩
      obtain rfl := (List.cons.inj hp).1
      exact ⟨type, rfl, hP⟩
    · rintro ⟨type', htype, hP⟩
      obtain rfl := Option.some.inj htype
      exact ⟨_, rfl, hP⟩

/-- `bodyFor` fills the `factoryStub` with the key, the name and the type of the argument. -/
theorem bodyFor_factoryStub (d : ClassDecl) :
    Bodies.bodyFor (factoryStub c argument) d =
      .createScreen d.lookupKey d.qualifiedName argument := by
  cases argument <;> rfl

end Stubs

namespace Executor

variable {e : Executor} {owner : QualifiedName} {a : Option Parcel}

/-! ## Members -/

/-- In the last phase `body` finds for every symbol what its declaration gives it. -/
theorem body_eq {decl : DeclId} {scope : Scope} {name : String} {symbol : Symbol}
    (h : e.session.Reachable) (hphase : e.session.phase = .bodiesSynthesized)
    (hlookup : e.session.unit.lookup? owner = some decl)
    (hfind : e.session.symbols.find? decl scope name = some symbol) :
    ∃ d, e.session.unit.declaration? decl = some d ∧ d.qualifiedName = owner ∧
      e.body owner scope name = .ok (Bodies.bodyFor symbol.signature d) := by
  obtain ⟨d, hd, hname⟩ := CompilationUnit.declaration?_of_lookup? hlookup
  obtain ⟨c, hc, hdecl, -⟩ := h.exists_candidate hfind
  obtain ⟨hmem, hplace⟩ := (SymbolTable.find?_eq_some_iff h.wellFormed.coherent).1 hfind
  -- the symbol is filled from the declaration of its owner, which is the one that was looked up
  obtain ⟨d', hd', hbody⟩ := h.wellFormed.filled hphase symbol hmem
  have howner : symbol.signature.owner = decl := congrArg Place.owner hplace
  obtain rfl : d = d' := Option.some.inj (hd.symm.trans (howner ▸ hd'))
  have hmatched : e.session.candidates.isMatched decl = true :=
    hdecl ▸ CandidateIndex.isMatched_of_mem hc
  refine ⟨d, hd, hname, ?_⟩
  simp only [body, hlookup, Option.filter_some, hmatched, if_true, hfind, hbody]

/-! ## Arguments of screens -/

/-- `argumentsFor` succeeds for an argument that the parameter `Accepts`, or without both. -/
theorem exists_argumentsFor_iff (owner : QualifiedName) (key : String)
    (parameter : Option TypeRef) (a : Option Parcel) :
    (∃ b, argumentsFor owner key parameter a = .ok b) ↔
      (parameter = none ∧ a = none) ∨ ∃ type, parameter = some type ∧ type.Accepts a := by
  cases parameter with
  | none => cases a <;> simp [argumentsFor]
  | some type =>
    -- no argument is an argument for a nullable parameter
    cases a with
    | none => cases hnullable : type.nullable <;> simp [argumentsFor, TypeRef.Accepts, hnullable]
    | some parcel =>
      by_cases htype : parcel.typeName = type.name.text <;>
        simp [argumentsFor, TypeRef.Accepts, Parcel.isOf, htype]

/-- `argumentsFor` puts the argument under the key and nothing else. -/
theorem entries_of_argumentsFor {key : String} {parameter : Option TypeRef} {b : Bundle}
    (h : argumentsFor owner key parameter a = .ok b) :
    b.entries.entries = a.toList.map (key, ·) := by
  cases parameter with
  | none =>
    cases a with
    | none => rw [← Except.ok.inj h]; rfl
    | some parcel => exact nomatch h
  | some type =>
    cases a with
    | none =>
      simp only [argumentsFor] at h
      split at h
      · rw [← Except.ok.inj h]; rfl
      · exact nomatch h
    | some parcel =>
      simp only [argumentsFor] at h
      split at h
      · rw [← Except.ok.inj h]; rfl
      · exact nomatch h

/-- `createScreen` makes its screen of what `argumentsFor` gives. -/
theorem createScreen_eq_ok_iff {key : String} {className : QualifiedName}
    {parameter : Option TypeRef} {screen : NavigationDescriptor}
    (h : e.body owner .container factoryName = .ok (.createScreen key className parameter)) :
    e.createScreen owner a = .ok screen ↔
      ∃ b, argumentsFor owner key parameter a = .ok b ∧
        screen = { key, className := className.text, arguments := b } := by
  simp only [createScreen, h, bind, Except.bind]
  cases argumentsFor owner key parameter a with
  | error err => simp
  | ok b => simp [pure, Except.pure, eq_comm]

/-- `createScreen` succeeds exactly for an argument that the parameter `Accepts`, or without
both. -/
private theorem exists_createScreen_iff {key : String} {className : QualifiedName}
    {parameter : Option TypeRef}
    (h : e.body owner .container factoryName = .ok (.createScreen key className parameter)) :
    (∃ screen, e.createScreen owner a = .ok screen) ↔
      (parameter = none ∧ a = none) ∨ ∃ type, parameter = some type ∧ type.Accepts a := by
  rw [← exists_argumentsFor_iff owner key parameter a]
  constructor
  · rintro ⟨screen, hscreen⟩
    obtain ⟨b, hb, -⟩ := (createScreen_eq_ok_iff h).1 hscreen
    exact ⟨b, hb⟩
  · rintro ⟨b, hb⟩
    exact ⟨_, (createScreen_eq_ok_iff h).2 ⟨b, hb, rfl⟩⟩

/-- `readArgument` reads what is stored under the key, if the type `Accepts` it. -/
theorem readArgument_eq {c : Controller} {key : String} {type : TypeRef}
    (h : e.body owner .owner argName = .ok (.readArgument key type.name type.nullable))
    (hget : c.arguments.get? key = a) (hfits : type.Accepts a) :
    e.readArgument owner c = .ok a := by
  simp only [readArgument, h, bind, Except.bind]
  rcases hfits with ⟨parcel, rfl, htype⟩ | ⟨hnullable, rfl⟩
  · -- a nullable accessor filters by the type, the other one requires it
    have hof : parcel.isOf type.name.text = true := decide_eq_true htype
    cases type.nullable with
    | true => simp [Bundle.getTyped?, hget, hof, pure, Except.pure]
    | false => simp [Bundle.require, hget, hof, pure, Except.pure]
  · simp [hnullable, Bundle.getTyped?, hget, pure, Except.pure]

/-! ## The round trip -/

/-- Whatever session has come to its last phase, whatever owner has a factory, and whatever the
argument is: `createScreen` makes a screen exactly if the parameter `Accepts` the argument. The
screen has the owner's `lookupKey`, and makes controllers of the owner that hold the argument under
this key and nothing else. If the owner has an accessor, `readArgument` gives back just this
argument from such a controller, also after others were put under other keys. -/
theorem createScreen_readArgument {s : Session} {owner : QualifiedName} {decl : DeclId}
    {factory : Symbol} (binders : BinderRegistry) (a : Option Parcel) (hs : s.Reachable)
    (hphase : s.phase = .bodiesSynthesized) (hlookup : s.unit.lookup? owner = some decl)
    (hfactory : s.symbols.find? decl .container factoryName = some factory) :
    ∃ d e, s.unit.declaration? decl = some d ∧ Executor.new s binders = .ok e ∧
      ((∃ screen, e.createScreen owner a = .ok screen) ↔
        (factory.signature.parameters = [] ∧ a = none) ∨
        ∃ p, factory.signature.parameters = [p] ∧ p.type.Accepts a) ∧
      ∀ screen, e.createScreen owner a = .ok screen →
        screen.key = d.lookupKey ∧
        screen.create.className = owner.text ∧
        screen.create.rootView = none ∧
        screen.create.binding = none ∧
        screen.create.arguments.entries.entries = a.toList.map (d.lookupKey, ·) ∧
        ∀ accessor, s.symbols.find? decl .owner argName = some accessor →
          ∀ puts, (∀ put ∈ puts, put.1 ≠ d.lookupKey) →
            e.readArgument owner (screen.create.afterPuts puts) = .ok a := by
  have hnew : Executor.new s binders = .ok ⟨s, binders⟩ := by
    rw [Executor.new, Session.requireAtLeast, hphase, if_pos (Nat.le_refl _)]
    rfl
  obtain ⟨d, hd, hname, hbody⟩ := body_eq (e := ⟨s, binders⟩) hs hphase hlookup hfactory
  obtain ⟨c, hc, v, rfl, hv, hsignature⟩ := hs.exists_factoryStub hfactory
  rw [hsignature, Stubs.bodyFor_factoryStub] at hbody
  refine ⟨d, ⟨s, binders⟩, hd, hnew, ?_, fun screen hscreen => ?_⟩
  · rw [exists_createScreen_iff hbody, hsignature, Stubs.parameters_factoryStub_eq_nil_iff,
      Stubs.exists_parameter_factoryStub_iff (P := (·.Accepts a))]
  · obtain ⟨b, hb, rfl⟩ := (createScreen_eq_ok_iff hbody).1 hscreen
    have hentries := entries_of_argumentsFor hb
    refine ⟨rfl, congrArg QualifiedName.text hname, rfl, rfl, hentries,
      fun accessor haccessor puts hputs => ?_⟩
    -- the accessor comes from the same candidate and declaration as the factory
    obtain ⟨type, htype, hsignature'⟩ := hs.exists_accessorStub hc hv haccessor
    obtain ⟨d', hd', -, hread⟩ := body_eq (e := ⟨s, binders⟩) hs hphase hlookup haccessor
    obtain rfl : d = d' := Option.some.inj (hd.symm.trans hd')
    rw [hsignature'] at hread
    -- the factory has stored the argument alone
    have hget : b.get? d.lookupKey = a := by
      show b.entries.entries.lookup d.lookupKey = a
      rw [hentries]
      cases a <;> simp
    -- the argument was taken, so it fits the type that the accessor reads
    have hfits : type.Accepts a := by
      rcases (exists_argumentsFor_iff ..).1 ⟨b, hb⟩ with ⟨hnone, -⟩ | ⟨type', htype', hfits⟩
      · rw [htype] at hnone
        exact nomatch hnone
      · obtain rfl : type = type' := Option.some.inj (htype.symm.trans htype')
        exact hfits
    exact readArgument_eq hread ((Controller.get?_afterPuts hputs _).trans hget) hfits

/-- A screen whose owner has a container with a key of its own, and whose argument may be null. -/
def detail : ClassDecl where
  package := "app"
  name := "Detail"
  supertypes := [controllerBase]
  annotations :=
    [{ name := ⟨markerName⟩
       arguments := [⟨none, .classRef "app.Item"⟩, ⟨some nullableParameter, .bool true⟩] }]
  container := some { members := [{ name := keyName, value := some (.str "detail") }] }

/-- The factory that the owner of this screen gets. -/
def detailFactory : Symbol where
  id := ⟨1⟩
  signature :=
    { owner := ⟨0⟩
      ownerName := ⟨"app.Detail"⟩
      scope := .container
      name := factoryName
      kind := .factoryFunction
      declaredType := some { name := descriptorType }
      parameters := [{ name := argName, type := ⟨⟨"app.Item"⟩, true⟩, defaultNull := true }] }
  body := some (.createScreen "detail" ⟨"app.Detail"⟩ (some ⟨⟨"app.Item"⟩, true⟩))

/-- An item is stored under the owner's own key, and read from there even if there is another one
under the owner's name. -/
theorem createScreen_readArgument_detail :
    let s := ((Session.new ⟨{ classes := [detail] }, by decide⟩ {}).call .runAll).2
    let item : Parcel := { typeName := "app.Item", payload := .string "x" }
    let other : Parcel := { typeName := "app.Item", payload := .string "y" }
    s.phase = .bodiesSynthesized ∧ s.unit.lookup? ⟨"app.Detail"⟩ = some ⟨0⟩ ∧
      s.symbols.find? ⟨0⟩ .container factoryName = some detailFactory ∧
      ∃ e screen, Executor.new s {} = .ok e ∧
        e.createScreen ⟨"app.Detail"⟩ (some item) = .ok screen ∧ screen.key = "detail" ∧
        e.readArgument ⟨"app.Detail"⟩ (screen.create.afterPuts [("app.Detail", other)]) =
          .ok (some item) := by
  intro s item other
  have hphase : s.phase = .bodiesSynthesized := by decide +kernel
  have hlookup : s.unit.lookup? ⟨"app.Detail"⟩ = some ⟨0⟩ := by decide +kernel
  have hfactory : s.symbols.find? ⟨0⟩ .container factoryName = some detailFactory := by
    decide +kernel
  have haccessor : (s.symbols.find? ⟨0⟩ .owner argName).isSome = true := by decide +kernel
  have hd : s.unit.declaration? ⟨0⟩ = some detail := by decide +kernel
  obtain ⟨d, e, hd', hnew, hiff, hscreen⟩ :=
    createScreen_readArgument {} (some item) (.call (.new _ _ _) .runAll) hphase hlookup hfactory
  obtain rfl : detail = d := Option.some.inj (hd.symm.trans hd')
  obtain ⟨screen, hcreate⟩ := hiff.2 (Or.inr ⟨_, rfl, Or.inl ⟨item, rfl, rfl⟩⟩)
  obtain ⟨hkey, -, -, -, -, hread⟩ := hscreen screen hcreate
  obtain ⟨accessor, haccessor⟩ := Option.isSome_iff_exists.1 haccessor
  exact ⟨hphase, hlookup, hfactory, e, screen, hnew, hcreate, hkey,
    hread accessor haccessor _ (by decide)⟩

end Executor

end ScreenSynthesis

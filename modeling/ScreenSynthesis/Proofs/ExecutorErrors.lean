import ScreenSynthesis.Proofs.ScreenKeys

/-!
# Errors of an executor

An executor finds the body of a member and does what it says. Whoever has come to the last phase has
only symbols that are filled, and scope and name tell what kind of body they have. So of the errors
that an executor has for members it cannot find, two say just what is missing, and the others are
never seen: no body is a stub, and none is of another kind than its use asks for.

## Key results

- `Session.Reachable.exists_memberShape`: every symbol is filled and has the shape for its place
- `Executor.body_eq_error_iff`: when a body is not found
- `Executor.failure?_eq_some_iff`: a use fails for a member that is not found, or for its own
  reasons
- `Executor.failure_iff_not_synthesized`: which errors the uses of members give back, and when
-/

namespace ScreenSynthesis

/-- The five shapes of a synthesized member. Scope and name fix the kind of the symbol, and what its
declared type and its body look like. -/
inductive MemberShape : Scope → String → SymbolKind → Option TypeRef → Body → Prop where
  | container : MemberShape .owner "Companion" .container none .empty
  | key (value : String) :
    MemberShape .container "KEY" .constant (some ⟨⟨"kotlin.String"⟩, false⟩) (.stringLiteral value)
  | accessor (key : String) (type : TypeRef) :
    MemberShape .owner "arg" .accessorProperty (some type)
      (.readArgument key type.name type.nullable)
  | factory (key : String) (owner : QualifiedName) (parameter : Option TypeRef) :
    MemberShape .container "createScreen" .factoryFunction
      (some ⟨⟨"screenkit.NavigationDescriptor"⟩, false⟩) (.createScreen key owner parameter)
  | binding (type : TypeRef) :
    MemberShape .owner "binding" .conditionalAccessorProperty (some type) (.lazyBind type.name)

/-- A use that an executor makes of a synthesized member. -/
inductive MemberUse where
  | key
  | createScreen (argument : Option Parcel)
  | readArgument (c : Controller)
  | readBinding (c : Controller)

namespace MemberUse

/-- Where the member is that is used. -/
def scope : MemberUse → Scope
  | .key | .createScreen _ => .container
  | .readArgument _ | .readBinding _ => .owner

/-- The name of the member that is used. -/
def member : MemberUse → String
  | .key => "KEY"
  | .createScreen _ => "createScreen"
  | .readArgument _ => "arg"
  | .readBinding _ => "binding"

/-- Whether a body is of the kind that a use asks for. -/
def Takes : MemberUse → Body → Prop
  | .key, .stringLiteral _ => True
  | .createScreen _, .createScreen _ _ _ => True
  | .readArgument _, .readArgument _ _ _ => True
  | .readBinding _, .lazyBind _ => True
  | _, _ => False

end MemberUse

/-- Every use takes the body of a member that has the `MemberShape` for its name. -/
theorem MemberShape.takes {scope : Scope} {name : String} {kind : SymbolKind}
    {type : Option TypeRef} {body : Body} (h : MemberShape scope name kind type body)
    {use : MemberUse} (hname : name = use.member) : use.Takes body := by
  -- no two shapes have the same name
  cases h <;> cases use <;>
    first
    | exact trivial
    | simp [MemberUse.member] at hname

namespace SynthesisError

/-- Whether an error says that a member was not found. -/
def IsLookup : SynthesisError → Prop
  | .unknownOwner _ | .memberNotSynthesized _ _ | .bodyNotFilled _ _ => True
  | _ => False

end SynthesisError

/-! ## Shapes -/

namespace Session

variable {s : Session} {c : Candidate} {d : ClassDecl}

/-- What a candidate has `wanted` is filled with a body of the `MemberShape` for its place. -/
private theorem memberShape_of_mem_wanted {signature : Signature} (h : signature ∈ s.wanted c)
    (hd : s.unit.declaration? c.decl = some d) :
    MemberShape signature.scope signature.name signature.kind signature.declaredType
      (Bodies.bodyFor signature d) := by
  obtain ⟨v, d', -, -, hd', hstub | hbinding⟩ := mem_wanted_iff.1 h
  · obtain rfl : d = d' := Option.some.inj (hd.symm.trans hd')
    rcases Stubs.mem_wanted_iff.1 hstub with ⟨hnone, -, rfl⟩ | ⟨-, -, rfl⟩ | ⟨-, type, -, rfl⟩ |
      ⟨-, -, rfl⟩
    · -- a container that is asked for has the default name
      have hname : (Stubs.containerStub c d).name = "Companion" :=
        ClassDecl.containerName_of_container_eq_none hnone
      rw [hname]
      exact .container
    · exact .key d.qualifiedName.text
    · exact .accessor d.lookupKey type
    · exact .factory d.lookupKey d.qualifiedName _
  · obtain ⟨-, -, type, -, rfl⟩ := Binding.mem_wanted_iff.1 hbinding
    exact .binding ⟨type, false⟩

/-- In the last phase every symbol is filled, and has the `MemberShape` for its place. -/
theorem Reachable.exists_memberShape (h : s.Reachable) (hphase : s.phase = .bodiesSynthesized)
    {symbol : Symbol} (hsymbol : symbol ∈ s.symbols.symbols) :
    ∃ body, symbol.body = some body ∧
      MemberShape symbol.signature.scope symbol.signature.name symbol.signature.kind
        symbol.signature.declaredType body := by
  obtain ⟨c, -, hwanted⟩ := h.wellFormed.wanted symbol hsymbol
  obtain ⟨d, hd, hbody⟩ := h.wellFormed.filled hphase symbol hsymbol
  rw [(owner_of_mem_wanted hwanted).1] at hd
  exact ⟨_, hbody, memberShape_of_mem_wanted hwanted hd⟩

end Session

/-! ## Owners -/

/-- Whether a name is that of a declaration with a marker, which stands at some position of the
unit. -/
def CompilationUnit.IsMarked (u : CompilationUnit) (owner : QualifiedName) (decl : DeclId) : Prop :=
  ∃ d, u.declaration? decl = some d ∧ d.qualifiedName = owner ∧ Marker.find? d ≠ none

namespace CompilationUnit

variable {u : CompilationUnit}

/-- `IsMarked` never holds for the name of a type of the classpath. -/
private theorem not_isMarked_of_mem_classpath {type : ExternalType} (h : type ∈ u.classpath)
    (decl : DeclId) : ¬ u.IsMarked type.name decl := by
  rintro ⟨d, hd, hname, -⟩
  have hclass : type.name ∈ u.classes.map ClassDecl.qualifiedName :=
    hname ▸ List.mem_map_of_mem (List.mem_of_getElem? hd)
  have hexternal : type.name ∈ u.classpath.map ExternalType.name := List.mem_map_of_mem h
  -- no two entries of a unit share their name
  exact (List.nodup_append.1 u.nodup_entryNames).2.2 _ hclass _ hexternal rfl

/-- `IsMarked` never holds for the name of a declaration in which `Marker.find?` finds nothing. -/
private theorem not_isMarked_of_find?_eq_none {decl : DeclId} {d : ClassDecl}
    (hd : u.declaration? decl = some d) (hnone : Marker.find? d = none) (decl' : DeclId) :
    ¬ u.IsMarked d.qualifiedName decl' := by
  rintro ⟨d', hd', hname, hmarked⟩
  obtain rfl : decl' = decl := eq_of_qualifiedName_eq hd' hd hname
  obtain rfl : d = d' := Option.some.inj (hd.symm.trans hd')
  exact hmarked hnone

end CompilationUnit

/-- `isMatched` holds for the declarations with a marker. -/
theorem Session.Reachable.isMatched_iff {s : Session} (h : s.Reachable)
    (hphase : Phase.scanned.rank ≤ s.phase.rank) {decl : DeclId} {d : ClassDecl}
    (hd : s.unit.declaration? decl = some d) :
    s.candidates.isMatched decl = true ↔ Marker.find? d ≠ none := by
  rw [h.candidates_eq hphase]
  constructor
  · intro hmatched
    obtain ⟨c, hc, hdecl⟩ := List.any_eq_true.1 hmatched
    obtain rfl : c.decl = decl := of_decide_eq_true hdecl
    obtain ⟨a, ha, -⟩ := CandidateIndex.exists_marker hc hd
    rw [ha]
    exact nofun
  · intro hmarked
    obtain ⟨a, ha⟩ := Option.ne_none_iff_exists'.1 hmarked
    obtain ⟨c, hc, rfl⟩ := CandidateIndex.exists_candidate hd ha
    exact CandidateIndex.isMatched_of_mem hc

namespace Executor

variable {e : Executor} {owner : QualifiedName}

/-- The declaration whose members an executor looks for is the one that `IsMarked` under the owner's
name. -/
private theorem filter_lookup?_eq_some_iff (h : e.session.Reachable)
    (hphase : e.session.phase = .bodiesSynthesized) {decl : DeclId} :
    (e.session.unit.lookup? owner).filter e.session.candidates.isMatched = some decl ↔
      e.session.unit.IsMarked owner decl := by
  have hscanned : Phase.scanned.rank ≤ e.session.phase.rank := by rw [hphase]; decide
  -- the name leads to one declaration, and the index tells whether that has a marker
  rw [Option.filter_eq_some_iff]
  constructor
  · rintro ⟨hlookup, hmatched⟩
    obtain ⟨d, hd, hname⟩ := CompilationUnit.declaration?_of_lookup? hlookup
    exact ⟨d, hd, hname, (h.isMatched_iff hscanned hd).1 hmatched⟩
  · rintro ⟨d, hd, rfl, hmarked⟩
    exact ⟨CompilationUnit.lookup?_of_declaration? hd, (h.isMatched_iff hscanned hd).2 hmarked⟩

/-! ## Bodies -/

section

variable {decl : DeclId} {scope : Scope} {member : String}

/-- `body` reports `unknownOwner` for a name under which nothing `IsMarked`. -/
private theorem body_of_not_isMarked (h : e.session.Reachable)
    (hphase : e.session.phase = .bodiesSynthesized)
    (hnot : ¬∃ decl, e.session.unit.IsMarked owner decl) :
    e.body owner scope member = .error (.unknownOwner owner) := by
  have hlookup : (e.session.unit.lookup? owner).filter e.session.candidates.isMatched = none :=
    Option.eq_none_iff_forall_ne_some.2 fun decl hsome =>
      hnot ⟨decl, (filter_lookup?_eq_some_iff h hphase).1 hsome⟩
  rw [body, hlookup]

/-- `body` reports `memberNotSynthesized` for a marked owner that has no symbol at a place. -/
private theorem body_of_find?_eq_none (h : e.session.Reachable)
    (hphase : e.session.phase = .bodiesSynthesized) (hmarked : e.session.unit.IsMarked owner decl)
    (hnone : e.session.symbols.find? decl scope member = none) :
    e.body owner scope member = .error (.memberNotSynthesized owner member) := by
  rw [body, (filter_lookup?_eq_some_iff h hphase).2 hmarked]
  simp only [hnone]

/-- `body` finds something for a marked owner that has a symbol at a place. -/
private theorem exists_body_of_find? (h : e.session.Reachable)
    (hphase : e.session.phase = .bodiesSynthesized) (hmarked : e.session.unit.IsMarked owner decl)
    {symbol : Symbol} (hfind : e.session.symbols.find? decl scope member = some symbol) :
    ∃ body, e.body owner scope member = .ok body := by
  have hfilter := (filter_lookup?_eq_some_iff h hphase).2 hmarked
  obtain ⟨d, -, -, hbody⟩ := body_eq h hphase (Option.filter_eq_some_iff.1 hfilter).1 hfind
  exact ⟨_, hbody⟩

/-- `body` fails exactly if nothing `IsMarked` under the owner's name, or if there is no such
symbol. -/
theorem body_eq_error_iff (h : e.session.Reachable) (hphase : e.session.phase = .bodiesSynthesized)
    {err : SynthesisError} :
    e.body owner scope member = .error err ↔
      (err = .unknownOwner owner ∧ ¬∃ decl, e.session.unit.IsMarked owner decl) ∨
        (err = .memberNotSynthesized owner member ∧
          ∃ decl, e.session.unit.IsMarked owner decl ∧
            e.session.symbols.find? decl scope member = none) := by
  constructor
  · intro herr
    by_cases hany : ∃ decl, e.session.unit.IsMarked owner decl
    · obtain ⟨decl, hmarked⟩ := hany
      cases hfind : e.session.symbols.find? decl scope member with
      | none =>
        rw [body_of_find?_eq_none h hphase hmarked hfind] at herr
        exact Or.inr ⟨(Except.error.inj herr).symm, decl, hmarked, hfind⟩
      | some symbol =>
        -- there is a body, so that nothing is missing
        obtain ⟨body, hbody⟩ := exists_body_of_find? h hphase hmarked hfind
        rw [hbody] at herr
        exact nomatch herr
    · rw [body_of_not_isMarked h hphase hany] at herr
      exact Or.inl ⟨(Except.error.inj herr).symm, hany⟩
  · rintro (⟨rfl, hnot⟩ | ⟨rfl, decl, hmarked, hnone⟩)
    · exact body_of_not_isMarked h hphase hnot
    · exact body_of_find?_eq_none h hphase hmarked hnone

end

/-- What `body` finds is of the kind that a use of the member `Takes`. -/
private theorem takes_of_body {use : MemberUse} {body : Body} (h : e.session.Reachable)
    (hphase : e.session.phase = .bodiesSynthesized)
    (hbody : e.body owner use.scope use.member = .ok body) : use.Takes body := by
  obtain ⟨decl, symbol, -, hfind, hsome⟩ := exists_symbol_of_body hbody
  obtain ⟨hmem, hplace⟩ := (SymbolTable.find?_eq_some_iff h.wellFormed.coherent).1 hfind
  -- the name that was asked for is that of the symbol, and so decides about its body
  obtain ⟨body', hbody', hshape⟩ := h.exists_memberShape hphase hmem
  obtain rfl : body = body' := Option.some.inj (hsome.symm.trans hbody')
  exact hshape.takes (congrArg Place.name hplace)

/-! ## Uses -/

/-- The error of a result, if it is one. -/
def failureOf? {α : Type} : Except SynthesisError α → Option SynthesisError
  | .ok _ => none
  | .error err => some err

/-- The error that a use of an owner's member gives back, if it fails. -/
def failure? (e : Executor) (owner : QualifiedName) : MemberUse → Option SynthesisError
  | .key => failureOf? (e.key owner)
  | .createScreen a => failureOf? (e.createScreen owner a)
  | .readArgument c => failureOf? (e.readArgument owner c)
  | .readBinding c => failureOf? (e.readBinding owner c)

/-- A use fails with the error of `body` if there is one. -/
private theorem failure?_of_body_error {use : MemberUse} {err : SynthesisError}
    (h : e.body owner use.scope use.member = .error err) : e.failure? owner use = some err := by
  -- all uses look for the body first
  cases use with
  | key =>
    have hbody : e.body owner .container keyName = .error err := h
    simp only [failure?, key, hbody, bind, Except.bind, failureOf?]
  | createScreen a =>
    have hbody : e.body owner .container factoryName = .error err := h
    simp only [failure?, createScreen, hbody, bind, Except.bind, failureOf?]
  | readArgument c =>
    have hbody : e.body owner .owner argName = .error err := h
    simp only [failure?, readArgument, hbody, bind, Except.bind, failureOf?]
  | readBinding c =>
    have hbody : e.body owner .owner bindingName = .error err := h
    simp only [failure?, readBinding, hbody, bind, Except.bind, failureOf?]

/-- `argumentsFor` never says that a member was not found. -/
private theorem not_isLookup_of_argumentsFor {key : String} {parameter : Option TypeRef}
    {a : Option Parcel}
    {err : SynthesisError} (h : argumentsFor owner key parameter a = .error err) :
    ¬ err.IsLookup := by
  -- only the errors about parcels are left, one for each way to give a wrong one
  unfold argumentsFor at h
  split at h
  · exact nomatch h
  · rw [← Except.error.inj h]
    exact id
  · split at h
    · exact nomatch h
    · rw [← Except.error.inj h]
      exact id
  · split at h
    · exact nomatch h
    · rw [← Except.error.inj h]
      exact id

/-- A use of a body that it `Takes` fails only for its own reasons. -/
private theorem not_isLookup_of_takes {use : MemberUse} {body : Body} {err : SynthesisError}
    (hbody : e.body owner use.scope use.member = .ok body) (htakes : use.Takes body)
    (herr : e.failure? owner use = some err) : ¬ err.IsLookup := by
  -- each use takes the bodies of one kind, and no other kind gets this far
  cases use with
  | key =>
    cases body with
    | stringLiteral value =>
      have hkey : e.key owner = .ok value := key_eq_ok_iff.2 hbody
      simp [failure?, hkey, failureOf?] at herr
    | _ => exact htakes.elim
  | createScreen a =>
    cases body with
    | createScreen key className parameter =>
      replace hbody : e.body owner .container factoryName = _ := hbody
      simp only [failure?, createScreen, hbody, bind, Except.bind] at herr
      cases harguments : argumentsFor owner key parameter a with
      | ok b => simp [harguments, failureOf?, pure, Except.pure] at herr
      | error err' =>
        obtain rfl : err' = err := by simpa [harguments, failureOf?] using herr
        exact not_isLookup_of_argumentsFor harguments
    | _ => exact htakes.elim
  | readArgument c =>
    cases body with
    | readArgument key type nullable =>
      replace hbody : e.body owner .owner argName = _ := hbody
      simp only [failure?, readArgument, hbody, bind, Except.bind] at herr
      -- a missing argument is no failure if it may be null
      cases nullable with
      | true => simp [failureOf?, pure, Except.pure] at herr
      | false =>
        cases hrequire : c.arguments.require key type.text with
        | ok parcel => simp [hrequire, failureOf?, pure, Except.pure] at herr
        | error fault =>
          obtain rfl : .fault fault = err := by
            simpa [hrequire, failureOf?, throw, throwThe, MonadExceptOf.throw] using herr
          exact id
    | _ => exact htakes.elim
  | readBinding c =>
    cases body with
    | lazyBind binding =>
      replace hbody : e.body owner .owner bindingName = pure (.lazyBind binding) := hbody
      simp only [failure?, readBinding, hbody, pure_bind] at herr
      cases hbind : e.binders.get binding.text >>= c.bindOnce with
      | ok result => simp [hbind, failureOf?, pure, Except.pure] at herr
      | error fault =>
        obtain rfl : .fault fault = err := by
          simpa [hbind, failureOf?, throw, throwThe, MonadExceptOf.throw] using herr
        exact id
    | _ => exact htakes.elim

/-- A use says that the member was not found exactly if `body` does. -/
theorem failure?_eq_some_iff (h : e.session.Reachable)
    (hphase : e.session.phase = .bodiesSynthesized) {use : MemberUse} {err : SynthesisError}
    (hlookup : err.IsLookup) :
    e.failure? owner use = some err ↔ e.body owner use.scope use.member = .error err := by
  refine ⟨fun herr => ?_, failure?_of_body_error⟩
  -- with a body, only the reasons of the use itself are left
  cases hbody : e.body owner use.scope use.member with
  | ok body =>
    have htakes := takes_of_body h hphase hbody
    exact absurd hlookup (not_isLookup_of_takes hbody htakes herr)
  | error err' =>
    rw [failure?_of_body_error hbody] at herr
    rw [Option.some.inj herr]

/-- In the last phase every symbol is filled, and scope and name fix its kind and its `MemberShape`
(1). So whatever member of whatever owner is used, and whatever for: `unknownOwner` is reported
exactly if the owner is no declaration with a marker (2), such as a type of the classpath or a
declaration without a marker (3); `memberNotSynthesized` exactly if the owner is a declaration with
a marker that has no such symbol (4); and `bodyNotFilled` never (5). -/
theorem failure_iff_not_synthesized {s : Session} (binders : BinderRegistry) (hs : s.Reachable)
    (hphase : s.phase = .bodiesSynthesized) :
    -- (1)
    (∀ symbol ∈ s.symbols.symbols, ∃ body, symbol.body = some body ∧
      MemberShape symbol.signature.scope symbol.signature.name symbol.signature.kind
        symbol.signature.declaredType body) ∧
    ∃ e, Executor.new s binders = .ok e ∧ ∀ use : MemberUse,
      -- (2)
      (∀ owner name, e.failure? owner use = some (.unknownOwner name) ↔
        name = owner ∧ ¬∃ decl, s.unit.IsMarked owner decl) ∧
      -- (3)
      (∀ type ∈ s.unit.classpath, e.failure? type.name use = some (.unknownOwner type.name)) ∧
      (∀ decl d, s.unit.declaration? decl = some d → Marker.find? d = none →
        e.failure? d.qualifiedName use = some (.unknownOwner d.qualifiedName)) ∧
      -- (4)
      (∀ owner name member, e.failure? owner use = some (.memberNotSynthesized name member) ↔
        name = owner ∧ member = use.member ∧
          ∃ decl, s.unit.IsMarked owner decl ∧
            s.symbols.find? decl use.scope use.member = none) ∧
      -- (5)
      ∀ owner name member, e.failure? owner use ≠ some (.bodyNotFilled name member) := by
  refine ⟨fun symbol => hs.exists_memberShape hphase, ⟨s, binders⟩, new_eq_ok hphase binders,
    fun use => ?_⟩
  -- an error about finding the member comes from the search for its body
  have hlookup : ∀ owner err, err.IsLookup →
      (failure? ⟨s, binders⟩ owner use = some err ↔
        (err = .unknownOwner owner ∧ ¬∃ decl, s.unit.IsMarked owner decl) ∨
          (err = .memberNotSynthesized owner use.member ∧
            ∃ decl, s.unit.IsMarked owner decl ∧
              s.symbols.find? decl use.scope use.member = none)) := fun _ _ herr =>
    (failure?_eq_some_iff (e := ⟨s, binders⟩) hs hphase herr).trans
      (body_eq_error_iff (e := ⟨s, binders⟩) hs hphase)
  have hunknown : ∀ owner name,
      failure? ⟨s, binders⟩ owner use = some (.unknownOwner name) ↔
        name = owner ∧ ¬∃ decl, s.unit.IsMarked owner decl := by
    intro owner name
    simp [hlookup owner (.unknownOwner name) trivial]
  refine ⟨hunknown, fun type htype => ?_, fun decl d hd hnone => ?_,
    fun owner name member => ?_, fun owner name member hfailure => ?_⟩
  · refine (hunknown _ _).2 ⟨rfl, fun ⟨decl, hmarked⟩ => ?_⟩
    exact CompilationUnit.not_isMarked_of_mem_classpath htype decl hmarked
  · refine (hunknown _ _).2 ⟨rfl, fun ⟨decl', hmarked⟩ => ?_⟩
    exact CompilationUnit.not_isMarked_of_find?_eq_none hd hnone decl' hmarked
  · simp [hlookup owner (.memberNotSynthesized name member) trivial, and_assoc]
  · simp [hlookup owner (.bodyNotFilled name member) trivial] at hfailure

/-- A type of the classpath and a declaration without a marker are unknown. The editor has written a
factory of its own, so that there is none to be used. -/
theorem failure_iff_not_synthesized_editor :
    let u : CompilationUnit :=
      ⟨{ classes := [Session.draft, Session.editor], classpath := [{ name := controllerBase }] },
        by decide⟩
    let s := ((Session.new u {}).call .runAll).2
    s.phase = .bodiesSynthesized ∧
      ∃ e, Executor.new s {} = .ok e ∧
        e.failure? controllerBase .key = some (.unknownOwner controllerBase) ∧
        e.failure? ⟨"app.Draft"⟩ .key = some (.unknownOwner ⟨"app.Draft"⟩) ∧
        e.failure? ⟨"app.Editor"⟩ (.createScreen none) =
          some (.memberNotSynthesized ⟨"app.Editor"⟩ "createScreen") := by
  intro u s
  have hs : s.Reachable := .call (.new _ _ _) .runAll
  have hphase : s.phase = .bodiesSynthesized := by decide +kernel
  have hunit : s.unit = u := (Session.inputs_call (Session.new u {}) .runAll).1
  have hbase : ({ name := controllerBase } : ExternalType) ∈ s.unit.classpath :=
    hunit ▸ List.mem_cons_self
  have hdraft : s.unit.declaration? ⟨0⟩ = some Session.draft := hunit ▸ rfl
  have hmarked : s.unit.IsMarked ⟨"app.Editor"⟩ ⟨1⟩ :=
    ⟨Session.editor, hunit ▸ rfl, by decide, by decide⟩
  have hfactory : s.symbols.find? ⟨1⟩ .container "createScreen" = none := by decide +kernel
  obtain ⟨-, e, hnew, huses⟩ := failure_iff_not_synthesized {} hs hphase
  obtain ⟨-, hclasspath, hunmarked, -⟩ := huses .key
  obtain ⟨-, -, -, hmissing, -⟩ := huses (.createScreen none)
  have hname : Session.draft.qualifiedName = ⟨"app.Draft"⟩ := by decide
  refine ⟨hphase, e, hnew, hclasspath { name := controllerBase } hbase, ?_, ?_⟩
  · exact hname ▸ hunmarked ⟨0⟩ Session.draft hdraft rfl
  · exact (hmissing _ _ _).2 ⟨rfl, rfl, ⟨1⟩, hmarked, hfactory⟩

end Executor

end ScreenSynthesis

import ScreenSynthesis.Annotation
import ScreenSynthesis.Proofs.ScreenMembers
import ScreenSynthesis.Proofs.ScreenRoundTrip

/-!
# One key for each screen

The constant, the accessor, the factory and the annotation of a screen get its key on separate ways.
The constant is always the owner's name, the others ask for a literal of the user's first. They
agree because there is no constant where the user has declared one.

## Key results

- `ClassDecl.lookupKey_of_declaresKey`, `ClassDecl.lookupKey_of_not_declaresKey`: what the key of a
  screen is
- `Session.Reachable.body_key`, `Session.Reachable.body_accessor`, `Session.Reachable.body_factory`:
  the bodies that have the key in them
- `Session.Reachable.annotations_eq`: the annotations depend on the unit alone
- `Executor.keys_agree`: all keys of a screen are the same, and different screens have constants of
  different values
-/

namespace ScreenSynthesis

namespace ClassDecl

variable {d : ClassDecl} {literal : String}

/-- The first `KEY` in the user's container has a string literal as its value. -/
def DeclaresKey (d : ClassDecl) (literal : String) : Prop :=
  ∃ container before member after,
    d.container = some container ∧ container.members = before ++ member :: after ∧
      (∀ earlier ∈ before, earlier.name ≠ "KEY") ∧ member.name = "KEY" ∧
      member.value = some (.str literal)

/-- `DeclaresKey` holds exactly if the member that `containerMember?` finds under its name has a
literal. -/
private theorem declaresKey_iff :
    d.DeclaresKey literal ↔ (d.containerMember? keyName).bind (·.value) = some (.str literal) := by
  unfold DeclaresKey containerMember?
  -- a key can only be declared in a container
  cases hcontainer : d.container with
  | none => simp
  | some container =>
    simp only [Option.bind_eq_some_iff, List.find?_eq_some_iff_append, Option.some.injEq]
    constructor
    · rintro ⟨_, before, member, after, rfl, hmembers, hbefore, hname, hvalue⟩
      have hnot : ∀ earlier ∈ before, earlier.name ≠ keyName := hbefore
      exact ⟨member, ⟨decide_eq_true hname, before, after, hmembers, by simpa using hnot⟩, hvalue⟩
    · rintro ⟨member, ⟨hname, before, after, hmembers, hbefore⟩, hvalue⟩
      have hnot : ∀ earlier ∈ before, earlier.name ≠ keyName := by simpa using hbefore
      exact ⟨container, before, member, after, rfl, hmembers, hnot, of_decide_eq_true hname, hvalue⟩

/-- `lookupKey` is the literal that the user has declared. -/
theorem lookupKey_of_declaresKey (h : d.DeclaresKey literal) : d.lookupKey = literal := by
  rw [lookupKey, declaresKey_iff.1 h]

/-- `lookupKey` is the owner's name without such a literal. -/
theorem lookupKey_of_not_declaresKey (h : ∀ literal, ¬ d.DeclaresKey literal) :
    d.lookupKey = d.qualifiedName.text := by
  unfold lookupKey
  split
  · rename_i value hvalue
    exact absurd (declaresKey_iff.2 hvalue) (h value)
  · rfl

end ClassDecl

namespace Session

variable {s : Session} {c : Candidate} {decl : DeclId} {d : ClassDecl} {symbol : Symbol}

/-! ## Bodies with a key -/

/-- What a candidate has `wanted` under the name of the key is the `keyStub`, and only if the user
has declared none. -/
private theorem eq_keyStub_of_mem_wanted {signature : Signature} (h : signature ∈ s.wanted c)
    (hd : s.unit.declaration? c.decl = some d) (hscope : signature.scope = .container)
    (hname : signature.name = keyName) :
    signature = Stubs.keyStub c ∧ d.declares keyName .container = false := by
  obtain ⟨v, d', -, -, hd', hstub | hbinding⟩ := mem_wanted_iff.1 h
  · obtain rfl : d = d' := Option.some.inj (hd.symm.trans hd')
    -- all other stubs have another scope or another name
    rcases Stubs.mem_wanted_iff.1 hstub with ⟨-, -, rfl⟩ | ⟨-, hfree, rfl⟩ | ⟨-, type, -, rfl⟩ |
      ⟨-, -, rfl⟩
    · exact nomatch hscope
    · exact ⟨rfl, hfree⟩
    · exact nomatch hscope
    · exact absurd (show factoryName = keyName from hname) (by decide)
  · obtain ⟨-, -, type, -, rfl⟩ := Binding.mem_wanted_iff.1 hbinding
    exact nomatch hscope

/-- The body of a synthesized key has the `lookupKey`, which is the owner's name here. -/
theorem Reachable.body_key (h : s.Reachable) (hphase : s.phase = .bodiesSynthesized)
    (hd : s.unit.declaration? decl = some d)
    (hfind : s.symbols.find? decl .container keyName = some symbol) :
    symbol.body = some (.stringLiteral d.lookupKey) ∧ d.lookupKey = d.qualifiedName.text := by
  obtain ⟨c', -, hdecl, hwanted, hscope, hname⟩ := h.exists_candidate hfind
  obtain ⟨hsignature, hfree⟩ := eq_keyStub_of_mem_wanted hwanted (hdecl ▸ hd) hscope hname
  -- where there is no literal to look up, the key is the name that the constant has anyway
  have hmember : d.containerMember? keyName = none := by simpa [ClassDecl.declares] using hfree
  have hkey : d.lookupKey = d.qualifiedName.text := by rw [ClassDecl.lookupKey, hmember]; rfl
  refine ⟨?_, hkey⟩
  rw [h.body_of_find? hphase hd hfind, hsignature, hkey]
  rfl

/-- The body of an accessor reads what is stored under the `lookupKey`. -/
theorem Reachable.body_accessor (h : s.Reachable) (hphase : s.phase = .bodiesSynthesized)
    (hc : c ∈ s.candidates.candidates) (hd : s.unit.declaration? c.decl = some d)
    (hfind : s.symbols.find? c.decl .owner argName = some symbol) :
    ∃ type : TypeRef, symbol.body = some (.readArgument d.lookupKey type.name type.nullable) := by
  have hv := h.validation?_eq (by rw [hphase]; decide) hc
  obtain ⟨type, -, hsignature⟩ := h.exists_accessorStub hc hv hfind
  refine ⟨type, ?_⟩
  rw [h.body_of_find? hphase hd hfind, hsignature]
  rfl

/-- The body of a factory stores its argument under the `lookupKey`. -/
theorem Reachable.body_factory (h : s.Reachable) (hphase : s.phase = .bodiesSynthesized)
    (hd : s.unit.declaration? decl = some d)
    (hfind : s.symbols.find? decl .container factoryName = some symbol) :
    ∃ parameter, symbol.body = some (.createScreen d.lookupKey d.qualifiedName parameter) := by
  -- the parameter comes from the marker and has no part in the key
  obtain ⟨c', -, v, -, -, hsignature⟩ := h.exists_factoryStub hfind
  refine ⟨Stubs.argumentType c' v, ?_⟩
  rw [h.body_of_find? hphase hd hfind, hsignature, Stubs.bodyFor_factoryStub]

/-! ## Annotations -/

/-- `annotate` marks a candidate with the `lookupKey` of its declaration. -/
private theorem annotate_eq (hd : s.unit.declaration? c.decl = some d) :
    ∃ tooltip, s.annotate c = some ⟨c.owner, c.location, d.lookupKey, tooltip⟩ := by
  rw [annotate, hd, Option.map_some]
  exact ⟨_, rfl⟩

/-- `annotate` depends on the unit of a session alone. -/
theorem annotate_congr {s' : Session} (h : s'.unit = s.unit) : s'.annotate = s.annotate := by
  funext c
  rw [annotate, annotate, h]

/-- `annotations` depend on the unit alone, from the first phase on. -/
theorem Reachable.annotations_eq (h : s.Reachable) (hphase : Phase.scanned.rank ≤ s.phase.rank) :
    s.annotations = .ok ((CandidateIndex.scan s.unit).candidates.filterMap s.annotate) := by
  rw [annotations, requireAtLeast, if_pos hphase, h.candidates_eq hphase]
  rfl

/-- `annotate` marks candidates whose declarations are there once each, in their order. -/
private theorem map_filterMap_annotate {cs : List Candidate}
    (h : ∀ c ∈ cs, ∃ d, s.unit.declaration? c.decl = some d) :
    (cs.filterMap s.annotate).map (fun mark => (mark.owner, mark.location)) =
      cs.map fun c => (c.owner, c.location) := by
  induction cs with
  | nil => rfl
  | cons c rest ih =>
    obtain ⟨d, hd⟩ := h c List.mem_cons_self
    obtain ⟨tooltip, hmark⟩ := annotate_eq hd
    rw [List.filterMap_cons, hmark]
    exact congrArg _ (ih fun c' hc' => h c' (List.mem_cons_of_mem c hc'))

/-- An annotation of an owner has the `lookupKey` of its declaration. -/
private theorem mem_filterMap_annotate {mark : LineAnnotation}
    (hc : c ∈ (CandidateIndex.scan s.unit).candidates) (hd : s.unit.declaration? c.decl = some d)
    (hmem : mark ∈ (CandidateIndex.scan s.unit).candidates.filterMap s.annotate)
    (howner : mark.owner = c.owner) : mark.key = d.lookupKey := by
  obtain ⟨c', hc', hmark⟩ := List.mem_filterMap.1 hmem
  obtain ⟨d', -, hd', -⟩ := CandidateIndex.exists_declaration hc'
  obtain ⟨tooltip, heq⟩ := annotate_eq hd'
  obtain rfl := Option.some.inj (hmark.symm.trans heq)
  -- owners are distinct, so that the annotation is that of the candidate itself
  obtain rfl : c' = c := CandidateIndex.eq_of_owner_eq hc' hc howner
  rw [Option.some.inj (hd.symm.trans hd')]

end Session

namespace Executor

variable {e : Executor} {owner : QualifiedName}

/-- `Executor.new` makes an executor for every session that has come to its last phase. -/
theorem new_eq_ok {s : Session} (hphase : s.phase = .bodiesSynthesized) (binders : BinderRegistry) :
    Executor.new s binders = .ok ⟨s, binders⟩ := by
  rw [Executor.new, Session.requireAtLeast, hphase, if_pos (Nat.le_refl _)]
  rfl

/-- `body` finds the body of a symbol of the owner. -/
theorem exists_symbol_of_body {scope : Scope} {name : String} {body : Body}
    (h : e.body owner scope name = .ok body) :
    ∃ decl symbol, e.session.unit.lookup? owner = some decl ∧
      e.session.symbols.find? decl scope name = some symbol ∧ symbol.body = some body := by
  unfold Executor.body at h
  split at h
  · exact nomatch h
  · rename_i decl hdecl
    split at h
    · exact nomatch h
    · rename_i symbol hfind
      split at h
      · exact nomatch h
      · rename_i body' hbody
        obtain rfl := Except.ok.inj h
        exact ⟨decl, symbol, (Option.filter_eq_some_iff.1 hdecl).1, hfind, hbody⟩

/-- `body` finds the body of every symbol of the owner. -/
theorem body_of_find? {decl : DeclId} {scope : Scope} {name : String} {symbol : Symbol}
    {body : Body} (h : e.session.Reachable) (hphase : e.session.phase = .bodiesSynthesized)
    (hlookup : e.session.unit.lookup? owner = some decl)
    (hfind : e.session.symbols.find? decl scope name = some symbol)
    (hbody : symbol.body = some body) : e.body owner scope name = .ok body := by
  -- both bodies are those that the declaration gives to this signature
  obtain ⟨d, hd, -, hfound⟩ := body_eq h hphase hlookup hfind
  rw [hfound, ← Option.some.inj ((h.body_of_find? hphase hd hfind).symm.trans hbody)]

/-- `key` is the literal in the body of the constant. -/
theorem key_eq_ok_iff {value : String} :
    e.key owner = .ok value ↔ e.body owner .container keyName = .ok (.stringLiteral value) := by
  unfold key
  cases e.body owner .container keyName with
  | error err => simp [bind, Except.bind]
  | ok body =>
    cases body <;>
      simp [bind, Except.bind, pure, Except.pure, throw, throwThe, MonadExceptOf.throw]

/-- `createScreen` makes screens with the key in the body of the factory. -/
private theorem exists_body_of_createScreen {a : Option Parcel} {screen : NavigationDescriptor}
    (h : e.createScreen owner a = .ok screen) :
    ∃ className parameter,
      e.body owner .container factoryName = .ok (.createScreen screen.key className parameter) := by
  cases hbody : e.body owner .container factoryName with
  | error err => simp [createScreen, hbody, bind, Except.bind] at h
  | ok body =>
    -- other bodies make no screens
    cases body with
    | createScreen key className parameter =>
      obtain ⟨b, -, rfl⟩ := (createScreen_eq_ok_iff hbody).1 h
      exact ⟨className, parameter, rfl⟩
    | _ => simp [createScreen, hbody, bind, Except.bind, throw, throwThe, MonadExceptOf.throw] at h

/-- `key` of an owner is the `lookupKey` of its declaration, and also its name. -/
private theorem key_eq_lookupKey {decl : DeclId} {d : ClassDecl} {value : String}
    (h : e.session.Reachable) (hphase : e.session.phase = .bodiesSynthesized)
    (hlookup : e.session.unit.lookup? owner = some decl)
    (hd : e.session.unit.declaration? decl = some d) (hkey : e.key owner = .ok value) :
    value = d.lookupKey ∧ value = d.qualifiedName.text := by
  obtain ⟨decl', symbol, hlookup', hfind, hbody⟩ := exists_symbol_of_body (key_eq_ok_iff.1 hkey)
  obtain rfl : decl = decl' := Option.some.inj (hlookup.symm.trans hlookup')
  -- the symbol that the executor has found is the constant of this declaration
  obtain ⟨hliteral, htext⟩ := h.body_key hphase hd hfind
  obtain rfl : value = d.lookupKey := by simpa [hbody] using hliteral
  exact ⟨rfl, htext⟩

/-- `key` of an owner is the owner's name. -/
private theorem key_eq_text {value : String} (h : e.session.Reachable)
    (hphase : e.session.phase = .bodiesSynthesized) (hkey : e.key owner = .ok value) :
    value = owner.text := by
  obtain ⟨decl, -, hlookup, -⟩ := exists_symbol_of_body (key_eq_ok_iff.1 hkey)
  obtain ⟨d, hd, rfl⟩ := CompilationUnit.declaration?_of_lookup? hlookup
  exact (key_eq_lookupKey h hphase hlookup hd hkey).2

/-- `createScreen` makes screens with the `lookupKey` of the owner's declaration. -/
private theorem key_of_createScreen {decl : DeclId} {d : ClassDecl} {a : Option Parcel}
    {screen : NavigationDescriptor} (h : e.session.Reachable)
    (hphase : e.session.phase = .bodiesSynthesized)
    (hlookup : e.session.unit.lookup? owner = some decl)
    (hd : e.session.unit.declaration? decl = some d)
    (hscreen : e.createScreen owner a = .ok screen) : screen.key = d.lookupKey := by
  obtain ⟨className, parameter, hfactory⟩ := exists_body_of_createScreen hscreen
  obtain ⟨decl', symbol, hlookup', hfind, hbody⟩ := exists_symbol_of_body hfactory
  obtain rfl : decl = decl' := Option.some.inj (hlookup.symm.trans hlookup')
  obtain ⟨parameter', hcreate⟩ := h.body_factory hphase hd hfind
  simp only [hbody, Option.some.injEq, Body.createScreen.injEq] at hcreate
  exact hcreate.1

/-- In the last phase the keys of every screen agree: `key`, what its accessor and its factory have
in their bodies, the key of every screen that `createScreen` makes and the key of its annotation are
the literal that the user has declared (`DeclaresKey`), or else the owner's name. There is one
annotation for each candidate, in source order, and these are the annotations of every session of
the unit from its first phase on. No two owners have constants of the same value. -/
theorem keys_agree {s : Session} (binders : BinderRegistry) (hs : s.Reachable)
    (hphase : s.phase = .bodiesSynthesized) :
    ∃ e annotations, Executor.new s binders = .ok e ∧ s.annotations = .ok annotations ∧
      (∀ c ∈ s.candidates.candidates, ∃ d key,
        s.unit.declaration? c.decl = some d ∧
        (∀ literal, d.DeclaresKey literal → key = literal) ∧
        ((∀ literal, ¬ d.DeclaresKey literal) → key = c.owner.text) ∧
        (∀ symbol, s.symbols.find? c.decl .container "KEY" = some symbol →
          symbol.body = some (.stringLiteral key) ∧ e.key c.owner = .ok key) ∧
        (∀ symbol, s.symbols.find? c.decl .owner "arg" = some symbol →
          ∃ type : TypeRef, symbol.body = some (.readArgument key type.name type.nullable)) ∧
        (∀ symbol, s.symbols.find? c.decl .container "createScreen" = some symbol →
          ∃ parameter, symbol.body = some (.createScreen key c.owner parameter)) ∧
        (∀ value, e.key c.owner = .ok value → value = key) ∧
        (∀ a screen, e.createScreen c.owner a = .ok screen → screen.key = key) ∧
        ∀ mark ∈ annotations, mark.owner = c.owner → mark.key = key) ∧
      s.candidates = CandidateIndex.scan s.unit ∧
      annotations.map (fun mark => (mark.owner, mark.location)) =
        s.candidates.candidates.map (fun c => (c.owner, c.location)) ∧
      (∀ s' : Session, s'.Reachable → s'.unit = s.unit → Phase.scanned.rank ≤ s'.phase.rank →
        s'.annotations = .ok annotations) ∧
      ∀ owner owner' value, e.key owner = .ok value → e.key owner' = .ok value →
        owner = owner' := by
  have hscanned : Phase.scanned.rank ≤ s.phase.rank := by rw [hphase]; decide
  have hcandidates := hs.candidates_eq hscanned
  -- the key of every screen is the one that its declaration is looked up for
  refine ⟨⟨s, binders⟩, _, new_eq_ok hphase binders, hs.annotations_eq hscanned, fun c hc => ?_,
    hcandidates, ?_, fun s' hs' hunit hphase' => ?_, fun owner owner' value hkey hkey' => ?_⟩
  · obtain ⟨d, a, hd, -, howner, -⟩ := CandidateIndex.exists_declaration (hs.mem_scan hc)
    have hlookup : s.unit.lookup? c.owner = some c.decl :=
      howner ▸ CompilationUnit.lookup?_of_declaration? hd
    refine ⟨d, d.lookupKey, hd, fun _ => ClassDecl.lookupKey_of_declaresKey, fun hnot => ?_,
      fun symbol hfind => ?_, fun symbol hfind => hs.body_accessor hphase hc hd hfind,
      fun symbol hfind => howner ▸ hs.body_factory hphase hd hfind, fun value hvalue => ?_,
      fun a screen hscreen => ?_, fun mark hmem howner => ?_⟩
    · rw [ClassDecl.lookupKey_of_not_declaresKey hnot, howner]
    · obtain ⟨hbody, -⟩ := hs.body_key hphase hd hfind
      exact ⟨hbody, key_eq_ok_iff.2 (body_of_find? hs hphase hlookup hfind hbody)⟩
    · exact (key_eq_lookupKey (e := ⟨s, binders⟩) hs hphase hlookup hd hvalue).1
    · exact key_of_createScreen (e := ⟨s, binders⟩) hs hphase hlookup hd hscreen
    · exact Session.mem_filterMap_annotate (hcandidates ▸ hc) hd hmem howner
  · rw [hcandidates]
    exact Session.map_filterMap_annotate fun c hc => by
      obtain ⟨d, -, hd, -⟩ := CandidateIndex.exists_declaration hc
      exact ⟨d, hd⟩
  · rw [hs'.annotations_eq hphase', hunit, Session.annotate_congr hunit]
  · -- both constants have the names of their owners as values
    have htext := key_eq_text (e := ⟨s, binders⟩) hs hphase hkey
    have htext' := key_eq_text (e := ⟨s, binders⟩) hs hphase hkey'
    exact congrArg QualifiedName.mk (htext.symm.trans htext')

/-- Of two screens one has a key of its own, and the other one does not. -/
theorem keys_agree_editor_detail :
    let s := ((Session.new ⟨{ classes := [Session.editor, detail] }, by decide⟩ {}).call .runAll).2
    s.phase = .bodiesSynthesized ∧
      ∃ e annotations, Executor.new s {} = .ok e ∧ s.annotations = .ok annotations ∧
        annotations.map (·.owner) = [⟨"app.Editor"⟩, ⟨"app.Detail"⟩] ∧
        e.key ⟨"app.Editor"⟩ = .ok "app.Editor" ∧
        ∃ screen, e.createScreen ⟨"app.Detail"⟩ none = .ok screen ∧ screen.key = "detail" := by
  intro s
  have hs : s.Reachable := .call (.new _ _ _) .runAll
  have hphase : s.phase = .bodiesSynthesized := by decide +kernel
  have hcandidates : s.candidates.candidates.map (fun c => (c.decl, c.owner)) =
      [(⟨0⟩, ⟨"app.Editor"⟩), (⟨1⟩, ⟨"app.Detail"⟩)] := by decide +kernel
  have hscreen : (createScreen ⟨s, {}⟩ ⟨"app.Detail"⟩ none).toOption.isSome = true := by
    decide +kernel
  have hconstant : (s.symbols.find? ⟨0⟩ .container "KEY").isSome = true := by decide +kernel
  have hundeclared : ∀ literal, ¬ Session.editor.DeclaresKey literal :=
    fun literal h => nomatch ClassDecl.declaresKey_iff.1 h
  have hdeclared : detail.DeclaresKey "detail" := ClassDecl.declaresKey_iff.2 rfl
  obtain ⟨e, annotations, hnew, hannotations, hkeys, -, hmap, -⟩ := keys_agree {} hs hphase
  obtain rfl : e = ⟨s, {}⟩ := Except.ok.inj (hnew.symm.trans (new_eq_ok hphase {}))
  refine ⟨hphase, _, annotations, hnew, hannotations, ?_, ?_, ?_⟩
  · have howners := congrArg (List.map Prod.fst) hmap
    rw [List.map_map, List.map_map] at howners
    exact howners.trans (by decide +kernel)
  · obtain ⟨c, hc, hcandidate⟩ := List.mem_map.1 (hcandidates ▸ List.mem_cons_self)
    obtain ⟨hdecl, howner⟩ := Prod.mk.inj hcandidate
    obtain ⟨d, key, hd, -, hname, hkey, -⟩ := hkeys c hc
    obtain ⟨constant, hfind⟩ := Option.isSome_iff_exists.1 hconstant
    rw [hdecl] at hd hkey
    obtain rfl : Session.editor = d := Option.some.inj hd
    rw [← howner, (hkey constant hfind).2, hname hundeclared, howner]
  · obtain ⟨c, hc, hcandidate⟩ := List.mem_map.1
      (hcandidates ▸ List.mem_cons_of_mem _ List.mem_cons_self)
    obtain ⟨hdecl, howner⟩ := Prod.mk.inj hcandidate
    obtain ⟨d, key, hd, hliteral, -, -, -, -, -, hscreens, -⟩ := hkeys c hc
    rw [hdecl] at hd
    obtain rfl : detail = d := Option.some.inj hd
    rw [howner] at hscreens
    cases hcreate : createScreen ⟨s, {}⟩ ⟨"app.Detail"⟩ none with
    | error err => simp [hcreate, Except.toOption] at hscreen
    | ok screen => exact ⟨screen, rfl, (hscreens none screen hcreate).trans (hliteral _ hdeclared)⟩

end Executor

end ScreenSynthesis

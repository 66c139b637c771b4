import ScreenSynthesis.Proofs.ScreenMembers

/-!
# Which declarations get a binding

A binding has many preconditions, and a declaration that lacks one of them goes without a word. This
file says what they come to: `BindingDue` lists them, and a declaration has a binding exactly if all
of them hold. The type that is bound is put together from the namespace, the binding package and the
name of the layout; trimming it again, as its lookup does, changes nothing.

## Key results

- `Binding.layoutId?_eq_some_iff`: the layout that a declaration names
- `ScreenConfig.bindingNamespace?_eq_some_iff`, `ScreenConfig.trim_bindingNamespace`: where binding
  types are looked for
- `Binding.type?_eq_some_iff`: the binding type of a declaration
- `Session.binding_iff_bindingDue`: who gets a binding, of which type and with which body
-/

namespace ScreenSynthesis

/-! ## Layouts -/

/-- The first argument of the delegation is a path, and its last parts are `layout` and a name. -/
def ClassDecl.NamesLayout (d : ClassDecl) (id : String) : Prop :=
  id ≠ "" ∧ ∃ call path rest before, d.delegation = some call ∧
    call.arguments = .path path :: rest ∧
    Text.pieces '.' path.toList = before ++ ["layout".toList, id.toList]

namespace Binding

/-- `lastPart` is the last of the `pieces` of a path. -/
private theorem exists_pieces_eq_append_lastPart (path : List Char) :
    ∃ before, Text.pieces '.' path = before ++ [lastPart path] := by
  cases hcut : Text.splitLast '.' path with
  | none =>
    have hwhole : Text.pieces '.' path = [path] :=
      Text.pieces_of_not_mem (Text.splitLast_eq_none_iff.1 hcut)
    exact ⟨[], by simp only [hwhole, lastPart, hcut, List.nil_append]⟩
  | some parts =>
    obtain ⟨receiver, last⟩ := parts
    obtain ⟨hpath, hlast⟩ := Text.splitLast_eq_some_iff.1 hcut
    have hpieces : Text.pieces '.' path = Text.pieces '.' receiver ++ [last] := by
      rw [hpath, Text.pieces_append_cons, Text.pieces_of_not_mem hlast]
    exact ⟨Text.pieces '.' receiver, by simp only [hpieces, lastPart, hcut]⟩

/-- `layoutOfPath?` finds a layout exactly if the last `pieces` of the path are `layout` and its
name. -/
private theorem layoutOfPath?_eq_some_iff {path id : String} :
    layoutOfPath? path = some id ↔
      id ≠ "" ∧ ∃ before,
        Text.pieces '.' path.toList = before ++ ["layout".toList, id.toList] := by
  cases hcut : Text.splitLast '.' path.toList with
  | none =>
    -- a path without a dot has one piece only
    have hwhole := Text.pieces_of_not_mem (Text.splitLast_eq_none_iff.1 hcut)
    simp only [layoutOfPath?, hcut, hwhole]
    constructor
    · exact nofun
    · rintro ⟨-, before, heq⟩
      have hlength := congrArg List.length heq
      simp at hlength
  | some parts =>
    obtain ⟨receiver, last⟩ := parts
    obtain ⟨hpath, hlast⟩ := Text.splitLast_eq_some_iff.1 hcut
    -- the piece before the last dot is the last one of the receiver
    obtain ⟨front, hfront⟩ := exists_pieces_eq_append_lastPart receiver
    have hpieces : Text.pieces '.' path.toList = front ++ [lastPart receiver, last] := by
      rw [hpath, Text.pieces_append_cons, Text.pieces_of_not_mem hlast, hfront, List.append_assoc]
      rfl
    simp only [layoutOfPath?, hcut, hpieces]
    constructor
    · intro hsome
      obtain ⟨⟨hreceiver, hne⟩, hid⟩ := (Option.ite_none_right_eq_some).1 hsome
      obtain rfl : String.ofList last = id := Option.some.inj hid
      refine ⟨fun hempty => hne (String.ofList_inj.1 hempty), front, ?_⟩
      have hname : (String.ofList last).toList = last := String.toList_ofList
      rw [hreceiver, hname]
      rfl
    · rintro ⟨hid, before, heq⟩
      obtain ⟨-, hends⟩ := List.append_inj' heq rfl
      obtain ⟨hreceiver, hlast⟩ : lastPart receiver = "layout".toList ∧ last = id.toList := by
        simpa using hends
      have hne : last ≠ [] := fun hnil => hid (String.toList_inj.1 (hlast.symm.trans hnil))
      rw [if_pos ⟨hreceiver, hne⟩, hlast, String.ofList_toList]

/-- `layoutId?` finds a layout exactly if the declaration names it (`NamesLayout`). -/
theorem layoutId?_eq_some_iff {d : ClassDecl} {id : String} :
    layoutId? d = some id ↔ d.NamesLayout id := by
  unfold layoutId? ClassDecl.NamesLayout
  constructor
  · intro hsome
    split at hsome
    · rename_i call hcall
      split at hsome
      · rename_i path hpath
        obtain ⟨hid, before, hpieces⟩ := layoutOfPath?_eq_some_iff.1 hsome
        obtain ⟨rest, harguments⟩ := List.head?_eq_some_iff.1 hpath
        exact ⟨hid, call, path, rest, before, hcall, harguments, hpieces⟩
      · exact nomatch hsome
    · exact nomatch hsome
  · rintro ⟨hid, call, path, rest, before, hcall, harguments, hpieces⟩
    simp only [hcall, harguments, List.head?_cons]
    exact layoutOfPath?_eq_some_iff.2 ⟨hid, before, hpieces⟩

end Binding

/-! ## Types -/

namespace ScreenConfig

variable {config : ScreenConfig} {name : String}

/-- `bindingNamespace?` is the trimmed namespace, joined with the trimmed `bindingPackage` if that
is not blank. -/
theorem bindingNamespace?_eq_some_iff :
    config.bindingNamespace? = some name ↔
      ∃ ns, config.appNamespace = some ns ∧ Text.trim ns ≠ "" ∧
        name = if Text.trim config.bindingPackage = "" then Text.trim ns
          else Text.trim ns ++ "." ++ Text.trim config.bindingPackage := by
  cases hns : config.appNamespace with
  | none => simp [bindingNamespace?, trimmedNamespace?, hns]
  | some ns =>
    -- a blank namespace is none
    by_cases hblank : Text.trim ns = ""
    · simp [bindingNamespace?, trimmedNamespace?, hns, hblank]
    · simp only [bindingNamespace?, trimmedNamespace?, hns, if_neg hblank, Option.some.injEq]
      constructor
      · rintro rfl
        exact ⟨ns, rfl, hblank, rfl⟩
      · rintro ⟨ns', rfl, -, rfl⟩
        rfl

/-- `bindingNamespace?` has nothing left that `Text.trim` would cut off. -/
theorem trim_bindingNamespace (h : config.bindingNamespace? = some name) :
    Text.trim name = name ∧ name ≠ "" := by
  obtain ⟨ns, -, hns, rfl⟩ := bindingNamespace?_eq_some_iff.1 h
  split
  · exact ⟨Text.trim_of_trimmed (Text.trimmed_trim ns), hns⟩
  · rename_i hpackage
    exact ⟨Text.trim_append_trim hns hpackage ".", by simp⟩

end ScreenConfig

namespace Binding

/-- The full name of the binding type for a layout: the namespace, the `bindingPackage` unless it is
blank, and the `typeName` of the layout. -/
def qualifiedTypeName (config : ScreenConfig) (ns id : String) : QualifiedName :=
  let package := Text.trim config.bindingPackage
  ⟨".".intercalate
    ([Text.trim ns] ++ (if package = "" then [] else [package]) ++ [typeName id])⟩

/-- `qualifiedTypeName` joins the `bindingNamespace?` with the `typeName` of the layout. -/
private theorem qualifiedTypeName_eq_inPackage {config : ScreenConfig} {ns name : String}
    (id : String) (hns : Text.trim ns ≠ "")
    (hname : name = if Text.trim config.bindingPackage = "" then Text.trim ns
      else Text.trim ns ++ "." ++ Text.trim config.bindingPackage) :
    qualifiedTypeName config ns id = QualifiedName.inPackage name (typeName id) := by
  unfold qualifiedTypeName QualifiedName.inPackage
  split at hname
  · rename_i hblank
    rw [hname, if_neg hns]
    simp only [hblank, if_true]
    rfl
  · rename_i hpackage
    have hne : name ≠ "" := by simp [hname]
    rw [if_neg hne, hname]
    simp only [if_neg hpackage]
    rfl

/-- `type?` finds the `qualifiedTypeName` of a declaration's layout, if there are a namespace and a
layout and this type is known. -/
theorem type?_eq_some_iff {config : ScreenConfig} {knows : QualifiedName → Bool}
    {d : ClassDecl} {type : QualifiedName} :
    type? config knows d = some type ↔
      ∃ ns id, config.appNamespace = some ns ∧ Text.trim ns ≠ "" ∧ d.NamesLayout id ∧
        type = qualifiedTypeName config ns id ∧ knows type = true := by
  unfold type?
  constructor
  · intro hsome
    split at hsome
    · rename_i name id hname hid
      -- nothing is left to be trimmed, and nothing turns out to be blank
      obtain ⟨htrim, hne⟩ := ScreenConfig.trim_bindingNamespace hname
      obtain ⟨ns, hns, hblank, heq⟩ := ScreenConfig.bindingNamespace?_eq_some_iff.1 hname
      simp only [resolve?, htrim, if_neg hne] at hsome
      obtain ⟨hknown, htype⟩ := (Option.ite_none_right_eq_some).1 hsome
      obtain rfl := Option.some.inj htype
      exact ⟨ns, id, hns, hblank, layoutId?_eq_some_iff.1 hid,
        (qualifiedTypeName_eq_inPackage id hblank heq).symm, hknown⟩
    · exact nomatch hsome
  · rintro ⟨ns, id, hns, hblank, hid, rfl, hknown⟩
    have hname := ScreenConfig.bindingNamespace?_eq_some_iff.2 ⟨ns, hns, hblank, rfl⟩
    obtain ⟨htrim, hne⟩ := ScreenConfig.trim_bindingNamespace hname
    simp only [hname, layoutId?_eq_some_iff.2 hid, resolve?, htrim, if_neg hne]
    rw [← qualifiedTypeName_eq_inPackage id hblank rfl, if_pos hknown]

end Binding

/-! ## Bindings -/

namespace Session

variable {s : Session} {c : Candidate} {decl : DeclId} {d : ClassDecl} {type : QualifiedName}

/-- What it takes for a declaration to get a binding of some type. -/
structure BindingDue (s : Session) (decl : DeclId) (d : ClassDecl) (type : QualifiedName) :
    Prop where
  marked : Marker.find? d ≠ none
  /-- The check of its candidate was not fatal. -/
  passed : ∃ c ∈ s.candidates.candidates, c.decl = decl ∧
    ∃ v, s.validation? c.id = some v ∧ v.fatal = false
  /-- There is a namespace, and a layout that the name of the type is derived from. -/
  named : ∃ ns id, s.config.appNamespace = some ns ∧ Text.trim ns ≠ "" ∧ d.NamesLayout id ∧
    type = Binding.qualifiedTypeName s.config ns id
  known : s.knows type = true
  free : ∀ member ∈ d.members, member.name ≠ "binding"

/-- The signature of a declaration's binding, written out. -/
def bindingSignature (decl : DeclId) (d : ClassDecl) (type : QualifiedName) : Signature where
  owner := decl
  ownerName := d.qualifiedName
  scope := .owner
  name := "binding"
  kind := .conditionalAccessorProperty
  declaredType := some ⟨type, false⟩
  parameters := []
  visibility := .priv

/-- What a candidate has `wanted` under the name of the binding is the `Binding.stub`: a container
that is asked for has the default name. -/
private theorem eq_bindingStub_of_mem_wanted {signature : Signature} (h : signature ∈ s.wanted c)
    (hscope : signature.scope = .owner) (hname : signature.name = bindingName) :
    ∃ v d type, s.validation? c.id = some v ∧ v.fatal = false ∧
      s.unit.declaration? c.decl = some d ∧ d.declares bindingName .owner = false ∧
      Binding.type? s.config s.knows d = some type ∧ signature = Binding.stub c type := by
  obtain ⟨v, d, hv, hfatal, hd, hstub | hbinding⟩ := mem_wanted_iff.1 h
  · rcases Stubs.mem_wanted_iff.1 hstub with ⟨hnone, -, rfl⟩ | ⟨-, -, rfl⟩ | ⟨-, type, -, rfl⟩ |
      ⟨-, -, rfl⟩
    · -- the container: its name is another one
      have hdefault := ClassDecl.containerName_of_container_eq_none hnone
      exact absurd (hdefault.symm.trans hname) (by decide)
    · exact nomatch hscope
    · exact absurd (show argName = bindingName from hname) (by decide)
    · exact nomatch hscope
  · obtain ⟨-, hfree, type, htype, rfl⟩ := Binding.mem_wanted_iff.1 hbinding
    exact ⟨v, d, type, hv, hfatal, hd, hfree, htype, rfl⟩

/-- `BindingDue` holds for a candidate's declaration exactly if the candidate has the stub
`wanted`. -/
private theorem Reachable.bindingDue_iff (h : s.Reachable) (hc : c ∈ s.candidates.candidates)
    (hd : s.unit.declaration? c.decl = some d) :
    s.BindingDue c.decl d type ↔ Binding.stub c type ∈ s.wanted c := by
  constructor
  · rintro ⟨-, ⟨c', hc', hdecl, v, hv, hfatal⟩, hnamed, hknown, hfree⟩
    obtain rfl : c' = c := h.eq_of_decl_eq hc' hc hdecl
    -- whoever has passed the checks is on a controller
    obtain ⟨-, rfl⟩ := h.eq_judge hc hv
    have hcontroller := Validation.judge_onController_of_not_fatal hfatal
    obtain ⟨ns, id, hns, hblank, hid, htype⟩ := hnamed
    have hbinding : Binding.type? s.config s.knows d = some type :=
      Binding.type?_eq_some_iff.2 ⟨ns, id, hns, hblank, hid, htype, hknown⟩
    have hname : d.declares bindingName .owner = false := (d.declares_owner_eq_false_iff _).2 hfree
    exact mem_wanted_iff.2 ⟨_, d, hv, hfatal, hd,
      Or.inr (Binding.mem_wanted_iff.2 ⟨hcontroller, hname, type, hbinding, rfl⟩)⟩
  · intro hwanted
    obtain ⟨v, d', type', hv, hfatal, hd', hfree, hbinding, hstub⟩ :=
      eq_bindingStub_of_mem_wanted hwanted rfl rfl
    obtain rfl : d = d' := Option.some.inj (hd.symm.trans hd')
    -- the declared type of the stub tells which type is bound
    obtain rfl : type = type' :=
      congrArg TypeRef.name (Option.some.inj (congrArg Signature.declaredType hstub))
    obtain ⟨ns, id, hns, hblank, hid, htype, hknown⟩ := Binding.type?_eq_some_iff.1 hbinding
    obtain ⟨a, ha, -⟩ := CandidateIndex.exists_marker (h.mem_scan hc) hd
    exact
      { marked := by rw [ha]; exact nofun
        passed := ⟨c, hc, rfl, v, hv, hfatal⟩
        named := ⟨ns, id, hns, hblank, hid, htype⟩
        known := hknown
        free := (d.declares_owner_eq_false_iff _).1 hfree }

/-- Only the `Binding.stub` is of its kind, and it has the name of bindings. -/
private theorem name_of_mem_wanted {signature : Signature} (h : signature ∈ s.wanted c)
    (hkind : signature.kind = .conditionalAccessorProperty) :
    signature.scope = .owner ∧ signature.name = bindingName := by
  obtain ⟨v, d, -, -, -, hstub | hbinding⟩ := mem_wanted_iff.1 h
  · exact absurd hkind (Stubs.kind_of_mem_wanted hstub)
  · obtain ⟨-, -, type, -, rfl⟩ := Binding.mem_wanted_iff.1 hbinding
    exact ⟨rfl, rfl⟩

/-- A symbol of a declaration is of the kind of bindings exactly if `find?` has it under their
name. -/
private theorem Reachable.kind_eq_binding_iff (h : s.Reachable) {symbol : Symbol}
    (hsymbol : symbol ∈ s.symbols.forOwner decl) :
    symbol.signature.kind = .conditionalAccessorProperty ↔
      s.symbols.find? decl .owner "binding" = some symbol := by
  obtain ⟨hmem, howner⟩ := List.mem_filter.1 hsymbol
  rw [SymbolTable.find?_eq_some_iff h.wellFormed.coherent]
  obtain ⟨c, hc, hwanted⟩ := h.wellFormed.wanted symbol hmem
  constructor
  · intro hkind
    obtain ⟨hscope, hname⟩ := name_of_mem_wanted hwanted hkind
    refine ⟨hmem, ?_⟩
    rw [Symbol.place, Signature.place, of_decide_eq_true howner, hscope, hname]
    rfl
  · rintro ⟨-, hplace⟩
    obtain ⟨v, d, type, -, -, -, -, -, hstub⟩ := eq_bindingStub_of_mem_wanted hwanted
      (congrArg Place.scope hplace) (congrArg Place.name hplace)
    rw [hstub]
    rfl

/-- The binding that `find?` has for a declaration is `BindingDue`, and has the
`bindingSignature`. -/
private theorem Reachable.bindingDue_of_find? (h : s.Reachable)
    (hd : s.unit.declaration? decl = some d)
    {symbol : Symbol} (hfind : s.symbols.find? decl .owner "binding" = some symbol) :
    ∃ type, s.BindingDue decl d type ∧ symbol.signature = bindingSignature decl d type := by
  -- the symbol was asked for by a candidate, under this name
  obtain ⟨c, hc, rfl, hwanted, hscope, hname⟩ := h.exists_candidate hfind
  obtain ⟨v, d', type, -, -, -, -, -, hstub⟩ := eq_bindingStub_of_mem_wanted hwanted hscope hname
  rw [hstub] at hwanted
  obtain ⟨a, -, howner, -⟩ := CandidateIndex.exists_marker (h.mem_scan hc) hd
  refine ⟨type, (h.bindingDue_iff hc hd).2 hwanted, ?_⟩
  rw [hstub, Binding.stub, howner]
  rfl

/-- `find?` has every binding that is due. -/
private theorem BindingDue.exists_find? (hdue : s.BindingDue decl d type) (h : s.Reachable)
    (hphase : Phase.signaturesSynthesized.rank ≤ s.phase.rank)
    (hd : s.unit.declaration? decl = some d) :
    ∃ symbol, s.symbols.find? decl .owner "binding" = some symbol ∧
      symbol.signature = bindingSignature decl d type := by
  obtain ⟨c, hc, rfl, -⟩ := hdue.passed
  have hwanted := (h.bindingDue_iff hc hd).1 hdue
  -- the candidate has got what it asks for
  rw [← h.signatures_forOwner hphase hc] at hwanted
  obtain ⟨symbol, hsymbol, hstub⟩ := List.mem_map.1 hwanted
  have hkind : symbol.signature.kind = .conditionalAccessorProperty := by rw [hstub]; rfl
  obtain ⟨a, -, howner, -⟩ := CandidateIndex.exists_marker (h.mem_scan hc) hd
  refine ⟨symbol, (h.kind_eq_binding_iff hsymbol).1 hkind, ?_⟩
  rw [hstub, Binding.stub, howner]
  rfl

/-- `BindingDue` holds for one type at most, as a declaration names one layout. -/
private theorem BindingDue.type_unique {type' : QualifiedName} (hdue : s.BindingDue decl d type)
    (hdue' : s.BindingDue decl d type') : type = type' := by
  obtain ⟨ns, id, hns, hblank, hid, htype⟩ := hdue.named
  obtain ⟨ns', id', hns', hblank', hid', htype'⟩ := hdue'.named
  have hbinding := Binding.type?_eq_some_iff.2 ⟨ns, id, hns, hblank, hid, htype, hdue.known⟩
  have hbinding' :=
    Binding.type?_eq_some_iff.2 ⟨ns', id', hns', hblank', hid', htype', hdue'.known⟩
  exact Option.some.inj (hbinding.symm.trans hbinding')

/-- `synthesizeSignatures` and `synthesizeBodies` report nothing that a binding lacks, whether they
are accepted or refused. -/
private theorem diagnostics_call_synthesis (s : Session) :
    (s.call .synthesizeSignatures).2.diagnostics = s.diagnostics ∧
      (s.call .synthesizeBodies).2.diagnostics = s.diagnostics := by
  -- a synthesis changes the symbols at most, in any phase
  constructor
  · by_cases hphase : s.phase = .validated ∨ s.phase = .signaturesSynthesized
    · rw [call_synthesizeSignatures hphase]
      rfl
    · rw [call_refused (by simpa using hphase)]
  · by_cases hphase : s.phase = .signaturesSynthesized ∨ s.phase = .bodiesSynthesized
    · rw [call_synthesizeBodies hphase]
      rfl
    · rw [call_refused (by simpa using hphase)]

/-- Once symbols were added, however often, a declaration has a binding exactly if it is
`BindingDue` for some type (1). The symbols that are bindings are those that `find?` has under the
name of bindings (2), and a binding has the type that is due, which is not null, and in the last
phase a body that binds it (3). The place where its type is looked for is trimmed already (4).
Nothing that a binding lacks is ever reported: the diagnostics are the `faults` of the candidates,
and no synthesis adds to them (5). -/
theorem binding_iff_bindingDue (hs : s.Reachable)
    (hphase : Phase.signaturesSynthesized.rank ≤ s.phase.rank) :
    (∀ decl d, s.unit.declaration? decl = some d →
      -- (1)
      ((∃ symbol, s.symbols.find? decl .owner "binding" = some symbol) ↔
        ∃ type, s.BindingDue decl d type) ∧
      -- (2)
      (∀ symbol ∈ s.symbols.forOwner decl,
        symbol.signature.kind = .conditionalAccessorProperty ↔
          s.symbols.find? decl .owner "binding" = some symbol) ∧
      -- (3)
      ∀ symbol type, s.symbols.find? decl .owner "binding" = some symbol →
        s.BindingDue decl d type →
        symbol.signature = bindingSignature decl d type ∧
          (s.phase = .bodiesSynthesized → symbol.body = some (.lazyBind type))) ∧
    -- (4)
    (∀ name, s.config.bindingNamespace? = some name → Text.trim name = name) ∧
    -- (5)
    s.diagnostics.entries =
      s.candidates.candidates.flatMap (Validation.faults s.unit.graph) ∧
    ∀ before : Session,
      (before.call .synthesizeSignatures).2.diagnostics = before.diagnostics ∧
        (before.call .synthesizeBodies).2.diagnostics = before.diagnostics := by
  refine ⟨fun decl d hd => ⟨⟨?_, ?_⟩, fun symbol hsymbol => hs.kind_eq_binding_iff hsymbol,
    fun symbol type hfind hdue => ?_⟩, fun name hname =>
    (ScreenConfig.trim_bindingNamespace hname).1,
    hs.judged.diagnostics_eq (Nat.le_trans (by decide) hphase), diagnostics_call_synthesis⟩
  · rintro ⟨symbol, hfind⟩
    obtain ⟨type, hdue, -⟩ := hs.bindingDue_of_find? hd hfind
    exact ⟨type, hdue⟩
  · rintro ⟨type, hdue⟩
    obtain ⟨symbol, hfind, -⟩ := hdue.exists_find? hs hphase hd
    exact ⟨symbol, hfind⟩
  · -- the symbol that was found is due with its own type, which is the only one
    obtain ⟨type', hdue', hsignature⟩ := hs.bindingDue_of_find? hd hfind
    obtain rfl : type = type' := hdue.type_unique hdue'
    refine ⟨hsignature, fun hbodies => ?_⟩
    rw [hs.body_of_find? hbodies hd hfind, hsignature]
    rfl

/-- A screen with a layout whose name has two words. -/
def album : ClassDecl where
  package := "app"
  name := "Album"
  supertypes := [controllerBase]
  annotations := [{ name := ⟨markerName⟩ }]
  delegation := some { arguments := [.path "com.app.R.layout.photo_list"] }

/-- The album gets a binding below the trimmed namespace, also if the symbols are added twice. -/
theorem binding_iff_bindingDue_album :
    let s := (new ⟨{ classes := [album] }, by decide⟩
      { appNamespace := some " app ", bindingPackage := "\tviews " }
      fun type => type = ⟨"app.views.PhotoListBinding"⟩).afterCalls
        [.scan, .validate, .synthesizeSignatures, .synthesizeSignatures, .synthesizeBodies]
    Phase.signaturesSynthesized.rank ≤ s.phase.rank ∧
      s.unit.declaration? ⟨0⟩ = some album ∧
      s.BindingDue ⟨0⟩ album ⟨"app.views.PhotoListBinding"⟩ ∧
      ∃ symbol, s.symbols.find? ⟨0⟩ .owner "binding" = some symbol ∧
        symbol.signature = bindingSignature ⟨0⟩ album ⟨"app.views.PhotoListBinding"⟩ ∧
        symbol.body = some (.lazyBind ⟨"app.views.PhotoListBinding"⟩) := by
  intro s
  have hs : s.Reachable :=
    .call (.call (.call (.call (.call (.new _ _ _) _) _) _) _) _
  have hphase : Phase.signaturesSynthesized.rank ≤ s.phase.rank := by decide +kernel
  have hbodies : s.phase = .bodiesSynthesized := by decide +kernel
  have hd : s.unit.declaration? ⟨0⟩ = some album := rfl
  let c : Candidate :=
    { id := ⟨0⟩, decl := ⟨0⟩, owner := ⟨"app.Album"⟩, marker := {}, location := {} }
  have hc : c ∈ s.candidates.candidates := by decide +kernel
  have hv : s.validation? ⟨0⟩ = some ⟨true, none, false⟩ := by decide +kernel
  have hlayout : album.NamesLayout "photo_list" :=
    ⟨by decide, _, _, _, [['c', 'o', 'm'], ['a', 'p', 'p'], ['R']], rfl, rfl, by decide +kernel⟩
  have hdue : s.BindingDue ⟨0⟩ album ⟨"app.views.PhotoListBinding"⟩ :=
    { marked := by decide
      passed := ⟨c, hc, rfl, _, hv, rfl⟩
      named := ⟨" app ", "photo_list", rfl, by decide +kernel, hlayout, by decide +kernel⟩
      known := by decide +kernel
      free := by decide }
  obtain ⟨hdeclarations, -⟩ := binding_iff_bindingDue hs hphase
  obtain ⟨hiff, -, hbinding⟩ := hdeclarations ⟨0⟩ album hd
  obtain ⟨symbol, hfind⟩ := hiff.2 ⟨_, hdue⟩
  obtain ⟨hsignature, hbody⟩ := hbinding symbol _ hfind hdue
  exact ⟨hphase, hd, hdue, symbol, hfind, hsignature, hbody hbodies⟩

end Session

end ScreenSynthesis

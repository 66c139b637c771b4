import ScreenSynthesis.Proofs.SessionValidation

/-!
# The members that a screen gets

All candidates of a session share one symbol table, and every stub is added only if its name is free
there. But what one candidate asks for never stands in the way of another, so each gets all it asks
for, in order and once, however often the stubs are added. So the symbols of a declaration can be
told from the declaration and its check alone: `ClassDecl.screenMembers` writes them out.

## Key results

- `complete_call`, `Reachable.complete`: every candidate gets what it asks for, and nothing else is
  added
- `Reachable.signatures_forOwner`, `Reachable.body_eq`: the symbols of one declaration
- `Stubs.wanted_eq_screenMembers`: what a candidate asks for is what is written out for its screen
- `members_of_declaration`: the symbols of any declaration, but for its binding
-/

namespace ScreenSynthesis

namespace Session

variable {s : Session}

/-! ## Every candidate gets what it asks for -/

/-- A session is complete if its symbols, once they are added, are all that the candidates ask for,
one candidate after the other. -/
def Complete (s : Session) : Prop :=
  Phase.signaturesSynthesized.rank ≤ s.phase.rank →
    s.symbols.symbols.map Symbol.signature = s.candidates.candidates.flatMap s.wanted

/-- What different candidates have `wanted` has different places, just as what one of them has. -/
theorem WellFormed.pairwise_wanted (h : s.WellFormed) :
    (s.candidates.candidates.flatMap s.wanted).Pairwise fun a b => a.place ≠ b.place := by
  have hcandidates : s.candidates.candidates.Pairwise fun a b => a.decl ≠ b.decl := by
    rw [h.candidates_eq]
    split
    · exact .nil
    · exact CandidateIndex.pairwise_candidates s.unit
  refine List.pairwise_flatMap.2 ⟨fun c _ => s.pairwise_wanted c, hcandidates.imp ?_⟩
  intro c c' hne a ha b hb hplace
  -- a place belongs to a declaration, and so to one candidate
  have howner : a.owner = b.owner := congrArg Place.owner hplace
  rw [(owner_of_mem_wanted ha).1, (owner_of_mem_wanted hb).1] at howner
  exact hne howner

/-- `idAt?` knows the places of all that is `wanted`, where the symbols are just that. -/
theorem WellFormed.isSome_idAt?_of_complete (h : s.WellFormed)
    (hcomplete :
      s.symbols.symbols.map Symbol.signature = s.candidates.candidates.flatMap s.wanted) :
    ∀ signature ∈ s.candidates.candidates.flatMap s.wanted,
      (s.symbols.idAt? signature.place).isSome := by
  intro signature hmem
  rw [← hcomplete] at hmem
  obtain ⟨symbol, hsymbol, rfl⟩ := List.mem_map.1 hmem
  exact (SymbolTable.isSome_idAt?_iff h.coherent _).2 ⟨symbol, hsymbol, rfl⟩

/-- `afterSignatures` gives every candidate what it asks for, the first time and any later time. -/
theorem Complete.afterSignatures (hs : s.WellFormed) (h : s.Complete)
    (hphase : s.phase = .validated ∨ s.phase = .signaturesSynthesized) :
    s.afterSignatures.Complete := by
  intro _
  show (s.symbols.insertAll (s.candidates.candidates.flatMap s.wanted)).2.symbols.map
    Symbol.signature = s.candidates.candidates.flatMap s.wanted
  rcases hphase with hphase | hphase
  · -- the first time there is nothing that could stand in the way
    have hempty : s.symbols = {} := hs.symbols_eq (by rw [hphase]; decide)
    rw [hempty, SymbolTable.signatures_insertAll (fun _ _ => rfl) hs.pairwise_wanted]
    exact List.nil_append _
  · -- all that is asked for has its place already
    have hcomplete := h (Nat.le_of_eq (by rw [hphase]))
    rw [SymbolTable.insertAll_taken (hs.isSome_idAt?_of_complete hcomplete)]
    exact hcomplete

/-- `afterBodies` gives no candidate anything new. -/
theorem Complete.afterBodies (h : s.Complete)
    (hphase : s.phase = .signaturesSynthesized ∨ s.phase = .bodiesSynthesized) :
    s.afterBodies.Complete := by
  intro _
  have hsignatures : ∀ symbol : Symbol,
      (Bodies.fillSymbol s.unit symbol).signature = symbol.signature := fun symbol =>
    (Bodies.becomes_fillSymbol s.unit symbol).signature_eq
  have hadded : Phase.signaturesSynthesized.rank ≤ s.phase.rank := by
    rcases hphase with hphase | hphase
    · exact Nat.le_of_eq (by rw [hphase])
    · rw [hphase]
      decide
  show (s.symbols.symbols.map (Bodies.fillSymbol s.unit)).map Symbol.signature =
    s.candidates.candidates.flatMap s.wanted
  rw [List.map_map, ← h hadded]
  exact List.map_congr_left fun symbol _ => hsignatures symbol

/-- Every `call` keeps a session `Complete`. -/
theorem complete_call (hs : s.WellFormed) (h : s.Complete) (c : Call) :
    (s.call c).2.Complete := by
  -- a whole run makes several steps, and each needs a well-formed session
  refine (of_call (P := fun s => s.WellFormed ∧ s.Complete) ?_ ?_ ?_ ?_ ⟨hs, h⟩ c).2
  · intro s hphase ⟨hs, _⟩
    exact ⟨hs.afterScan hphase,
      fun hrank => absurd hrank (by show ¬ _ ≤ Phase.rank .scanned; decide)⟩
  · intro s hphase ⟨hs, _⟩
    exact ⟨hs.afterValidate hphase,
      fun hrank => absurd hrank (by show ¬ _ ≤ Phase.rank .validated; decide)⟩
  · intro s hphase ⟨hs, h⟩
    exact ⟨hs.afterSignatures hphase, h.afterSignatures hs hphase⟩
  · intro s hphase ⟨hs, h⟩
    exact ⟨hs.afterBodies hphase, h.afterBodies hphase⟩

/-- Every reachable session is `Complete`. -/
theorem Reachable.complete (h : s.Reachable) : s.Complete := by
  induction h with
  | new u config knows =>
    exact fun hrank => absurd hrank (by show ¬ _ ≤ Phase.rank .created; decide)
  | call hs c ih => exact complete_call hs.wellFormed ih c
  | isDerived _ t target ih => exact ih

/-- `forOwner` lists for the declaration of a candidate what the candidate has `wanted`. -/
theorem Reachable.signatures_forOwner (h : s.Reachable)
    (hphase : Phase.signaturesSynthesized.rank ≤ s.phase.rank) {c : Candidate}
    (hc : c ∈ s.candidates.candidates) :
    (s.symbols.forOwner c.decl).map Symbol.signature = s.wanted c := by
  have hfilter : (s.symbols.forOwner c.decl).map Symbol.signature =
      (s.symbols.symbols.map Symbol.signature).filter (·.owner = c.decl) := by
    rw [List.filter_map]
    rfl
  rw [hfilter, h.complete hphase]
  -- owners tell apart what different candidates ask for
  refine filter_flatMap_eq h.nodup_candidates hc
    (fun signature hmem => decide_eq_true (owner_of_mem_wanted hmem).1)
    fun c' hc' hne signature hmem => ?_
  rw [(owner_of_mem_wanted hmem).1, decide_eq_false_iff_not]
  exact fun hdecl => hne (h.eq_of_decl_eq hc' hc hdecl)

/-- `forOwner` lists nothing for a declaration without a candidate. -/
theorem Reachable.forOwner_eq_nil (h : s.Reachable) {decl : DeclId}
    (hno : ∀ c ∈ s.candidates.candidates, c.decl ≠ decl) : s.symbols.forOwner decl = [] := by
  refine List.filter_eq_nil_iff.2 fun symbol hsymbol howner => ?_
  obtain ⟨c, hc, hwanted⟩ := h.wellFormed.wanted symbol hsymbol
  exact hno c hc ((owner_of_mem_wanted hwanted).1.symm.trans (of_decide_eq_true howner))

/-- The body of a symbol depends on the phase, on its signature and on its declaration. -/
theorem Reachable.body_eq (h : s.Reachable) {symbol : Symbol}
    (hsymbol : symbol ∈ s.symbols.symbols) :
    symbol.body =
      if s.phase = .bodiesSynthesized then
        (s.unit.declaration? symbol.signature.owner).map (Bodies.bodyFor symbol.signature)
      else none := by
  split
  · rename_i hphase
    obtain ⟨d, hd, hbody⟩ := h.wellFormed.filled hphase symbol hsymbol
    rw [hbody, hd, Option.map_some]
  · rename_i hphase
    exact h.wellFormed.stub hphase symbol hsymbol

/-- In the last phase a symbol that `find?` has is filled with `bodyFor` its declaration. -/
theorem Reachable.body_of_find? (h : s.Reachable) (hphase : s.phase = .bodiesSynthesized)
    {decl : DeclId} {d : ClassDecl} {symbol : Symbol} {scope : Scope} {name : String}
    (hd : s.unit.declaration? decl = some d)
    (hfind : s.symbols.find? decl scope name = some symbol) :
    symbol.body = some (Bodies.bodyFor symbol.signature d) := by
  obtain ⟨hmem, hplace⟩ := (SymbolTable.find?_eq_some_iff h.wellFormed.coherent).1 hfind
  have howner : symbol.signature.owner = decl := congrArg Place.owner hplace
  rw [h.body_eq hmem, if_pos hphase, howner, hd, Option.map_some]

end Session

/-! ## The members that are specified -/

namespace ClassDecl

/-- Whether new members have a container to go to: the user's, or a new one whose name is free. -/
def HasContainer (d : ClassDecl) : Prop :=
  d.container ≠ none ∨ ∀ member ∈ d.members, member.name ≠ "Companion"

/-- Whether the user's container, if there is one, has no member with a name. -/
def FreeInContainer (d : ClassDecl) (name : String) : Prop :=
  ∀ container ∈ d.container, ∀ member ∈ container.members, member.name ≠ name

instance (d : ClassDecl) : Decidable d.HasContainer :=
  inferInstanceAs (Decidable (_ ∨ _))

instance (d : ClassDecl) (name : String) : Decidable (d.FreeInContainer name) :=
  inferInstanceAs (Decidable (∀ container ∈ d.container, _))

/-- The members of a screen in their order, written out: a container, the key in it, the accessor
for an argument of some type, and the factory. -/
def screenMembers (d : ClassDecl) (decl : DeclId) (argument : Option TypeRef) : List Signature :=
  (if d.container = none ∧ d.HasContainer then
    [{ owner := decl
       ownerName := d.qualifiedName
       scope := .owner
       name := "Companion"
       kind := .container
       declaredType := none
       parameters := []
       visibility := .pub }]
  else []) ++
  (if d.HasContainer ∧ d.FreeInContainer "KEY" then
    [{ owner := decl
       ownerName := d.qualifiedName
       scope := .container
       name := "KEY"
       kind := .constant
       declaredType := some ⟨⟨"kotlin.String"⟩, false⟩
       parameters := []
       visibility := .pub }]
  else []) ++
  (match argument with
  | some type =>
    if ∀ member ∈ d.members, member.name ≠ "arg" then
      [{ owner := decl
         ownerName := d.qualifiedName
         scope := .owner
         name := "arg"
         kind := .accessorProperty
         declaredType := some type
         parameters := []
         visibility := .priv }]
    else []
  | none => []) ++
  (if d.HasContainer ∧ d.FreeInContainer "createScreen" then
    [{ owner := decl
       ownerName := d.qualifiedName
       scope := .container
       name := "createScreen"
       kind := .factoryFunction
       declaredType := some ⟨⟨"screenkit.NavigationDescriptor"⟩, false⟩
       parameters :=
         match argument with
         | some type => [{ name := "arg", type, defaultNull := type.nullable }]
         | none => []
       visibility := .pub }]
  else [])

/-- `hasRoomForContainer` tests `HasContainer`. -/
private theorem hasRoomForContainer_iff (d : ClassDecl) :
    d.hasRoomForContainer = true ↔ d.HasContainer := by
  -- without a container of the user's, the default name must be free
  cases hcontainer : d.container with
  | none =>
    simp [hasRoomForContainer, HasContainer, containerName, hasMember, hcontainer, defaultContainer]
  | some container => simp [hasRoomForContainer, HasContainer, hcontainer]

/-- `declares` finds a name in the container unless it is `FreeInContainer`. -/
private theorem declares_container_eq_false_iff (d : ClassDecl) (name : String) :
    d.declares name .container = false ↔ d.FreeInContainer name := by
  cases hcontainer : d.container with
  | none => simp [declares, containerMember?, FreeInContainer, hcontainer]
  | some container => simp [declares, containerMember?, FreeInContainer, hcontainer]

/-- `declares` finds a name on the owner unless no member has it. -/
theorem declares_owner_eq_false_iff (d : ClassDecl) (name : String) :
    d.declares name .owner = false ↔ ∀ member ∈ d.members, member.name ≠ name := by
  simp [declares, hasMember]

end ClassDecl

namespace Stubs

variable {c : Candidate} {d : ClassDecl} {v : Validation}

/-- `containerStub` is the container that `screenMembers` writes out. -/
private theorem containerStub_eq (hnone : d.container = none) (howner : c.owner = d.qualifiedName) :
    containerStub c d =
      { owner := c.decl, ownerName := d.qualifiedName, scope := .owner, name := "Companion",
        kind := .container } := by
  have hname : d.containerName = "Companion" := ClassDecl.containerName_of_container_eq_none hnone
  rw [containerStub, hname, howner]

/-- `Stubs.wanted` is what `screenMembers` writes out for the declaration. -/
theorem wanted_eq_screenMembers (howner : c.owner = d.qualifiedName) :
    wanted c d v = d.screenMembers c.decl (argumentType c v) := by
  have hroom : d.hasRoomForContainer = true ↔ d.HasContainer := d.hasRoomForContainer_iff
  have hkey : d.declares keyName .container = false ↔ d.FreeInContainer "KEY" :=
    d.declares_container_eq_false_iff keyName
  have hfactory : d.declares factoryName .container = false ↔ d.FreeInContainer "createScreen" :=
    d.declares_container_eq_false_iff factoryName
  have harg : d.declares argName .owner = false ↔ ∀ member ∈ d.members, member.name ≠ "arg" :=
    d.declares_owner_eq_false_iff argName
  unfold wanted ClassDecl.screenMembers
  -- member by member: the container, the key, the accessor, the factory
  congr 1
  · congr 1
    · congr 1
      · refine ite_congr (propext ?_) (fun h => ?_) fun _ => rfl
        · simp only [Bool.and_eq_true, Option.isNone_iff_eq_none, hroom]
        · rw [containerStub_eq h.1 howner]
      · refine ite_congr (propext ?_) (fun _ => ?_) fun _ => rfl
        · simp only [Bool.and_eq_true, Bool.not_eq_true', hroom, hkey]
        · rw [keyStub, howner]
          rfl
    · cases argumentType c v with
      | none => simp
      | some type =>
        by_cases hfree : ∀ member ∈ d.members, member.name ≠ "arg"
        · rw [if_neg (by simp [harg.2 hfree])]
          simp only [if_pos hfree, Option.toList_some, List.map_cons, List.map_nil]
          rw [accessorStub, howner]
          rfl
        · rw [if_pos (Bool.of_not_eq_false fun h => hfree (harg.1 h))]
          simp only [if_neg hfree]
  · refine ite_congr (propext ?_) (fun _ => ?_) fun _ => rfl
    · simp only [Bool.and_eq_true, Bool.not_eq_true', hroom, hfactory]
    · rw [factoryStub, howner]
      cases argumentType c v <;> rfl

/-- `Stubs.wanted` has a member of the container only if there is room for a container. -/
private theorem hasRoom_of_mem_wanted {signature : Signature} (h : signature ∈ wanted c d v)
    (hscope : signature.scope = .container) : d.hasRoomForContainer = true := by
  rcases mem_wanted_iff.1 h with ⟨-, hroom, -⟩ | ⟨hroom, -, -⟩ | ⟨-, type, -, rfl⟩ | ⟨hroom, -, -⟩
  · exact hroom
  · exact hroom
  · exact nomatch hscope
  · exact hroom

end Stubs

namespace Session

variable {s : Session}

/-- `forOwner` lists the `Stubs.wanted` of a candidate that passed its checks, but for its
binding. -/
private theorem Reachable.stubs_forOwner (h : s.Reachable)
    (hphase : Phase.signaturesSynthesized.rank ≤ s.phase.rank) {c : Candidate} {d : ClassDecl}
    {v : Validation} (hc : c ∈ s.candidates.candidates)
    (hd : s.unit.declaration? c.decl = some d) (hv : s.validation? c.id = some v)
    (hfatal : v.fatal = false) :
    ((s.symbols.forOwner c.decl).filter
      (·.signature.kind ≠ .conditionalAccessorProperty)).map Symbol.signature =
      Stubs.wanted c d v := by
  have hfilter : ((s.symbols.forOwner c.decl).filter
      (·.signature.kind ≠ .conditionalAccessorProperty)).map Symbol.signature =
      ((s.symbols.forOwner c.decl).map Symbol.signature).filter
        (·.kind ≠ .conditionalAccessorProperty) := by
    rw [List.filter_map]
    rfl
  rw [hfilter, h.signatures_forOwner hphase hc, wanted_eq hv hd, hfatal, if_neg (by simp),
    List.filter_append, Stubs.filter_wanted, Binding.filter_wanted, List.append_nil]

/-- `forOwner` lists nothing for a candidate that failed its checks. -/
theorem Reachable.forOwner_eq_nil_of_fatal (h : s.Reachable) {c : Candidate} {v : Validation}
    (hc : c ∈ s.candidates.candidates) (hv : s.validation? c.id = some v)
    (hfatal : v.fatal = true) : s.symbols.forOwner c.decl = [] := by
  refine List.filter_eq_nil_iff.2 fun symbol hsymbol howner => ?_
  obtain ⟨c', hc', hwanted⟩ := h.wellFormed.wanted symbol hsymbol
  have hdecl : c'.decl = c.decl :=
    (owner_of_mem_wanted hwanted).1.symm.trans (of_decide_eq_true howner)
  obtain rfl : c' = c := h.eq_of_decl_eq hc' hc hdecl
  obtain ⟨v', d, hv', hnot, -⟩ := mem_wanted_iff.1 hwanted
  obtain rfl : v' = v := Option.some.inj (hv'.symm.trans hv)
  exact absurd (hfatal.symm.trans hnot) (by decide)

/-- A symbol in the container of its owner is there beside the user's container or a new one. -/
private theorem Reachable.exists_container (h : s.Reachable)
    (hphase : Phase.signaturesSynthesized.rank ≤ s.phase.rank) {symbol : Symbol}
    (hsymbol : symbol ∈ s.symbols.symbols) (hscope : symbol.signature.scope = .container) :
    ∃ d, s.unit.declaration? symbol.signature.owner = some d ∧
      (d.container ≠ none ∨
        ∃ container ∈ s.symbols.forOwner symbol.signature.owner,
          container.signature.scope = .owner ∧ container.signature.name = "Companion" ∧
          container.signature.kind = .container) := by
  obtain ⟨c, hc, hwanted⟩ := h.wellFormed.wanted symbol hsymbol
  obtain ⟨v, d, hv, hfatal, hd, hmem⟩ := mem_wanted_iff.1 hwanted
  rw [(owner_of_mem_wanted hwanted).1]
  refine ⟨d, hd, ?_⟩
  have hroom : d.hasRoomForContainer = true := by
    rcases hmem with hmem | hmem
    · exact Stubs.hasRoom_of_mem_wanted hmem hscope
    · -- a binding is not in the container
      obtain ⟨-, -, type, -, hstub⟩ := Binding.mem_wanted_iff.1 hmem
      rw [hstub] at hscope
      exact nomatch hscope
  by_cases hnone : d.container = none
  · -- whoever asks for a member of the container asks for the container too
    refine Or.inr ?_
    have hstub : Stubs.containerStub c d ∈ s.wanted c :=
      mem_wanted_iff.2 ⟨v, d, hv, hfatal, hd,
        Or.inl (Stubs.mem_wanted_iff.2 (Or.inl ⟨hnone, hroom, rfl⟩))⟩
    rw [← h.signatures_forOwner hphase hc] at hstub
    obtain ⟨container, hcontainer, heq⟩ := List.mem_map.1 hstub
    have hname : (Stubs.containerStub c d).name = "Companion" :=
      ClassDecl.containerName_of_container_eq_none hnone
    exact ⟨container, hcontainer, by rw [heq]; rfl, by rw [heq, hname], by rw [heq]; rfl⟩
  · exact Or.inl hnone

/-- Once symbols were added, however often, the symbols of any declaration but for its binding are
these: none without a marker, and none if the check of its candidate was fatal; else its
`screenMembers`, in this order, with the type that the marker names as the type of the argument. And
no symbol is in a container that does not exist. -/
theorem members_of_declaration (hs : s.Reachable)
    (hphase : Phase.signaturesSynthesized.rank ≤ s.phase.rank) :
    (∀ decl d, s.unit.declaration? decl = some d →
      let members := (s.symbols.forOwner decl).filter
        (·.signature.kind ≠ .conditionalAccessorProperty)
      (Marker.find? d = none → members = []) ∧
      ∀ a, Marker.find? d = some a →
        ∃ c ∈ s.candidates.candidates, ∃ v,
          c.decl = decl ∧ s.validation? c.id = some v ∧
          v.argument = Validation.resolveArgument s.unit.graph d.qualifiedName
            (Marker.ofAttribute a).argument ∧
          (v.fatal = true → members = []) ∧
          (v.fatal = false → members.map Symbol.signature =
            d.screenMembers decl
              (v.argument.map fun type => ⟨type, (Marker.ofAttribute a).nullable⟩))) ∧
    ∀ symbol ∈ s.symbols.symbols,
      ∃ d, s.unit.declaration? symbol.signature.owner = some d ∧
        (symbol.signature.scope = .container →
          d.container ≠ none ∨
            ∃ container ∈ s.symbols.forOwner symbol.signature.owner,
              container.signature.scope = .owner ∧ container.signature.name = "Companion" ∧
              container.signature.kind = .container) := by
  have hscanned : s.candidates = CandidateIndex.scan s.unit :=
    hs.candidates_eq (Nat.le_trans (by decide) hphase)
  refine ⟨fun decl d hd => ⟨fun hnone => ?_, fun a ha => ?_⟩, fun symbol hsymbol => ?_⟩
  · -- there is no candidate for a declaration without a marker
    have hno : ∀ c ∈ s.candidates.candidates, c.decl ≠ decl := by
      rintro c hc rfl
      obtain ⟨d', a, hd', ha, -⟩ := CandidateIndex.exists_declaration (hs.mem_scan hc)
      obtain rfl : d = d' := Option.some.inj (hd.symm.trans hd')
      rw [hnone] at ha
      exact nomatch ha
    rw [hs.forOwner_eq_nil hno]
    rfl
  · obtain ⟨c, hc, rfl⟩ := CandidateIndex.exists_candidate hd ha
    obtain ⟨d', a', hd', ha', howner, hmarker, -⟩ := CandidateIndex.exists_declaration hc
    obtain rfl : d = d' := Option.some.inj (hd.symm.trans hd')
    obtain rfl : a = a' := Option.some.inj (ha.symm.trans ha')
    rw [← hscanned] at hc
    have hv := hs.validation?_eq (Nat.le_trans (by decide) hphase) hc
    refine ⟨c, hc, _, rfl, hv, ?_, fun hfatal => ?_, fun hfatal => ?_⟩
    · rw [← howner, ← hmarker]
      rfl
    · rw [hs.forOwner_eq_nil_of_fatal hc hv hfatal]
      rfl
    · rw [hs.stubs_forOwner hphase hc hd hv hfatal, Stubs.wanted_eq_screenMembers howner,
        Stubs.argumentType, hmarker]
  · by_cases hscope : symbol.signature.scope = .container
    · obtain ⟨d, hd, hcontainer⟩ := hs.exists_container hphase hsymbol hscope
      exact ⟨d, hd, fun _ => hcontainer⟩
    · obtain ⟨c, hc, hwanted⟩ := hs.wellFormed.wanted symbol hsymbol
      obtain ⟨d, hd⟩ := Option.isSome_iff_exists.1 (owner_of_mem_wanted hwanted).2
      exact ⟨d, hd, fun h => absurd h hscope⟩

/-- A screen whose container has a factory of its own, and whose argument may be null. -/
def editor : ClassDecl where
  package := "app"
  name := "Editor"
  supertypes := [controllerBase]
  annotations :=
    [{ name := ⟨markerName⟩, arguments := [⟨none, .classRef "Draft"⟩, ⟨none, .bool true⟩] }]
  container := some { name := "Factory", members := [{ name := factoryName, kind := .function }] }

/-- What the editor edits. -/
def draft : ClassDecl where
  package := "app"
  name := "Draft"
  supertypes := [transportCapability]

/-- The editor gets its key and its accessor, also if the stubs are added twice. -/
theorem members_of_declaration_editor :
    let s := (new ⟨{ classes := [draft, editor] }, by decide⟩ {}).afterCalls
      [.scan, .validate, .synthesizeSignatures, .synthesizeSignatures]
    Phase.signaturesSynthesized.rank ≤ s.phase.rank ∧
      s.unit.declaration? ⟨1⟩ = some editor ∧
      ((s.symbols.forOwner ⟨1⟩).filter
        (·.signature.kind ≠ .conditionalAccessorProperty)).map Symbol.signature =
        [{ owner := ⟨1⟩
           ownerName := ⟨"app.Editor"⟩
           scope := .container
           name := "KEY"
           kind := .constant
           declaredType := some ⟨⟨"kotlin.String"⟩, false⟩ },
         { owner := ⟨1⟩
           ownerName := ⟨"app.Editor"⟩
           scope := .owner
           name := "arg"
           kind := .accessorProperty
           declaredType := some ⟨⟨"app.Draft"⟩, true⟩
           visibility := .priv }] := by
  intro s
  have hs : s.Reachable := .call (.call (.call (.call (.new _ _ _) _) _) _) _
  have hphase : Phase.signaturesSynthesized.rank ≤ s.phase.rank := by decide +kernel
  have hd : s.unit.declaration? ⟨1⟩ = some editor := rfl
  have hpassed : ∀ c ∈ s.candidates.candidates,
      (s.validation? c.id).map (·.fatal) = some false := by decide +kernel
  obtain ⟨-, hmarked⟩ := (members_of_declaration hs hphase).1 ⟨1⟩ editor hd
  obtain ⟨c, hc, v, -, hv, hargument, -, hmembers⟩ := hmarked _ rfl
  have hfatal : v.fatal = false := by simpa [hv] using hpassed c hc
  refine ⟨hphase, hd, (hmembers hfatal).trans ?_⟩
  rw [hargument]
  decide +kernel

end Session

end ScreenSynthesis

import ScreenSynthesis.Proofs.CandidateScan
import ScreenSynthesis.Proofs.SessionCalls

/-!
# What holds of every session

A session can be reached by calls, and between them it may be asked which types derive from which.
`WellFormed` is what holds of it at any time: the candidates are those of the unit, every symbol is
one that some candidate asks for, and in the last phase every symbol has its body.

## Key results

- `wellFormed_call`: calls keep sessions well-formed
- `Reachable.wellFormed`: every session is well-formed
- `Reachable.exists_candidate`: the candidate that has asked for a symbol
- `Reachable.exists_factoryStub`, `Reachable.exists_accessorStub`: the factory and the accessor of a
  declaration come from one candidate
-/

namespace ScreenSynthesis

namespace Session

/-- The sessions that can be reached: calls are made on them, and questions are asked. The oracle
`knows` is given when a session is `new` and stays, like the unit and the configuration. A program
may exchange it between phases; then symbols that were asked of one oracle stand beside symbols that
were asked of another, and a session no longer holds what follows from its inputs. Such sessions are
left out here. -/
inductive Reachable : Session → Prop where
  | new (u : CompilationUnit) (config : ScreenConfig) (knows : QualifiedName → Bool) :
      Reachable (new u config knows)
  | call {s : Session} (h : Reachable s) (c : Call) : Reachable (s.call c).2
  | isDerived {s : Session} (h : Reachable s) (t target : QualifiedName) :
      Reachable (s.isDerived t target).2

/-- What holds of a session at any time. -/
structure WellFormed (s : Session) : Prop where
  candidates_eq : s.candidates = if s.phase = .created then {} else CandidateIndex.scan s.unit
  /-- There are no symbols before the phase that adds them. -/
  symbols_eq : s.phase.rank < Phase.signaturesSynthesized.rank → s.symbols = {}
  coherent : s.symbols.Coherent
  /-- Every symbol is one that some candidate asks for. -/
  wanted : ∀ symbol ∈ s.symbols.symbols,
    ∃ c ∈ s.candidates.candidates, symbol.signature ∈ s.wanted c
  /-- Symbols are stubs until the last phase. -/
  stub : s.phase ≠ .bodiesSynthesized → ∀ symbol ∈ s.symbols.symbols, symbol.body = none
  /-- In the last phase every symbol has the body that its declaration gives it. -/
  filled : s.phase = .bodiesSynthesized → ∀ symbol ∈ s.symbols.symbols,
    ∃ d, s.unit.declaration? symbol.signature.owner = some d ∧
      symbol.body = some (Bodies.bodyFor symbol.signature d)

variable {s : Session}

/-! ## Steps -/

/-- A session without symbols is `WellFormed` if its candidates are those of its phase. -/
private theorem wellFormed_of_symbols_eq (hsymbols : s.symbols = {})
    (hcandidates : s.candidates = if s.phase = .created then {} else CandidateIndex.scan s.unit) :
    s.WellFormed where
  candidates_eq := hcandidates
  symbols_eq _ := hsymbols
  coherent := hsymbols ▸ SymbolTable.coherent_empty
  wanted _ hsymbol := by rw [hsymbols] at hsymbol; exact nomatch hsymbol
  stub _ _ hsymbol := by rw [hsymbols] at hsymbol; exact nomatch hsymbol
  filled _ _ hsymbol := by rw [hsymbols] at hsymbol; exact nomatch hsymbol

/-- `afterScan` keeps a new session `WellFormed`. -/
theorem WellFormed.afterScan (h : s.WellFormed) (hphase : s.phase = .created) :
    s.afterScan.WellFormed :=
  wellFormed_of_symbols_eq (h.symbols_eq (by rw [hphase]; decide)) rfl

/-- `afterValidate` keeps a session `WellFormed`. -/
theorem WellFormed.afterValidate (h : s.WellFormed) (hphase : s.phase = .scanned) :
    s.afterValidate.WellFormed :=
  wellFormed_of_symbols_eq (h.symbols_eq (by rw [hphase]; decide))
    (h.candidates_eq.trans (by rw [hphase]; rfl))

/-- `afterSignatures` keeps a session `WellFormed`. -/
theorem WellFormed.afterSignatures (h : s.WellFormed)
    (hphase : s.phase = .validated ∨ s.phase = .signaturesSynthesized) :
    s.afterSignatures.WellFormed where
  candidates_eq := by
    show s.candidates = _
    rw [h.candidates_eq]
    rcases hphase with hphase | hphase <;> rw [hphase] <;> rfl
  symbols_eq hrank := absurd hrank (Nat.lt_irrefl _)
  coherent := SymbolTable.coherent_insertAll h.coherent _
  wanted symbol hsymbol := by
    -- what a candidate asks for does not depend on the symbols that there are
    rcases SymbolTable.mem_insertAll hsymbol with hold | ⟨hnew, -⟩
    · exact h.wanted symbol hold
    · exact List.mem_flatMap.1 hnew
  stub _ symbol hsymbol := by
    rcases SymbolTable.mem_insertAll hsymbol with hold | ⟨-, hstub⟩
    · exact h.stub (by rcases hphase with hphase | hphase <;> simp [hphase]) symbol hold
    · exact hstub
  filled hbodies := nomatch hbodies

/-- `afterBodies` keeps a session `WellFormed`. -/
theorem WellFormed.afterBodies (h : s.WellFormed)
    (hphase : s.phase = .signaturesSynthesized ∨ s.phase = .bodiesSynthesized) :
    s.afterBodies.WellFormed where
  candidates_eq := by
    show s.candidates = _
    rw [h.candidates_eq]
    rcases hphase with hphase | hphase <;> rw [hphase] <;> rfl
  symbols_eq hrank :=
    absurd hrank (by show ¬Phase.rank .bodiesSynthesized < _; decide)
  coherent := SymbolTable.coherent_fill h.coherent _
  wanted symbol hsymbol := by
    obtain ⟨old, hold, rfl⟩ := List.mem_map.1 hsymbol
    rw [(Bodies.becomes_fillSymbol s.unit old).signature_eq]
    exact h.wanted old hold
  stub hbodies := absurd rfl hbodies
  filled _ symbol hsymbol := by
    obtain ⟨old, hold, rfl⟩ := List.mem_map.1 hsymbol
    rw [(Bodies.becomes_fillSymbol s.unit old).signature_eq]
    -- the first time all symbols are stubs, later all are filled
    rcases hphase with hphase | hphase
    · obtain ⟨c, -, hwanted⟩ := h.wanted old hold
      obtain ⟨d, hd⟩ := Option.isSome_iff_exists.1 (owner_of_mem_wanted hwanted).2
      have hstub := h.stub (by rw [hphase]; decide) old hold
      exact ⟨d, hd, by rw [Bodies.fillSymbol_of_stub hstub hd]⟩
    · obtain ⟨d, hd, hbody⟩ := h.filled hphase old hold
      exact ⟨d, hd, by rw [Bodies.fillSymbol_of_filled hbody, hbody]⟩

/-- Every `call` keeps a session `WellFormed`. -/
theorem wellFormed_call (h : s.WellFormed) (c : Call) : (s.call c).2.WellFormed :=
  of_call (fun _ hphase h => h.afterScan hphase) (fun _ hphase h => h.afterValidate hphase)
    (fun _ hphase h => h.afterSignatures hphase) (fun _ hphase h => h.afterBodies hphase) h c

/-- `isDerived` keeps a session `WellFormed`: it only changes what is remembered of the lineage. -/
private theorem wellFormed_isDerived (h : s.WellFormed) (t target : QualifiedName) :
    (s.isDerived t target).2.WellFormed :=
  { h with }

/-! ## Runs -/

/-- Every reachable session is `WellFormed`. -/
theorem Reachable.wellFormed (h : s.Reachable) : s.WellFormed := by
  -- on how the session was reached: calls and questions keep it well-formed
  induction h with
  | new u config knows => exact wellFormed_of_symbols_eq rfl rfl
  | call _ c ih => exact wellFormed_call ih c
  | isDerived _ t target ih => exact wellFormed_isDerived ih t target

/-- `afterCalls` leads from one reachable session to another. -/
theorem Reachable.afterCalls (h : s.Reachable) (calls : List Call) :
    (s.afterCalls calls).Reachable :=
  of_afterCalls (fun _ c h => h.call c) h calls

/-! ## Symbols and candidates -/

/-- A symbol that `find?` has is `wanted` by the candidate of its declaration. -/
theorem Reachable.exists_candidate (h : s.Reachable) {decl : DeclId} {scope : Scope}
    {name : String} {symbol : Symbol} (hfind : s.symbols.find? decl scope name = some symbol) :
    ∃ c ∈ s.candidates.candidates, c.decl = decl ∧ symbol.signature ∈ s.wanted c ∧
      symbol.signature.scope = scope ∧ symbol.signature.name = name := by
  obtain ⟨hmem, hplace⟩ := (SymbolTable.find?_eq_some_iff h.wellFormed.coherent).1 hfind
  obtain ⟨c, hc, hwanted⟩ := h.wellFormed.wanted symbol hmem
  have howner : symbol.signature.owner = decl := congrArg Place.owner hplace
  exact ⟨c, hc, (owner_of_mem_wanted hwanted).1.symm.trans howner, hwanted,
    congrArg Place.scope hplace, congrArg Place.name hplace⟩

/-- Candidates of a session are equal if their declarations are. -/
theorem Reachable.eq_of_decl_eq (h : s.Reachable) {c c' : Candidate}
    (hc : c ∈ s.candidates.candidates) (hc' : c' ∈ s.candidates.candidates)
    (hdecl : c.decl = c'.decl) : c = c' := by
  rw [h.wellFormed.candidates_eq] at hc hc'
  split at hc
  · exact nomatch hc
  · rename_i hphase
    rw [if_neg hphase] at hc'
    exact CandidateIndex.eq_of_decl_eq hc hc' hdecl

/-- What a candidate has `wanted` under the name of the factory is the `factoryStub`. -/
private theorem eq_factoryStub_of_mem_wanted {c : Candidate} {signature : Signature}
    (h : signature ∈ s.wanted c) (hscope : signature.scope = .container)
    (hname : signature.name = factoryName) :
    ∃ v, s.validation? c.id = some v ∧
      signature = Stubs.factoryStub c (Stubs.argumentType c v) := by
  obtain ⟨v, d, hv, -, -, hstub | hbinding⟩ := mem_wanted_iff.1 h
  · -- the other stubs have another scope or another name
    rcases Stubs.mem_wanted_iff.1 hstub with ⟨-, -, rfl⟩ | ⟨-, -, rfl⟩ | ⟨-, type, -, rfl⟩ |
      ⟨-, -, rfl⟩
    · exact nomatch hscope
    · exact absurd (show keyName = factoryName from hname) (by decide)
    · exact nomatch hscope
    · exact ⟨v, hv, rfl⟩
  · obtain ⟨-, -, type, -, rfl⟩ := Binding.mem_wanted_iff.1 hbinding
    exact nomatch hscope

/-- What a candidate has `wanted` under the name of the accessor is the `accessorStub`: a container
that is asked for has the default name. -/
private theorem eq_accessorStub_of_mem_wanted {c : Candidate} {signature : Signature}
    (h : signature ∈ s.wanted c) (hscope : signature.scope = .owner)
    (hname : signature.name = argName) :
    ∃ v type, s.validation? c.id = some v ∧ Stubs.argumentType c v = some type ∧
      signature = Stubs.accessorStub c type := by
  obtain ⟨v, d, hv, -, -, hstub | hbinding⟩ := mem_wanted_iff.1 h
  · rcases Stubs.mem_wanted_iff.1 hstub with ⟨hnone, -, rfl⟩ | ⟨-, -, rfl⟩ | ⟨-, type, htype, rfl⟩ |
      ⟨-, -, rfl⟩
    · have hdefault := ClassDecl.containerName_of_container_eq_none hnone
      exact absurd (hdefault.symm.trans hname) (by decide)
    · exact nomatch hscope
    · exact ⟨v, type, hv, htype, rfl⟩
    · exact nomatch hscope
  · obtain ⟨-, -, type, -, rfl⟩ := Binding.mem_wanted_iff.1 hbinding
    exact absurd (show bindingName = argName from hname) (by decide)

/-- The factory that `find?` has for a declaration is the `factoryStub` of its candidate. -/
theorem Reachable.exists_factoryStub (h : s.Reachable) {decl : DeclId} {factory : Symbol}
    (hfind : s.symbols.find? decl .container factoryName = some factory) :
    ∃ c ∈ s.candidates.candidates, ∃ v, c.decl = decl ∧ s.validation? c.id = some v ∧
      factory.signature = Stubs.factoryStub c (Stubs.argumentType c v) := by
  obtain ⟨c, hc, hdecl, hwanted, hscope, hname⟩ := h.exists_candidate hfind
  obtain ⟨v, hv, hsignature⟩ := eq_factoryStub_of_mem_wanted hwanted hscope hname
  exact ⟨c, hc, v, hdecl, hv, hsignature⟩

/-- The accessor that `find?` has for the declaration of a candidate is its `accessorStub`. -/
theorem Reachable.exists_accessorStub (h : s.Reachable) {c : Candidate} {v : Validation}
    (hc : c ∈ s.candidates.candidates) (hv : s.validation? c.id = some v) {accessor : Symbol}
    (hfind : s.symbols.find? c.decl .owner argName = some accessor) :
    ∃ type, Stubs.argumentType c v = some type ∧
      accessor.signature = Stubs.accessorStub c type := by
  obtain ⟨c', hc', hdecl, hwanted, hscope, hname⟩ := h.exists_candidate hfind
  obtain rfl : c' = c := h.eq_of_decl_eq hc' hc hdecl
  obtain ⟨v', type, hv', htype, hsignature⟩ := eq_accessorStub_of_mem_wanted hwanted hscope hname
  obtain rfl : v = v' := Option.some.inj (hv.symm.trans hv')
  exact ⟨type, htype, hsignature⟩

end Session

end ScreenSynthesis

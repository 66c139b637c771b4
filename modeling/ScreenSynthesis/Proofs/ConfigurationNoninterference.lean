import ScreenSynthesis.Proofs.BindingExactness
import ScreenSynthesis.Proofs.ScreenKeys

/-!
# What the configuration cannot change

The namespace, the binding package and the known types decide about bindings and about nothing else.
Bindings are put into the same table as all other symbols and shift the positions of those that
follow, but no later name, body or check depends on them: two sessions of one unit that have come to
the same phase differ in their bindings only. Calls give back how many symbols they have added or
filled, and there the bindings count.

## Key results

- `Reachable.record_congr`, `Reachable.unbound_congr`: what is on record, and the symbols that are
  no bindings, depend on the unit and the phase alone
- `Reachable.call_eq_plus`: what a call gives back, bindings apart
- `afterCalls_noninterference`: two runs with the same calls
-/

namespace ScreenSynthesis

/-- The result of a call that adds or fills `k` more symbols. -/
def CallResult.plus (k : Nat) : CallResult → CallResult
  | .count n => .count (n + k)
  | .summary s => .summary { s with signatures := s.signatures + k, bodies := s.bodies + k }

namespace Session

/-- The symbols of a session that are no bindings, each with its body. Their positions are left out,
since bindings shift them. -/
def unbound (s : Session) : List (Signature × Option Body) :=
  (s.symbols.symbols.filter (·.signature.kind ≠ .conditionalAccessorProperty)).map
    fun symbol => (symbol.signature, symbol.body)

/-- How many bindings a call adds or fills. -/
def newBindings (s : Session) (c : Call) : Nat :=
  (s.call c).2.symbols.symbols.countP fun symbol =>
    symbol.signature.kind = .conditionalAccessorProperty ∧ symbol ∉ s.symbols.symbols

variable {s s' : Session}

/-! ## Sessions of one unit in one phase -/

/-- The candidates, `validations`, `diagnostics` and `annotations` of a session depend on its unit
and its phase alone. -/
theorem Reachable.record_congr (h : s.Reachable) (h' : s'.Reachable)
    (hunit : s'.unit = s.unit) (hphase : s'.phase = s.phase) :
    s'.candidates = s.candidates ∧ s'.validations = s.validations ∧
      s'.diagnostics = s.diagnostics ∧ s'.annotations = s.annotations := by
  have hcandidates : s'.candidates = s.candidates := by
    rw [h'.wellFormed.candidates_eq, hphase, hunit, ← h.wellFormed.candidates_eq]
  have hannotations : s'.annotations = s.annotations := by
    rw [annotations, annotations, requireAtLeast, requireAtLeast, hphase, hcandidates,
      annotate_congr hunit]
  -- both sessions have checked their candidates, or neither has
  refine ⟨hcandidates, ?_, ?_, hannotations⟩
  · by_cases hchecked : Phase.validated.rank ≤ s.phase.rank
    · rw [h.judged.validations_eq hchecked, h'.judged.validations_eq (hphase ▸ hchecked),
        hcandidates, hunit]
    · have hlt := Nat.lt_of_not_le hchecked
      rw [(h.judged.blank hlt).1, (h'.judged.blank (hphase ▸ hlt)).1]
  · by_cases hchecked : Phase.validated.rank ≤ s.phase.rank
    · refine congrArg DiagnosticLog.mk ?_
      rw [h.judged.diagnostics_eq hchecked, h'.judged.diagnostics_eq (hphase ▸ hchecked),
        hcandidates, hunit]
    · have hlt := Nat.lt_of_not_le hchecked
      rw [(h.judged.blank hlt).2, (h'.judged.blank (hphase ▸ hlt)).2]

/-- What a candidate has `wanted` beside its binding depends on the unit and the outcome of its
check. -/
private theorem filter_wanted_congr (hunit : s'.unit = s.unit)
    (hvalidations : s'.validations = s.validations) (c : Candidate) :
    (s'.wanted c).filter (·.kind ≠ .conditionalAccessorProperty) =
      (s.wanted c).filter (·.kind ≠ .conditionalAccessorProperty) := by
  unfold wanted validation?
  rw [hunit, hvalidations]
  cases s.validations.lookup c.id with
  | none => rfl
  | some v =>
    -- a candidate whose check was fatal asks for nothing
    by_cases hfatal : v.fatal = true
    · simp only [if_pos hfatal]
    · simp only [if_neg hfatal]
      cases s.unit.declaration? c.decl with
      | none => rfl
      | some d => simp only [List.filter_append, Stubs.filter_wanted, Binding.filter_wanted]

/-- `unbound` is what the candidates have `wanted` beside their bindings, in the last phase with
bodies. -/
private theorem Reachable.unbound_eq (h : s.Reachable)
    (hphase : Phase.signaturesSynthesized.rank ≤ s.phase.rank) :
    s.unbound =
      (s.candidates.candidates.flatMap fun c =>
        (s.wanted c).filter (·.kind ≠ .conditionalAccessorProperty)).map fun signature =>
          (signature,
            if s.phase = .bodiesSynthesized then
              (s.unit.declaration? signature.owner).map (Bodies.bodyFor signature)
            else none) := by
  -- bindings may be left out candidate by candidate
  rw [← List.filter_flatMap, ← h.complete hphase, List.filter_map, List.map_map]
  refine List.map_congr_left fun symbol hsymbol => ?_
  rw [h.body_eq (List.mem_filter.1 hsymbol).1]
  rfl

/-- `unbound` depends on the unit and the phase of a session alone. -/
theorem Reachable.unbound_congr (h : s.Reachable) (h' : s'.Reachable)
    (hunit : s'.unit = s.unit) (hphase : s'.phase = s.phase) : s'.unbound = s.unbound := by
  obtain ⟨hcandidates, hvalidations, -, -⟩ := h.record_congr h' hunit hphase
  by_cases hadded : Phase.signaturesSynthesized.rank ≤ s.phase.rank
  · rw [h.unbound_eq hadded, h'.unbound_eq (hphase ▸ hadded), hcandidates, hunit, hphase]
    simp only [filter_wanted_congr hunit hvalidations]
  · -- there are no symbols at all
    have hlt := Nat.lt_of_not_le hadded
    rw [unbound, unbound, h.wellFormed.symbols_eq hlt, h'.wellFormed.symbols_eq (hphase ▸ hlt)]

/-! ## Results of calls -/

/-- `newBindings` is zero for a call that leaves the symbols as they are. -/
private theorem newBindings_eq_zero {c : Call} (h : (s.call c).2.symbols = s.symbols) :
    s.newBindings c = 0 := by
  refine List.countP_eq_zero.2 fun symbol hsymbol hnew => ?_
  rw [h] at hsymbol
  exact (of_decide_eq_true hnew).2 hsymbol

/-- `scan` and `validate` leave the symbols as they are. -/
private theorem symbols_call_of_mem (s : Session) {c : Call} (hc : c ∈ [.scan, .validate]) :
    (s.call c).2.symbols = s.symbols := by
  -- at the wrong time a call is refused and changes nothing
  by_cases hright : s.phase ∈ c.phases
  · rcases List.mem_cons.1 hc with rfl | hc
    · rw [call_scan (by simpa using hright)]
      rfl
    · obtain rfl := List.mem_singleton.1 hc
      rw [call_validate (by simpa using hright)]
      rfl
  · rw [call_refused hright]

/-- Where all symbols are new after a call, each of them is `unbound` or counted by
`newBindings`. -/
private theorem size_eq_add_newBindings {c : Call}
    (h : ∀ symbol ∈ (s.call c).2.symbols.symbols, symbol ∉ s.symbols.symbols) :
    (s.call c).2.symbols.size = (s.call c).2.unbound.length + s.newBindings c := by
  -- no binding was there before, so all of them count
  have hnew : s.newBindings c = (s.call c).2.symbols.symbols.countP
      fun symbol => symbol.signature.kind = .conditionalAccessorProperty :=
    List.countP_congr fun symbol hsymbol => by simp [h symbol hsymbol]
  rw [hnew, unbound, List.length_map, ← List.countP_eq_length_filter, SymbolTable.size,
    List.length_eq_countP_add_countP
      fun symbol : Symbol => symbol.signature.kind = .conditionalAccessorProperty, Nat.add_comm]
  simp

/-- `synthesizeSignatures` adds nothing once the signatures are there. -/
theorem Reachable.synthesizeSignatures_idle (h : s.Reachable)
    (hphase : s.phase = .signaturesSynthesized) :
    s.call .synthesizeSignatures = (.ok (.count 0), s) :=
  Session.synthesizeSignatures_idle hphase (SymbolTable.insertAll_taken
    (h.wellFormed.isSome_idAt?_of_complete (h.complete (Nat.le_of_eq (by rw [hphase])))))

/-- `synthesizeBodies` fills nothing once the bodies are there. -/
theorem Reachable.synthesizeBodies_idle (h : s.Reachable) (hphase : s.phase = .bodiesSynthesized) :
    s.call .synthesizeBodies = (.ok (.count 0), s) := by
  refine Session.synthesizeBodies_idle hphase (Bodies.fill_idle fun symbol hsymbol => ?_)
  -- every symbol has its body, and what has one is not filled again
  obtain ⟨d, -, hbody⟩ := h.wellFormed.filled hphase symbol hsymbol
  simp [Bodies.newBody?, Symbol.isFilled, hbody]

/-- What a call gives back at its right time if bindings do not count. -/
def resultButBindings (s : Session) (c : Call) : CallResult :=
  let after := (s.call c).2
  match c with
  | .scan => .count after.candidates.size
  | .validate => .count after.diagnostics.size
  | .synthesizeSignatures => .count (if s.phase = .validated then after.unbound.length else 0)
  | .synthesizeBodies =>
    .count (if s.phase = .signaturesSynthesized then after.unbound.length else 0)
  | .runAll =>
    .summary
      { candidates := after.candidates.size
        diagnostics := after.diagnostics.size
        signatures := after.unbound.length
        bodies := after.unbound.length }

/-- `plus` adds nothing to the result of a call that leaves the symbols as they are. -/
private theorem plus_newBindings {c : Call} {r : CallResult}
    (h : (s.call c).2.symbols = s.symbols) :
    r.plus (s.newBindings c) = r := by
  rw [newBindings_eq_zero h]
  cases r <;> rfl

/-- At its right time a call gives back `resultButBindings`, with the `newBindings` on top. -/
theorem Reachable.call_eq_plus (h : s.Reachable) {c : Call} (hc : s.phase ∈ c.phases) :
    (s.call c).1 = .ok ((s.resultButBindings c).plus (s.newBindings c)) := by
  cases c with
  | scan =>
    have hcall := call_scan (s := s) (by simpa using hc)
    rw [plus_newBindings (s.symbols_call_of_mem (by simp)), resultButBindings, hcall]
  | validate =>
    have hcall := call_validate (s := s) (by simpa using hc)
    rw [plus_newBindings (s.symbols_call_of_mem (by simp)), resultButBindings, hcall]
  | synthesizeSignatures =>
    obtain hphase | hphase : s.phase = .validated ∨ s.phase = .signaturesSynthesized := by
      simpa using hc
    · -- the first time, all symbols are new
      have hempty : s.symbols = {} := h.wellFormed.symbols_eq (by rw [hphase]; decide)
      have hcall := call_synthesizeSignatures (s := s) (Or.inl hphase)
      have hsize := size_eq_add_newBindings (s := s) (c := .synthesizeSignatures)
        fun symbol _ => by rw [hempty]; exact List.not_mem_nil
      rw [length_insertAll_wanted hempty] at hcall
      rw [resultButBindings, if_pos hphase, CallResult.plus, ← hsize, hcall]
    · rw [plus_newBindings (by rw [h.synthesizeSignatures_idle hphase]), resultButBindings,
        h.synthesizeSignatures_idle hphase, if_neg (by rw [hphase]; exact nofun)]
  | synthesizeBodies =>
    obtain hphase | hphase : s.phase = .signaturesSynthesized ∨ s.phase = .bodiesSynthesized := by
      simpa using hc
    · -- the first time, no symbol stays the stub that it was
      have hcall := call_synthesizeBodies (s := s) (Or.inl hphase)
      have hafter : (s.call .synthesizeBodies).2.Reachable := h.call _
      have hbodies : (s.call .synthesizeBodies).2.phase = .bodiesSynthesized := by rw [hcall]; rfl
      have hsize := size_eq_add_newBindings (s := s) (c := .synthesizeBodies)
        fun symbol hsymbol hold => by
          obtain ⟨d, -, hbody⟩ := hafter.wellFormed.filled hbodies symbol hsymbol
          have hstub := h.wellFormed.stub (by rw [hphase]; exact nofun) symbol hold
          exact nomatch hbody.symm.trans hstub
      have hcount : (Bodies.fill s.unit s.symbols).1 =
          (s.call .synthesizeBodies).2.symbols.size := by
        rw [hcall, size_symbols_afterBodies]
        refine Bodies.count_fill fun symbol hsymbol => ?_
        obtain ⟨c, -, hwanted⟩ := h.wellFormed.wanted symbol hsymbol
        exact ⟨h.wellFormed.stub (by rw [hphase]; exact nofun) symbol hsymbol,
          (owner_of_mem_wanted hwanted).2⟩
      rw [resultButBindings, if_pos hphase, CallResult.plus, ← hsize, ← hcount, hcall]
    · rw [plus_newBindings (by rw [h.synthesizeBodies_idle hphase]), resultButBindings,
        h.synthesizeBodies_idle hphase, if_neg (by rw [hphase]; exact nofun)]
  | runAll =>
    have hphase : s.phase = .created := by simpa using hc
    have hempty : s.symbols = {} := h.wellFormed.symbols_eq (by rw [hphase]; decide)
    have hcall := call_runAll hphase
    have hsize := size_eq_add_newBindings (s := s) (c := .runAll)
      fun symbol _ => by rw [hempty]; exact List.not_mem_nil
    rw [resultButBindings, CallResult.plus, ← hsize, hcall, runSummary_eq hempty]

/-- `resultButBindings` depends on the unit and the phase alone. -/
private theorem Reachable.resultButBindings_congr (h : s.Reachable) (h' : s'.Reachable)
    (hunit : s'.unit = s.unit) (hphase : s'.phase = s.phase) (c : Call) :
    s'.resultButBindings c = s.resultButBindings c := by
  have hafter : (s'.call c).2.phase = (s.call c).2.phase := by
    rw [phase_call, phase_call, hphase]
  have hunit' : (s'.call c).2.unit = (s.call c).2.unit := by
    rw [(inputs_call s' c).1, (inputs_call s c).1, hunit]
  obtain ⟨hcandidates, -, hdiagnostics, -⟩ := (h.call c).record_congr (h'.call c) hunit' hafter
  have hunbound := (h.call c).unbound_congr (h'.call c) hunit' hafter
  simp only [resultButBindings, hcandidates, hdiagnostics, hunbound, hphase]

/-! ## Two runs -/

/-- With different configurations and known types two calls fail alike, or their results differ by
their `newBindings` only. -/
private theorem Reachable.exists_result (h : s.Reachable) (h' : s'.Reachable)
    (hunit : s'.unit = s.unit) (hphase : s'.phase = s.phase) (c : Call) :
    ∃ result : Except SynthesisError CallResult,
      (s.call c).1 = result.map (·.plus (s.newBindings c)) ∧
      (s'.call c).1 = result.map (·.plus (s'.newBindings c)) := by
  by_cases hc : s.phase ∈ c.phases
  · refine ⟨.ok (s.resultButBindings c), h.call_eq_plus hc, ?_⟩
    rw [h'.call_eq_plus (hphase ▸ hc), h.resultButBindings_congr h' hunit hphase c]
    rfl
  · -- both calls are refused, with the same phase in the error
    refine ⟨.error (.phaseOrder c.operation c.start s.phase), ?_, ?_⟩
    · rw [call_refused hc]
      rfl
    · rw [call_refused (hphase.symm ▸ hc), hphase]
      rfl

/-- Two sessions of one unit, with any configurations and any known types, after the same calls:
they are in the same phase, have the same candidates, validations, diagnostics and annotations, and
their symbols agree, with their bodies and in their order, if the bindings are left out (1). `scan`
and `validate` give back the same in both. So does every other call, except that its `newBindings`
are counted too (2). -/
theorem afterCalls_noninterference (u : CompilationUnit) (config config' : ScreenConfig)
    (knows knows' : QualifiedName → Bool) (calls : List Call) :
    let s := (new u config knows).afterCalls calls
    let s' := (new u config' knows').afterCalls calls
    -- (1)
    s'.phase = s.phase ∧ s'.candidates = s.candidates ∧ s'.validations = s.validations ∧
      s'.diagnostics = s.diagnostics ∧ s'.annotations = s.annotations ∧ s'.unbound = s.unbound ∧
    -- (2)
    (∀ c ∈ [.scan, .validate], (s'.call c).1 = (s.call c).1) ∧
      ∀ c, ∃ result : Except SynthesisError CallResult,
        (s.call c).1 = result.map (·.plus (s.newBindings c)) ∧
          (s'.call c).1 = result.map (·.plus (s'.newBindings c)) := by
  intro s s'
  have hs : s.Reachable := (Reachable.new u config knows).afterCalls calls
  have hs' : s'.Reachable := (Reachable.new u config' knows').afterCalls calls
  have hnew : (new u config' knows').phase = (new u config knows).phase := rfl
  have hphase : s'.phase = s.phase := phase_afterCalls_congr hnew calls
  have hunit : s'.unit = s.unit := by
    rw [(inputs_afterCalls (new u config' knows') calls).1,
      (inputs_afterCalls (new u config knows) calls).1]
    rfl
  obtain ⟨hcandidates, hvalidations, hdiagnostics, hannotations⟩ :=
    hs.record_congr hs' hunit hphase
  refine ⟨hphase, hcandidates, hvalidations, hdiagnostics, hannotations,
    hs.unbound_congr hs' hunit hphase, fun c hc => ?_, hs.exists_result hs' hunit hphase⟩
  -- neither of the two calls has new bindings to count
  obtain ⟨result, hresult, hresult'⟩ := hs.exists_result hs' hunit hphase c
  rw [hresult, hresult', newBindings_eq_zero (s.symbols_call_of_mem hc),
    newBindings_eq_zero (s'.symbols_call_of_mem hc)]

/-- It is not so that all calls give back the same, whatever the configuration and the known types:
the album's binding counts. -/
theorem not_forall_result_eq :
    ¬ ∀ (u : CompilationUnit) (config config' : ScreenConfig) (knows knows' : QualifiedName → Bool)
      (calls : List Call) (c : Call),
      (((new u config' knows').afterCalls calls).call c).1 =
        (((new u config knows).afterCalls calls).call c).1 := by
  intro hsame
  let u : CompilationUnit := ⟨{ classes := [album] }, by decide⟩
  have hplain : ((new u {} fun _ => true).call .runAll).1.toOption =
      some (.summary { candidates := 1, diagnostics := 0, signatures := 3, bodies := 3 }) := by
    decide +kernel
  have hbinding :
      ((new u { appNamespace := some "app" } fun _ => true).call .runAll).1.toOption =
        some (.summary { candidates := 1, diagnostics := 0, signatures := 4, bodies := 4 }) := by
    decide +kernel
  have heq := hsame u {} { appNamespace := some "app" } (fun _ => true) (fun _ => true) [] .runAll
  exact absurd (hbinding.symm.trans ((congrArg Except.toOption heq).trans hplain)) (by decide)

end Session

end ScreenSynthesis

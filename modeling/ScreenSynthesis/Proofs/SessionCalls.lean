import ScreenSynthesis.Call
import ScreenSynthesis.Proofs.SessionSymbols

/-!
# Calls on a session

Whatever calls are made on a session, and in whatever order, it is always one of five sessions: the
one that a new session becomes when each phase up to its own is called once (`inPhase`). A call
either is refused and changes nothing, or leads from one of the five to the next, or is repeated and
then finds nothing to do.

## Key results

- `call_refused`: a call at the wrong time changes nothing
- `call_scan` … `call_runAll`: what the calls do at the right time
- `phase_call`, `phase_afterCalls_congr`: the phase after calls depends on the phase before them
  alone
- `of_call`, `of_afterCalls`: what every phase keeps, every call keeps, and so do any calls
- `synthesizeSignatures_again`, `synthesizeBodies_again`: a repeated synthesis has nothing to do
- `call_eq_inPhase`, `afterCalls_eq_inPhase`: one call, and any calls, on a session
-/

namespace ScreenSynthesis

namespace Call

/-- The operation that a call begins with. -/
def operation : Call → Operation
  | .scan | .runAll => .scan
  | .validate => .validate
  | .synthesizeSignatures => .synthesizeSignatures
  | .synthesizeBodies => .synthesizeBodies

/-- The phase that a call starts from. -/
def start : Call → Phase
  | .scan | .runAll => .created
  | .validate => .scanned
  | .synthesizeSignatures => .validated
  | .synthesizeBodies => .signaturesSynthesized

/-- The phases in which a call is possible. -/
def phases : Call → List Phase
  | .scan | .runAll => [.created]
  | .validate => [.scanned]
  | .synthesizeSignatures => [.validated, .signaturesSynthesized]
  | .synthesizeBodies => [.signaturesSynthesized, .bodiesSynthesized]

section

variable {p : Phase}

@[simp] theorem mem_phases_scan : p ∈ phases .scan ↔ p = .created := by simp [phases]

@[simp] theorem mem_phases_validate : p ∈ phases .validate ↔ p = .scanned := by simp [phases]

@[simp] theorem mem_phases_synthesizeSignatures :
    p ∈ phases .synthesizeSignatures ↔ p = .validated ∨ p = .signaturesSynthesized := by
  simp [phases]

@[simp] theorem mem_phases_synthesizeBodies :
    p ∈ phases .synthesizeBodies ↔ p = .signaturesSynthesized ∨ p = .bodiesSynthesized := by
  simp [phases]

@[simp] theorem mem_phases_runAll : p ∈ phases .runAll ↔ p = .created := by simp [phases]

end

/-- The phase that a call leads to. -/
def target : Call → Phase
  | .scan => .scanned
  | .validate => .validated
  | .synthesizeSignatures => .signaturesSynthesized
  | .synthesizeBodies | .runAll => .bodiesSynthesized

end Call

namespace Session

/-! ## Actions -/

section Actions

variable {α β : Type} {s s' : Session} {a : α} {e : SynthesisError}

/-- `perform` leaves the session of a phase that succeeds. -/
private theorem perform_ok {phase : Session → Except SynthesisError (α × Session)}
    (h : phase s = .ok (a, s')) : perform phase s = (.ok a, s') := by
  rw [perform, h]

/-- `perform` leaves the session as it was if the phase fails. -/
private theorem perform_error {phase : Session → Except SynthesisError (α × Session)}
    (h : phase s = .error e) : perform phase s = (.error e, s) := by
  rw [perform, h]

/-- `map` changes the result of an action, not its session. -/
private theorem map_ok {f : α → β} {x : Action α} (h : x s = (.ok a, s')) :
    (f <$> x : Action β) s = (.ok (f a), s') := by
  simp only [Functor.map, ExceptT.map, ExceptT.mk, bind, StateT.bind, h]
  rfl

/-- `map` hands on the error of an action. -/
private theorem map_error {f : α → β} {x : Action α} (h : x s = (.error e, s')) :
    (f <$> x : Action β) s = (.error e, s') := by
  simp only [Functor.map, ExceptT.map, ExceptT.mk, bind, StateT.bind, h]
  rfl

/-- `bind` goes on with the session of the first action. -/
private theorem bind_ok {f : α → Action β} {x : Action α} (h : x s = (.ok a, s')) :
    (x >>= f : Action β) s = f a s' := by
  simp only [bind, ExceptT.bind, ExceptT.mk, StateT.bind, h]
  rfl

/-- `bind` stops with the error of the first action, in its session. -/
private theorem bind_error {f : α → Action β} {x : Action α} (h : x s = (.error e, s')) :
    (x >>= f : Action β) s = (.error e, s') := by
  simp only [bind, ExceptT.bind, ExceptT.mk, StateT.bind, h]
  rfl

end Actions

/-! ## What the phases do -/

/-- The session after its candidates were found. -/
def afterScan (s : Session) : Session :=
  { s with candidates := CandidateIndex.scan s.unit, phase := .scanned }

/-- The session after its candidates were checked. -/
def afterValidate (s : Session) : Session :=
  let candidates := s.candidates.candidates
  let checked := Validation.checkAll s.lineage candidates
  { s with
    validations := ((candidates.map (·.id)).zip checked.1).reverse ++ s.validations
    diagnostics := s.diagnostics.append checked.2.1
    lineage := checked.2.2
    phase := .validated }

/-- The session after its candidates were offered what they ask for. -/
def afterSignatures (s : Session) : Session :=
  { s with
    symbols := (s.symbols.insertAll (s.candidates.candidates.flatMap s.wanted)).2
    phase := .signaturesSynthesized }

/-- The session after its stubs were filled. -/
def afterBodies (s : Session) : Session :=
  { s with symbols := (Bodies.fill s.unit s.symbols).2, phase := .bodiesSynthesized }

/-- `scan` finds the candidates of a new session. -/
theorem scan_ok {s : Session} (h : s.phase = .created) :
    s.scan = .ok (s.afterScan.candidates.size, s.afterScan) := by
  rw [scan, expectPhase, if_pos (Or.inl h)]
  rfl

/-- `scan` is refused in any other phase. -/
private theorem scan_error {s : Session} (h : s.phase ≠ .created) :
    s.scan = .error (.phaseOrder .scan .created s.phase) := by
  rw [scan, expectPhase, if_neg (by simpa using h)]
  rfl

/-- `validate` checks the candidates once they are found. -/
theorem validate_ok {s : Session} (h : s.phase = .scanned) :
    s.validate = .ok (s.afterValidate.diagnostics.size, s.afterValidate) := by
  rw [validate, expectPhase, if_pos (Or.inl h)]
  rfl

/-- `validate` is refused in any other phase. -/
private theorem validate_error {s : Session} (h : s.phase ≠ .scanned) :
    s.validate = .error (.phaseOrder .validate .scanned s.phase) := by
  rw [validate, expectPhase, if_neg (by simpa using h)]
  rfl

/-- `synthesizeSignatures` offers the table what the candidates have `wanted`. -/
private theorem synthesizeSignatures_ok {s : Session}
    (h : s.phase = .validated ∨ s.phase = .signaturesSynthesized) :
    s.synthesizeSignatures =
      .ok ((s.symbols.insertAll (s.candidates.candidates.flatMap s.wanted)).1.length,
        s.afterSignatures) := by
  rw [synthesizeSignatures, expectPhase, if_pos h, addAllSymbols_eq_insertAll]
  rfl

/-- `synthesizeSignatures` is refused before the checks and after the bodies. -/
private theorem synthesizeSignatures_error {s : Session}
    (h : ¬(s.phase = .validated ∨ s.phase = .signaturesSynthesized)) :
    s.synthesizeSignatures = .error (.phaseOrder .synthesizeSignatures .validated s.phase) := by
  rw [synthesizeSignatures, expectPhase, if_neg h]
  rfl

/-- `synthesizeBodies` fills the stubs of the table. -/
private theorem synthesizeBodies_ok {s : Session}
    (h : s.phase = .signaturesSynthesized ∨ s.phase = .bodiesSynthesized) :
    s.synthesizeBodies = .ok ((Bodies.fill s.unit s.symbols).1, s.afterBodies) := by
  rw [synthesizeBodies, expectPhase, if_pos h]
  rfl

/-- `synthesizeBodies` is refused before there are signatures. -/
private theorem synthesizeBodies_error {s : Session}
    (h : ¬(s.phase = .signaturesSynthesized ∨ s.phase = .bodiesSynthesized)) :
    s.synthesizeBodies =
      .error (.phaseOrder .synthesizeBodies .signaturesSynthesized s.phase) := by
  rw [synthesizeBodies, expectPhase, if_neg h]
  rfl

/-! ## What the calls do -/

/-- `call .scan` counts the candidates. -/
theorem call_scan {s : Session} (h : s.phase = .created) :
    s.call .scan = (.ok (.count s.afterScan.candidates.size), s.afterScan) :=
  map_ok (perform_ok (scan_ok h))

/-- `call .validate` counts the diagnostics. -/
theorem call_validate {s : Session} (h : s.phase = .scanned) :
    s.call .validate = (.ok (.count s.afterValidate.diagnostics.size), s.afterValidate) :=
  map_ok (perform_ok (validate_ok h))

/-- `call .synthesizeSignatures` counts the symbols that are added. -/
theorem call_synthesizeSignatures {s : Session}
    (h : s.phase = .validated ∨ s.phase = .signaturesSynthesized) :
    s.call .synthesizeSignatures =
      (.ok (.count
        (s.symbols.insertAll (s.candidates.candidates.flatMap s.wanted)).1.length),
        s.afterSignatures) :=
  map_ok (perform_ok (synthesizeSignatures_ok h))

/-- `call .synthesizeBodies` counts the stubs that are filled. -/
theorem call_synthesizeBodies {s : Session}
    (h : s.phase = .signaturesSynthesized ∨ s.phase = .bodiesSynthesized) :
    s.call .synthesizeBodies = (.ok (.count (Bodies.fill s.unit s.symbols).1), s.afterBodies) :=
  map_ok (perform_ok (synthesizeBodies_ok h))

/-- How much a whole run of a session produces. -/
def runSummary (s : Session) : Summary :=
  let checked := s.afterScan.afterValidate
  { candidates := s.afterScan.candidates.size
    diagnostics := checked.diagnostics.size
    signatures :=
      (checked.symbols.insertAll (checked.candidates.candidates.flatMap checked.wanted)).1.length
    bodies := (Bodies.fill checked.unit checked.afterSignatures.symbols).1 }

/-- `call .runAll` goes through the four phases of a new session, and gives back its
`runSummary`. -/
theorem call_runAll {s : Session} (h : s.phase = .created) :
    s.call .runAll =
      (.ok (.summary s.runSummary), s.afterScan.afterValidate.afterSignatures.afterBodies) := by
  refine map_ok ?_
  rw [performAll, bind_ok (perform_ok (scan_ok h)),
    bind_ok (perform_ok (validate_ok (s := s.afterScan) rfl)),
    bind_ok (perform_ok (synthesizeSignatures_ok (s := s.afterScan.afterValidate) (Or.inl rfl))),
    bind_ok (perform_ok
      (synthesizeBodies_ok (s := s.afterScan.afterValidate.afterSignatures) (Or.inl rfl)))]
  rfl

/-- `call` at the wrong time is refused and changes nothing. -/
theorem call_refused {s : Session} {c : Call} (h : s.phase ∉ c.phases) :
    s.call c = (.error (.phaseOrder c.operation c.start s.phase), s) := by
  cases c with
  | scan => exact map_error (perform_error (scan_error (by simpa using h)))
  | validate => exact map_error (perform_error (validate_error (by simpa using h)))
  | synthesizeSignatures =>
    exact map_error (perform_error (synthesizeSignatures_error (by simpa using h)))
  | synthesizeBodies =>
    exact map_error (perform_error (synthesizeBodies_error (by simpa using h)))
  | runAll =>
    -- the scan is refused, so none of the later phases is tried
    have hscan := scan_error (by simpa using h)
    exact map_error (bind_error (perform_error hscan))

/-- `call` leads to its `target`, or else leaves the session in the phase that it was in. -/
theorem phase_call (s : Session) (c : Call) :
    (s.call c).2.phase = if s.phase ∈ c.phases then c.target else s.phase := by
  split
  · rename_i h
    cases c with
    | scan => rw [call_scan (by simpa using h)]; rfl
    | validate => rw [call_validate (by simpa using h)]; rfl
    | synthesizeSignatures =>
      rw [call_synthesizeSignatures (by simpa using h)]; rfl
    | synthesizeBodies => rw [call_synthesizeBodies (by simpa using h)]; rfl
    | runAll => rw [call_runAll (by simpa using h)]; rfl
  · rename_i h
    rw [call_refused h]

/-- `call` succeeds at the right time. -/
private theorem call_accepted {s : Session} {c : Call} (h : s.phase ∈ c.phases) :
    ∃ r, (s.call c).1 = .ok r := by
  cases c with
  | scan => exact ⟨_, congrArg Prod.fst (call_scan (by simpa using h))⟩
  | validate => exact ⟨_, congrArg Prod.fst (call_validate (by simpa using h))⟩
  | synthesizeSignatures =>
    exact ⟨_, congrArg Prod.fst (call_synthesizeSignatures (by simpa using h))⟩
  | synthesizeBodies =>
    exact ⟨_, congrArg Prod.fst (call_synthesizeBodies (by simpa using h))⟩
  | runAll => exact ⟨_, congrArg Prod.fst (call_runAll (by simpa using h))⟩

/-- `call` succeeds exactly in its `phases`. -/
private theorem call_eq_ok_iff (s : Session) (c : Call) :
    (∃ r, (s.call c).1 = .ok r) ↔ s.phase ∈ c.phases := by
  constructor
  · rintro ⟨r, hr⟩
    by_cases h : s.phase ∈ c.phases
    · exact h
    · rw [call_refused h] at hr
      exact nomatch hr
  · exact call_accepted

/-- `call` fails only with the phase that it would have needed, and changes nothing then. -/
private theorem call_eq_error {s : Session} {c : Call} {e : SynthesisError}
    (h : (s.call c).1 = .error e) :
    e = .phaseOrder c.operation c.start s.phase ∧ (s.call c).2 = s := by
  have hphase : s.phase ∉ c.phases := fun hmem => by
    obtain ⟨r, hr⟩ := call_accepted hmem
    rw [h] at hr
    exact nomatch hr
  rw [call_refused hphase] at h ⊢
  exact ⟨(Except.error.inj h).symm, rfl⟩

/-- `call .runAll` is `runAll` at once: it makes all its changes or none. -/
theorem call_runAll_eq (s : Session) :
    s.call .runAll = match s.runAll with
      | .ok (summary, s') => (.ok (.summary summary), s')
      | .error e => (.error e, s) := by
  by_cases h : s.phase = .created
  · rw [call_runAll h, runAll, scan_ok h]
    simp only [bind, Except.bind]
    rw [validate_ok (s := s.afterScan) rfl]
    simp only
    rw [synthesizeSignatures_ok (s := s.afterScan.afterValidate) (Or.inl rfl)]
    simp only
    rw [synthesizeBodies_ok (s := s.afterScan.afterValidate.afterSignatures) (Or.inl rfl)]
    rfl
  · rw [call_refused (by simpa using h), runAll, scan_error h]
    rfl

/-! ## How much is produced -/

/-- `afterBodies` adds no symbols. -/
theorem size_symbols_afterBodies (s : Session) : s.afterBodies.symbols.size = s.symbols.size :=
  Bodies.size_fill s.unit s.symbols

/-- `insertAll` adds all symbols of the session that comes of it, if there were none before. -/
theorem length_insertAll_wanted {s : Session} (hempty : s.symbols = {}) :
    (s.symbols.insertAll (s.candidates.candidates.flatMap s.wanted)).1.length =
      s.afterSignatures.symbols.size := by
  rw [afterSignatures, SymbolTable.size_insertAll, hempty]
  exact (Nat.zero_add _).symm

/-- `fill` gives every symbol a body, if there were none before. -/
private theorem count_fill_afterSignatures {s : Session} (hempty : s.symbols = {}) :
    (Bodies.fill s.unit s.afterSignatures.symbols).1 = s.afterSignatures.symbols.size := by
  refine Bodies.count_fill fun symbol hsymbol => ?_
  rw [afterSignatures] at hsymbol
  -- all symbols are stubs that were just added
  rcases SymbolTable.mem_insertAll hsymbol with hold | ⟨hnew, hstub⟩
  · rw [hempty] at hold
    exact nomatch hold
  · obtain ⟨c, -, hwanted⟩ := List.mem_flatMap.1 hnew
    exact ⟨hstub, (owner_of_mem_wanted hwanted).2⟩

/-- `runSummary` counts what there is after the run, if there were no symbols before. -/
theorem runSummary_eq {s : Session} (hempty : s.symbols = {}) :
    s.runSummary =
      let after := s.afterScan.afterValidate.afterSignatures.afterBodies
      { candidates := after.candidates.size
        diagnostics := after.diagnostics.size
        signatures := after.symbols.size
        bodies := after.symbols.size } := by
  have hadded := length_insertAll_wanted (s := s.afterScan.afterValidate) hempty
  have hfilled := count_fill_afterSignatures (s := s.afterScan.afterValidate) hempty
  simp only [runSummary, hadded, hfilled, size_symbols_afterBodies]
  rfl

/-! ## Repeated calls -/

/-- `synthesizeSignatures` finds nothing to do where all that is `wanted` is there. -/
theorem synthesizeSignatures_idle {s : Session} (hphase : s.phase = .signaturesSynthesized)
    (hidle : s.symbols.insertAll (s.candidates.candidates.flatMap s.wanted) = ([], s.symbols)) :
    s.call .synthesizeSignatures = (.ok (.count 0), s) := by
  rw [call_synthesizeSignatures (Or.inr hphase), afterSignatures, hidle, ← hphase]
  rfl

/-- `synthesizeBodies` finds nothing to do where all stubs are filled. -/
theorem synthesizeBodies_idle {s : Session} (hphase : s.phase = .bodiesSynthesized)
    (hidle : Bodies.fill s.unit s.symbols = (0, s.symbols)) :
    s.call .synthesizeBodies = (.ok (.count 0), s) := by
  rw [call_synthesizeBodies (Or.inr hphase), afterBodies, hidle, ← hphase]

/-- `synthesizeSignatures` right after another finds nothing to do. -/
theorem synthesizeSignatures_again (s : Session) :
    s.afterSignatures.call .synthesizeSignatures = (.ok (.count 0), s.afterSignatures) :=
  synthesizeSignatures_idle rfl (SymbolTable.insertAll_insertAll s.symbols _)

/-- `synthesizeBodies` right after another finds nothing to do. -/
theorem synthesizeBodies_again (s : Session) :
    s.afterBodies.call .synthesizeBodies = (.ok (.count 0), s.afterBodies) :=
  synthesizeBodies_idle rfl (Bodies.fill_fill s.unit s.symbols)

/-- `afterSignatures` twice is the same as once. -/
private theorem afterSignatures_afterSignatures (s : Session) :
    s.afterSignatures.afterSignatures = s.afterSignatures :=
  congrArg Prod.snd ((call_synthesizeSignatures (Or.inr rfl)).symm.trans
    (synthesizeSignatures_again s))

/-- `afterBodies` twice is the same as once. -/
private theorem afterBodies_afterBodies (s : Session) : s.afterBodies.afterBodies = s.afterBodies :=
  congrArg Prod.snd ((call_synthesizeBodies (Or.inr rfl)).symm.trans (synthesizeBodies_again s))

/-! ## Any calls -/

/-- What is kept by every phase at its right time is kept by every `call`. -/
theorem of_call {P : Session → Prop} (scan : ∀ s, s.phase = .created → P s → P s.afterScan)
    (validate : ∀ s, s.phase = .scanned → P s → P s.afterValidate)
    (signatures : ∀ s, s.phase = .validated ∨ s.phase = .signaturesSynthesized → P s →
      P s.afterSignatures)
    (bodies : ∀ s, s.phase = .signaturesSynthesized ∨ s.phase = .bodiesSynthesized → P s →
      P s.afterBodies)
    {s : Session} (h : P s) (c : Call) : P (s.call c).2 := by
  by_cases hphase : s.phase ∈ c.phases
  · cases c with
    | scan =>
      have hcreated : s.phase = .created := by simpa using hphase
      rw [call_scan hcreated]
      exact scan s hcreated h
    | validate =>
      have hscanned : s.phase = .scanned := by simpa using hphase
      rw [call_validate hscanned]
      exact validate s hscanned h
    | synthesizeSignatures =>
      have hvalidated : s.phase = .validated ∨ s.phase = .signaturesSynthesized := by
        simpa using hphase
      rw [call_synthesizeSignatures hvalidated]
      exact signatures s hvalidated h
    | synthesizeBodies =>
      have hsynthesized : s.phase = .signaturesSynthesized ∨ s.phase = .bodiesSynthesized := by
        simpa using hphase
      rw [call_synthesizeBodies hsynthesized]
      exact bodies s hsynthesized h
    | runAll =>
      -- the four phases of a whole run follow each other, each at its right time
      have hcreated : s.phase = .created := by simpa using hphase
      rw [call_runAll hcreated]
      have hscanned := scan s hcreated h
      have hvalidated := validate s.afterScan rfl hscanned
      exact bodies _ (Or.inl rfl) (signatures _ (Or.inl rfl) hvalidated)
  · rw [call_refused hphase]
    exact h

/-- `call` changes neither the unit of a session nor its configuration or the types that exist. -/
theorem inputs_call (s : Session) (c : Call) :
    (s.call c).2.unit = s.unit ∧ (s.call c).2.config = s.config ∧ (s.call c).2.knows = s.knows :=
  of_call (P := fun s' => s'.unit = s.unit ∧ s'.config = s.config ∧ s'.knows = s.knows)
    (fun _ _ h => h) (fun _ _ h => h) (fun _ _ h => h) (fun _ _ h => h) ⟨rfl, rfl, rfl⟩ c

/-- What is kept by every `call` is kept by `afterCalls`. -/
theorem of_afterCalls {P : Session → Prop} (hcall : ∀ s c, P s → P (s.call c).2) {s : Session}
    (h : P s) (calls : List Call) : P (s.afterCalls calls) := by
  induction calls generalizing s with
  | nil => exact h
  | cons c rest ih => exact ih (hcall s c h)

/-- `afterCalls` changes neither the unit of a session nor its configuration or the types that
exist. -/
theorem inputs_afterCalls (s : Session) (calls : List Call) :
    (s.afterCalls calls).unit = s.unit ∧ (s.afterCalls calls).config = s.config ∧
      (s.afterCalls calls).knows = s.knows := by
  refine of_afterCalls (P := fun s' => s'.unit = s.unit ∧ s'.config = s.config ∧ s'.knows = s.knows)
    (fun s' c h => ?_) ⟨rfl, rfl, rfl⟩ calls
  obtain ⟨hunit, hconfig, hknows⟩ := inputs_call s' c
  exact ⟨hunit.trans h.1, hconfig.trans h.2.1, hknows.trans h.2.2⟩

/-- The phase after some calls depends on nothing but the phase before them. -/
theorem phase_afterCalls_congr {s s' : Session} (h : s'.phase = s.phase) (calls : List Call) :
    (s'.afterCalls calls).phase = (s.afterCalls calls).phase := by
  induction calls generalizing s s' with
  | nil => exact h
  | cons c rest ih => exact ih (by rw [phase_call, phase_call, h])

/-- `afterCalls` never leads to an earlier phase. -/
private theorem rank_le_afterCalls (s : Session) (calls : List Call) :
    s.phase.rank ≤ (s.afterCalls calls).phase.rank := by
  refine of_afterCalls (P := fun s' => s.phase.rank ≤ s'.phase.rank) (fun s' c hle => ?_)
    (Nat.le_refl _) calls
  -- each phase is followed by one of a higher rank, or by itself
  refine of_call (P := fun s' => s.phase.rank ≤ s'.phase.rank) ?_ ?_ ?_ ?_ hle c
  · intro s' hphase hle
    have hstep : s'.phase.rank ≤ Phase.rank .scanned := by simp [hphase, Phase.rank]
    exact Nat.le_trans hle hstep
  · intro s' hphase hle
    have hstep : s'.phase.rank ≤ Phase.rank .validated := by simp [hphase, Phase.rank]
    exact Nat.le_trans hle hstep
  · intro s' hphase hle
    have hstep : s'.phase.rank ≤ Phase.rank .signaturesSynthesized := by
      rcases hphase with hphase | hphase <;> simp [hphase, Phase.rank]
    exact Nat.le_trans hle hstep
  · intro s' hphase hle
    have hstep : s'.phase.rank ≤ Phase.rank .bodiesSynthesized := by
      rcases hphase with hphase | hphase <;> simp [hphase, Phase.rank]
    exact Nat.le_trans hle hstep

/-! ## The five sessions -/

/-- The calls that take a new session to a phase: one for each phase on the way. -/
def callsTo : Phase → List Call
  | .created => []
  | .scanned => [.scan]
  | .validated => [.scan, .validate]
  | .signaturesSynthesized => [.scan, .validate, .synthesizeSignatures]
  | .bodiesSynthesized => [.scan, .validate, .synthesizeSignatures, .synthesizeBodies]

section

variable (u : CompilationUnit) (config : ScreenConfig) (knows : QualifiedName → Bool)

/-- The session that a new session becomes on the shortest way to a phase. -/
def inPhase (p : Phase) : Session := (new u config knows).afterCalls (callsTo p)

/-- `inPhase .scanned` is a new session after its scan. -/
theorem inPhase_scanned : inPhase u config knows .scanned = (new u config knows).afterScan :=
  congrArg Prod.snd (call_scan (s := new u config knows) rfl)

/-- `inPhase .validated` comes one step after `inPhase .scanned`. -/
theorem inPhase_validated :
    inPhase u config knows .validated = (inPhase u config knows .scanned).afterValidate := by
  show ((inPhase u config knows .scanned).call .validate).2 = _
  rw [inPhase_scanned, call_validate rfl]

/-- `inPhase .signaturesSynthesized` comes one step after `inPhase .validated`. -/
theorem inPhase_signaturesSynthesized :
    inPhase u config knows .signaturesSynthesized =
      (inPhase u config knows .validated).afterSignatures := by
  show ((inPhase u config knows .validated).call .synthesizeSignatures).2 = _
  rw [inPhase_validated, call_synthesizeSignatures (Or.inl rfl)]

/-- `inPhase .bodiesSynthesized` comes one step after `inPhase .signaturesSynthesized`. -/
theorem inPhase_bodiesSynthesized :
    inPhase u config knows .bodiesSynthesized =
      (inPhase u config knows .signaturesSynthesized).afterBodies := by
  show ((inPhase u config knows .signaturesSynthesized).call .synthesizeBodies).2 = _
  rw [inPhase_signaturesSynthesized, call_synthesizeBodies (Or.inl rfl)]

/-- `inPhase` leads to its phase. -/
theorem phase_inPhase (p : Phase) : (inPhase u config knows p).phase = p := by
  cases p with
  | created => rfl
  | scanned => rw [inPhase_scanned]; rfl
  | validated => rw [inPhase_validated]; rfl
  | signaturesSynthesized => rw [inPhase_signaturesSynthesized]; rfl
  | bodiesSynthesized => rw [inPhase_bodiesSynthesized]; rfl

/-- `call .runAll` takes the shortest way to the last phase. -/
theorem call_runAll_new :
    (new u config knows).call .runAll =
      (.ok (.summary (new u config knows).runSummary),
        inPhase u config knows .bodiesSynthesized) := by
  rw [call_runAll rfl, inPhase_bodiesSynthesized, inPhase_signaturesSynthesized,
    inPhase_validated, inPhase_scanned]

/-- `call` leads from the session of a phase to the session of a phase again. -/
theorem call_eq_inPhase {s : Session} (h : s = inPhase u config knows s.phase) (c : Call) :
    (s.call c).2 = inPhase u config knows (s.call c).2.phase := by
  -- phase by phase: the session before is that of its phase, and so is the next
  refine of_call (P := fun s => s = inPhase u config knows s.phase) ?_ ?_ ?_ ?_ h c
  · intro s hphase hs
    rw [hphase] at hs
    show s.afterScan = inPhase u config knows .scanned
    rw [inPhase_scanned, hs]
    rfl
  · intro s hphase hs
    rw [hphase] at hs
    show s.afterValidate = inPhase u config knows .validated
    rw [inPhase_validated, hs]
  · -- the phase is either new, or repeated and then changes nothing
    intro s hphase hs
    show s.afterSignatures = inPhase u config knows .signaturesSynthesized
    rcases hphase with hphase | hphase
    · rw [hphase] at hs
      rw [inPhase_signaturesSynthesized, hs]
    · rw [hphase, inPhase_signaturesSynthesized] at hs
      rw [inPhase_signaturesSynthesized, hs, afterSignatures_afterSignatures]
  · intro s hphase hs
    show s.afterBodies = inPhase u config knows .bodiesSynthesized
    rcases hphase with hphase | hphase
    · rw [hphase] at hs
      rw [inPhase_bodiesSynthesized, hs]
    · rw [hphase, inPhase_bodiesSynthesized] at hs
      rw [inPhase_bodiesSynthesized, hs, afterBodies_afterBodies]

/-- `afterCalls` leads from a new session to that of the phase it comes to. -/
theorem afterCalls_eq_inPhase (calls : List Call) :
    (new u config knows).afterCalls calls =
      inPhase u config knows ((new u config knows).afterCalls calls).phase :=
  of_afterCalls (P := fun s => s = inPhase u config knows s.phase)
    (fun _ c hs => call_eq_inPhase u config knows hs c) rfl calls

/-- `runSummary` counts every symbol twice: as added and as filled. -/
private theorem runSummary_new :
    (new u config knows).runSummary =
      { candidates := (inPhase u config knows .bodiesSynthesized).candidates.size
        diagnostics := (inPhase u config knows .bodiesSynthesized).diagnostics.size
        signatures := (inPhase u config knows .bodiesSynthesized).symbols.size
        bodies := (inPhase u config knows .bodiesSynthesized).symbols.size } := by
  rw [inPhase_bodiesSynthesized, inPhase_signaturesSynthesized, inPhase_validated, inPhase_scanned]
  exact runSummary_eq rfl

end

/-- Whatever calls were made on a new session: a `call` fails only with `phaseOrder`, and then
changes nothing (1); it succeeds exactly in its `phases`, and no calls lead to an earlier phase (2);
the session is that which the shortest way to its phase gives (`inPhase`), so that repeated
syntheses find nothing to do and the last phase is the same however it was reached (3); and a whole
run fills every symbol that it has added (4). -/
theorem afterCalls_canonical (u : CompilationUnit) (config : ScreenConfig)
    (knows : QualifiedName → Bool) (calls : List Call) :
    let s := (new u config knows).afterCalls calls
    -- (1)
    (∀ c e, (s.call c).1 = .error e →
      e = .phaseOrder c.operation c.start s.phase ∧ (s.call c).2 = s) ∧
    -- (2)
    (∀ c, (∃ r, (s.call c).1 = .ok r) ↔ s.phase ∈ c.phases) ∧
    (∀ later, s.phase.rank ≤ (s.afterCalls later).phase.rank) ∧
    -- (3)
    s = inPhase u config knows s.phase ∧
    (s.phase = .signaturesSynthesized → s.call .synthesizeSignatures = (.ok (.count 0), s)) ∧
    (s.phase = .bodiesSynthesized → s.call .synthesizeBodies = (.ok (.count 0), s)) ∧
    (s.phase = .bodiesSynthesized → s = ((new u config knows).call .runAll).2) ∧
    -- (4)
    (∀ summary, (s.call .runAll).1 = .ok (.summary summary) →
      summary.signatures = summary.bodies ∧
      summary.signatures = (s.call .runAll).2.symbols.size ∧
      summary.candidates = (s.call .runAll).2.candidates.size ∧
      summary.diagnostics = (s.call .runAll).2.diagnostics.size) := by
  intro s
  have hs : s = inPhase u config knows s.phase := afterCalls_eq_inPhase u config knows calls
  refine ⟨fun c e => call_eq_error, fun c => call_eq_ok_iff s c, rank_le_afterCalls s, hs,
    fun hphase => ?_, fun hphase => ?_, fun hphase => ?_, fun summary hsummary => ?_⟩
  · -- the session has just added its symbols, whatever the calls were
    rw [hs, hphase, inPhase_signaturesSynthesized]
    exact synthesizeSignatures_again _
  · rw [hs, hphase, inPhase_bodiesSynthesized]
    exact synthesizeBodies_again _
  · rw [call_runAll_new, ← hphase]
    exact hs
  · -- a whole run succeeds only on a new session
    have hcreated : s.phase = .created := by
      simpa [Call.phases] using (call_eq_ok_iff s .runAll).1 ⟨_, hsummary⟩
    have hnew : s = new u config knows := by
      rw [hs, hcreated]
      rfl
    rw [hnew, call_runAll_new] at hsummary ⊢
    obtain rfl : (new u config knows).runSummary = summary := by simpa using hsummary
    simp only [runSummary_new, and_self]

end Session

end ScreenSynthesis

import ScreenSynthesis.Proofs.Lookup
import ScreenSynthesis.Proofs.SessionReachability
import ScreenSynthesis.Proofs.ValidationExactness

/-!
# What a session has on record about its candidates

A session keeps the outcome of every check and the diagnostics in two places, and its lineage in a
third. `Judged` says what stands there at any time: nothing before the candidates are checked, and
from then on what `Validation.judge` and `Validation.faults` say about each of them, whatever the
lineage was asked in between.

## Key results

- `judged_call`, `Reachable.judged`: calls keep the record, so every session has it
- `Reachable.validation?_eq`: the outcome on record for a candidate
- `Reachable.forOwner_diagnostics`: the diagnostics on record for a candidate
- `Reachable.hasFatal_iff`: some diagnostic is fatal exactly if some candidate has failed
-/

namespace ScreenSynthesis

namespace Session

open Validation

/-- What a session has on record about its candidates. -/
structure Judged (s : Session) : Prop where
  /-- All answers that the lineage remembers are right. -/
  lineage_sound : s.lineage.ResultsSound
  /-- Before the candidates are checked there is nothing on record. -/
  blank : s.phase.rank < Phase.validated.rank → s.validations = [] ∧ s.diagnostics = {}
  /-- Once the candidates are checked there is one outcome for each candidate, the latest first. -/
  validations_eq : Phase.validated.rank ≤ s.phase.rank →
    s.validations = (s.candidates.candidates.map fun c => (c.id, judge s.unit.graph c)).reverse
  /-- Once the candidates are checked the diagnostics are theirs, one candidate after the other. -/
  diagnostics_eq : Phase.validated.rank ≤ s.phase.rank →
    s.diagnostics.entries = s.candidates.candidates.flatMap (faults s.unit.graph)

variable {s : Session}

/-! ## Steps -/

/-- A session on which nothing has been recorded is `Judged` before the checks. -/
private theorem judged_of_blank (hlineage : s.lineage.ResultsSound)
    (hphase : s.phase.rank < Phase.validated.rank) (hvalidations : s.validations = [])
    (hdiagnostics : s.diagnostics = {}) : s.Judged where
  lineage_sound := hlineage
  blank _ := ⟨hvalidations, hdiagnostics⟩
  validations_eq hle := absurd hphase (Nat.not_lt.2 hle)
  diagnostics_eq hle := absurd hphase (Nat.not_lt.2 hle)

/-- `afterScan` records nothing about the candidates. -/
theorem Judged.afterScan (h : s.Judged) (hphase : s.phase = .created) : s.afterScan.Judged := by
  obtain ⟨hvalidations, hdiagnostics⟩ := h.blank (by rw [hphase]; decide)
  exact judged_of_blank h.lineage_sound (by show Phase.rank .scanned < _; decide) hvalidations
    hdiagnostics

/-- `afterValidate` records what `judge` and `faults` say about every candidate. -/
theorem Judged.afterValidate (h : s.Judged) (hphase : s.phase = .scanned) :
    s.afterValidate.Judged := by
  obtain ⟨hvalidations, hdiagnostics⟩ := h.blank (by rw [hphase]; decide)
  obtain ⟨hjudge, hfaults, hsound⟩ := checkAll_eq h.lineage_sound s.candidates.candidates
  refine ⟨hsound, fun hlt => absurd hlt (Nat.lt_irrefl _), fun _ => ?_, fun _ => ?_⟩
  · -- the outcomes are put on record under the positions of their candidates
    have hzip : (s.candidates.candidates.map (·.id)).zip
        (checkAll s.lineage s.candidates.candidates).1 =
          s.candidates.candidates.map fun c => (c.id, judge s.unit.graph c) := by
      rw [hjudge, List.zip_map']
    simp only [Session.afterValidate, hvalidations, List.append_nil, hzip]
  · simp only [Session.afterValidate, DiagnosticLog.append, hdiagnostics, hfaults, List.nil_append]

/-- The record does not depend on the symbols, once the candidates are checked. -/
private theorem Judged.withSymbols (h : s.Judged) (hchecked : Phase.validated.rank ≤ s.phase.rank)
    (symbols : SymbolTable) {phase : Phase} (hphase : Phase.validated.rank ≤ phase.rank) :
    ({ s with symbols, phase } : Session).Judged where
  lineage_sound := h.lineage_sound
  blank hlt := absurd hlt (Nat.not_lt.2 hphase)
  validations_eq _ := h.validations_eq hchecked
  diagnostics_eq _ := h.diagnostics_eq hchecked

/-- `afterSignatures` leaves the record as it is. -/
theorem Judged.afterSignatures (h : s.Judged)
    (hphase : s.phase = .validated ∨ s.phase = .signaturesSynthesized) :
    s.afterSignatures.Judged := by
  have hchecked : Phase.validated.rank ≤ s.phase.rank := by
    rcases hphase with hphase | hphase
    · exact Nat.le_of_eq (by rw [hphase])
    · rw [hphase]
      decide
  exact h.withSymbols hchecked _ (by decide)

/-- `afterBodies` leaves the record as it is. -/
theorem Judged.afterBodies (h : s.Judged)
    (hphase : s.phase = .signaturesSynthesized ∨ s.phase = .bodiesSynthesized) :
    s.afterBodies.Judged := by
  have hchecked : Phase.validated.rank ≤ s.phase.rank := by
    rcases hphase with hphase | hphase <;> (rw [hphase]; decide)
  exact h.withSymbols hchecked _ (by decide)

/-- Every `call` keeps a session `Judged`. -/
theorem judged_call (h : s.Judged) (c : Call) : (s.call c).2.Judged :=
  of_call (fun _ hphase h => h.afterScan hphase) (fun _ hphase h => h.afterValidate hphase)
    (fun _ hphase h => h.afterSignatures hphase) (fun _ hphase h => h.afterBodies hphase) h c

/-- `isDerived` keeps a session `Judged`, and remembers right answers only. -/
private theorem judged_isDerived (h : s.Judged) (t target : QualifiedName) :
    (s.isDerived t target).2.Judged :=
  { h with lineage_sound := Lineage.resultsSound_isDerived h.lineage_sound t target }

/-! ## Runs -/

/-- Every reachable session is `Judged`. -/
theorem Reachable.judged (h : s.Reachable) : s.Judged := by
  -- on how the session was reached: calls and questions keep the record
  induction h with
  | new u config knows =>
    exact judged_of_blank (Lineage.resultsSound_empty u.graph)
      (by show Phase.rank .created < _; decide) rfl rfl
  | call _ c ih => exact judged_call ih c
  | isDerived _ t target ih => exact judged_isDerived ih t target

/-- The candidates of a session are those of `CandidateIndex.scan` from the first phase on. -/
theorem Reachable.candidates_eq (h : s.Reachable) (hphase : Phase.scanned.rank ≤ s.phase.rank) :
    s.candidates = CandidateIndex.scan s.unit := by
  have hcreated : s.phase ≠ .created := by
    intro heq
    rw [heq] at hphase
    exact absurd hphase (by decide)
  rw [h.wellFormed.candidates_eq, if_neg hcreated]

/-- Every candidate of a session is one of `CandidateIndex.scan`. -/
theorem Reachable.mem_scan (h : s.Reachable) {c : Candidate}
    (hc : c ∈ s.candidates.candidates) : c ∈ (CandidateIndex.scan s.unit).candidates := by
  rw [h.wellFormed.candidates_eq] at hc
  split at hc
  · exact nomatch hc
  · exact hc

/-- No candidate of a session is listed twice. -/
theorem Reachable.nodup_candidates (h : s.Reachable) : s.candidates.candidates.Nodup := by
  rw [h.wellFormed.candidates_eq]
  split
  · exact List.nodup_nil
  · exact CandidateIndex.nodup_candidates s.unit

/-! ## Outcomes and diagnostics -/

/-- `validation?` gives what `judge` says about a candidate. -/
theorem Reachable.validation?_eq (h : s.Reachable)
    (hphase : Phase.validated.rank ≤ s.phase.rank) {c : Candidate}
    (hc : c ∈ s.candidates.candidates) :
    s.validation? c.id = some (judge s.unit.graph c) := by
  rw [validation?, h.judged.validations_eq hphase]
  refine lookup_eq_some_of_mem ?_ fun v hv => ?_
  · rw [List.mem_reverse]
    exact List.mem_map.2 ⟨c, hc, rfl⟩
  · -- an entry under the same position is that of the same candidate
    rw [List.mem_reverse] at hv
    obtain ⟨c', hc', heq⟩ := List.mem_map.1 hv
    obtain ⟨hid, hjudge⟩ := Prod.mk.inj heq
    rw [← hjudge, CandidateIndex.eq_of_id_eq (h.mem_scan hc') (h.mem_scan hc) hid]

/-- `validation?` gives something only once the candidates are checked, and then what `judge`
says. -/
theorem Reachable.eq_judge (h : s.Reachable) {c : Candidate} {v : Validation}
    (hc : c ∈ s.candidates.candidates) (hv : s.validation? c.id = some v) :
    Phase.validated.rank ≤ s.phase.rank ∧ v = judge s.unit.graph c := by
  -- there is nothing on record before
  have hphase : Phase.validated.rank ≤ s.phase.rank := by
    refine Nat.le_of_not_lt fun hlt => ?_
    rw [validation?, (h.judged.blank hlt).1] at hv
    exact nomatch hv
  exact ⟨hphase, Option.some.inj (hv.symm.trans (h.validation?_eq hphase hc))⟩

/-- `forOwner` lists the `faults` of the candidate that has the owner. -/
theorem Reachable.forOwner_diagnostics (h : s.Reachable)
    (hphase : Phase.validated.rank ≤ s.phase.rank) {c : Candidate}
    (hc : c ∈ s.candidates.candidates) :
    s.diagnostics.forOwner c.owner = faults s.unit.graph c := by
  rw [DiagnosticLog.forOwner, h.judged.diagnostics_eq hphase]
  refine filter_flatMap_eq h.nodup_candidates hc
    (fun d hd => decide_eq_true (owner_of_mem_faults hd).1) fun c' hc' hne d hd => ?_
  -- owners are distinct, so that the other candidates report nothing about this one
  rw [(owner_of_mem_faults hd).1, decide_eq_false_iff_not]
  exact fun howner => hne (CandidateIndex.eq_of_owner_eq (h.mem_scan hc') (h.mem_scan hc) howner)

/-- A candidate has failed exactly if `forOwner` lists diagnostics about its owner. -/
theorem Reachable.fatal_iff_forOwner (h : s.Reachable) {c : Candidate} {v : Validation}
    (hc : c ∈ s.candidates.candidates) (hv : s.validation? c.id = some v) :
    v.fatal = true ↔ s.diagnostics.forOwner c.owner ≠ [] := by
  obtain ⟨hphase, rfl⟩ := h.eq_judge hc hv
  rw [h.forOwner_diagnostics hphase hc]
  exact judge_fatal_iff_faults

/-- `hasFatal` holds exactly if some candidate has failed. -/
theorem Reachable.hasFatal_iff (h : s.Reachable) :
    s.hasFatal = true ↔
      ∃ c ∈ s.candidates.candidates, ∃ v, s.validation? c.id = some v ∧ v.fatal = true := by
  rw [hasFatal, DiagnosticLog.hasFatal, List.any_eq_true]
  constructor
  · rintro ⟨d, hd, -⟩
    have hphase : Phase.validated.rank ≤ s.phase.rank := by
      refine Nat.le_of_not_lt fun hlt => ?_
      rw [(h.judged.blank hlt).2] at hd
      exact nomatch hd
    rw [h.judged.diagnostics_eq hphase] at hd
    obtain ⟨c, hc, hfault⟩ := List.mem_flatMap.1 hd
    exact ⟨c, hc, _, h.validation?_eq hphase hc,
      judge_fatal_iff_faults.2 (List.ne_nil_of_mem hfault)⟩
  · rintro ⟨c, hc, v, hv, hfatal⟩
    -- whatever is reported about the candidate is an error
    obtain ⟨d, hd⟩ := List.exists_mem_of_ne_nil _ ((h.fatal_iff_forOwner hc hv).1 hfatal)
    obtain ⟨hphase, -⟩ := h.eq_judge hc hv
    have hfault : d ∈ faults s.unit.graph c := h.forOwner_diagnostics hphase hc ▸ hd
    exact ⟨d, (List.mem_filter.1 hd).1, (owner_of_mem_faults hfault).2⟩

end Session

end ScreenSynthesis

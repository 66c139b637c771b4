import ScreenSynthesis.Proofs.LineageReachability
import ScreenSynthesis.Validation

/-!
# Checks find exactly what is wrong

Candidates are checked one after the other by lineage queries, and all of them share what these
queries remember. Still no check depends on those before it: `faults` and `judge` say what there is
to report and to find out about a candidate in terms of the type graph alone, and this is what the
checks come to after any queries.

## Key results

- `check_eq`, `checkAll_eq`: a check, and a row of checks, in terms of the type graph
- `judge_fatal_iff`: a candidate fails for its owner or for its argument
- `faults_congr`, `judge_congr`: type graphs that agree about a candidate judge it alike
-/

namespace ScreenSynthesis

/-- Whether a type is reachable is decided by the first query of a lineage. -/
instance TypeGraph.decidableReachable (g : TypeGraph) (t u : QualifiedName) :
    Decidable (g.Reachable t u) :=
  decidable_of_iff (((Lineage.empty g).isDerived t u).1 = true)
    (Lineage.isDerived_eq_true_iff (Lineage.resultsSound_empty g) t u)

namespace TypeGraph

variable {g g' : TypeGraph} {t u : QualifiedName}

/-- Type graphs agree on a type if they give the same supertypes to it and to all that it derives
from. -/
def AgreeOn (g g' : TypeGraph) (t : QualifiedName) : Prop :=
  ∀ u, g.Reachable t u → g.supertypes? u = g'.supertypes? u

/-- `AgreeOn` holds for a type that does not derive from the only one on which the graphs differ. -/
theorem agreeOn_of_not_reachable {name : QualifiedName}
    (h : ∀ u, u ≠ name → g.supertypes? u = g'.supertypes? u) (hnot : ¬ g.Reachable t name) :
    g.AgreeOn g' t :=
  fun u hreach => h u fun heq => hnot (heq ▸ hreach)

/-- A type on which graphs agree is known to both or to none. -/
private theorem AgreeOn.contains_eq (h : g.AgreeOn g' t) : g.contains t = g'.contains t := by
  rw [contains, contains, h t .refl]

/-- A type on which graphs agree has the same types `Reachable` in both. -/
private theorem AgreeOn.reachable_iff (h : g.AgreeOn g' t) :
    g.Reachable t u ↔ g'.Reachable t u := by
  constructor
  · intro hreach
    induction hreach with
    | refl => exact .refl
    | step hreach hsupers hmem ih => exact .step ih ((h _ hreach).symm.trans hsupers) hmem
  · intro hreach
    induction hreach with
    | refl => exact .refl
    -- the way so far exists in the first graph too, so that the graphs agree on its end
    | step _ hsupers hmem ih => exact .step ih ((h _ ih).trans hsupers) hmem

end TypeGraph

attribute [ext] Validation

namespace Validation

variable {g g' : TypeGraph}

/-! ## What is wrong with a candidate -/

/-- A type that the graph knows, but that does not lead to the transport capability. -/
def Unfit (g : TypeGraph) (type : QualifiedName) : Prop :=
  g.contains type = true ∧ ¬ g.Reachable type ⟨"android.os.Parcelable"⟩

instance (g : TypeGraph) (type : QualifiedName) : Decidable (Unfit g type) :=
  inferInstanceAs (Decidable (_ ∧ _))

/-- What there is to report about a candidate: first that its owner is no controller, then that its
argument is `Unfit`. The diagnostics are written out, so that `check` is held to their wording
too. -/
def faults (g : TypeGraph) (c : Candidate) : List Diagnostic :=
  (if g.Reachable c.owner ⟨"androidx.fragment.app.Fragment"⟩ then []
    else
      [{ kind :=
          { code := "NOT_ON_CONTROLLER"
            severity := .error
            message :=
              "@Screen can only be applied to classes deriving from androidx.fragment.app.Fragment" }
         owner := c.owner
         subject := c.owner.text
         location := c.location }]) ++
  (match resolveArgument g c.owner c.marker.argument with
    | some type =>
      if Unfit g type then
        [{ kind :=
            { code := "ARG_NOT_SERIALIZABLE"
              severity := .error
              message := "@Screen argument type must implement android.os.Parcelable" }
           owner := c.owner
           subject := type.text
           location := c.location }]
      else []
    | none => [])

/-- What there is to find out about a candidate. It is fatal that there are `faults` to report. -/
def judge (g : TypeGraph) (c : Candidate) : Validation where
  onController := g.Reachable c.owner ⟨"androidx.fragment.app.Fragment"⟩
  argument := resolveArgument g c.owner c.marker.argument
  fatal := !(faults g c).isEmpty

/-- `faults` name the owner of the candidate and are errors. -/
theorem owner_of_mem_faults {c : Candidate} {d : Diagnostic} (h : d ∈ faults g c) :
    d.owner = c.owner ∧ d.isFatal = true := by
  rw [faults, List.mem_append] at h
  rcases h with h | h
  · split at h
    · exact nomatch h
    · rw [List.mem_singleton.1 h]
      exact ⟨rfl, rfl⟩
  · split at h
    · split at h
      · rw [List.mem_singleton.1 h]
        exact ⟨rfl, rfl⟩
      · exact nomatch h
    · exact nomatch h

/-- `judge` calls a candidate fatal exactly if there are `faults` to report. -/
theorem judge_fatal_iff_faults {c : Candidate} : (judge g c).fatal = true ↔ faults g c ≠ [] := by
  simp [judge]

/-- `judge` calls a candidate fatal if its owner is no controller or if its argument is `Unfit`. -/
theorem judge_fatal_iff {c : Candidate} :
    (judge g c).fatal = true ↔
      ¬ g.Reachable c.owner ⟨"androidx.fragment.app.Fragment"⟩ ∨
        ∃ type, resolveArgument g c.owner c.marker.argument = some type ∧ Unfit g type := by
  rw [judge_fatal_iff_faults, faults]
  by_cases hon : g.Reachable c.owner ⟨"androidx.fragment.app.Fragment"⟩
  · cases resolveArgument g c.owner c.marker.argument with
    | none => simp [hon]
    | some type => by_cases hunfit : Unfit g type <;> simp [hon, hunfit]
  · simp [hon]

/-- `judge` passes only candidates on controllers. -/
theorem judge_onController_of_not_fatal {c : Candidate} (h : (judge g c).fatal = false) :
    (judge g c).onController = true := by
  have hnot : ¬ (judge g c).fatal = true := by simp [h]
  rw [judge_fatal_iff, not_or, Decidable.not_not] at hnot
  exact decide_eq_true hnot.1

/-! ## Type graphs that agree about a candidate -/

/-- The type that a marker on `owner` names as its argument, whether the graph knows it or not. -/
def namedArgument (owner : QualifiedName) : ArgumentRef → Option QualifiedName
  | .qualified name => some name
  | .unqualified short => some (.inPackage owner.package short)
  | .noArgument | .absent => none

/-- Type graphs agree about a candidate if they agree on its owner and on the type that it names as
its argument. They may differ on all types that these two do not derive from. -/
def AgreeAbout (g g' : TypeGraph) (c : Candidate) : Prop :=
  g.AgreeOn g' c.owner ∧ ∀ type ∈ namedArgument c.owner c.marker.argument, g.AgreeOn g' type

/-- `resolveArgument` finds the type that `namedArgument` names, if any. -/
private theorem namedArgument_of_resolveArgument {owner type : QualifiedName} {ref : ArgumentRef}
    (h : resolveArgument g owner ref = some type) : namedArgument owner ref = some type := by
  cases ref with
  | qualified name => exact h
  | unqualified short =>
    simp only [resolveArgument] at h
    split at h
    · exact h
    · exact nomatch h
  | noArgument => exact nomatch h
  | absent => exact nomatch h

/-- `resolveArgument` finds the same in graphs that agree on the named argument. -/
private theorem resolveArgument_congr {owner : QualifiedName} {ref : ArgumentRef}
    (h : ∀ type ∈ namedArgument owner ref, g.AgreeOn g' type) :
    resolveArgument g owner ref = resolveArgument g' owner ref := by
  -- only a bare name is looked for in the graph
  cases ref with
  | qualified name => rfl
  | unqualified short => simp only [resolveArgument, (h _ rfl).contains_eq]
  | noArgument => rfl
  | absent => rfl

/-- `faults` are the same in graphs that agree about a candidate. -/
theorem faults_congr {c : Candidate} (h : AgreeAbout g g' c) : faults g c = faults g' c := by
  obtain ⟨howner, hnamed⟩ := h
  have hargument := resolveArgument_congr hnamed
  -- only an argument that is found can be unfit, and that is the one on which the graphs agree
  have hunfit : ∀ type, resolveArgument g c.owner c.marker.argument = some type →
      (Unfit g type ↔ Unfit g' type) := by
    intro type htype
    have hagree := hnamed type (namedArgument_of_resolveArgument htype)
    rw [Unfit, Unfit, hagree.contains_eq, hagree.reachable_iff]
  unfold faults
  rw [← hargument]
  congr 1
  · simp only [howner.reachable_iff]
  · cases htype : resolveArgument g c.owner c.marker.argument with
    | none => rfl
    | some type => simp only [hunfit type htype]

/-- `judge` says the same in graphs that agree about a candidate. -/
theorem judge_congr {c : Candidate} (h : AgreeAbout g g' c) : judge g c = judge g' c := by
  refine Validation.ext ?_ (resolveArgument_congr h.2) ?_
  · exact decide_eq_decide.2 h.1.reachable_iff
  · simp only [judge, faults_congr h]

/-! ## What the checks find -/

/-- `lacksCapability` holds exactly if the type of the argument is `Unfit`, whatever was asked
before. -/
private theorem lacksCapability_iff {l : Lineage g} (h : l.ResultsSound)
    (argument : Option QualifiedName) :
    ((lacksCapability l argument).1 = true ↔ ∃ type, argument = some type ∧ Unfit g type) ∧
      (lacksCapability l argument).2.ResultsSound := by
  cases argument with
  | none => exact ⟨by simp [lacksCapability], h⟩
  | some type =>
    have hderived : (l.isDerived type transportCapability).1 = true ↔
        g.Reachable type ⟨"android.os.Parcelable"⟩ :=
      Lineage.isDerived_eq_true_iff h type transportCapability
    -- only a known type is asked about
    by_cases hknown : g.contains type = true
    · rw [lacksCapability, if_pos hknown]
      refine ⟨?_, Lineage.resultsSound_isDerived h type transportCapability⟩
      simp [Unfit, hknown, ← hderived]
    · rw [lacksCapability, if_neg hknown]
      exact ⟨by simp [Unfit, hknown], h⟩

/-- `check` finds out what `judge` says and reports the `faults`, whatever was asked before. -/
theorem check_eq {l : Lineage g} (h : l.ResultsSound) (c : Candidate) :
    (check l c).1 = judge g c ∧ (check l c).2.1 = faults g c ∧ (check l c).2.2.ResultsSound := by
  have howner : (l.isDerived c.owner controllerBase).1 = true ↔
      g.Reachable c.owner ⟨"androidx.fragment.app.Fragment"⟩ :=
    Lineage.isDerived_eq_true_iff h c.owner controllerBase
  have hsound := Lineage.resultsSound_isDerived h c.owner controllerBase
  -- the second check goes on with what the first one has left behind
  obtain ⟨hlacking, hsound'⟩ :=
    lacksCapability_iff hsound (resolveArgument g c.owner c.marker.argument)
  refine ⟨?_, ?_, hsound'⟩
  · have hfatal : (check l c).1.fatal = (judge g c).fatal := by
      rw [Bool.eq_iff_iff, judge_fatal_iff, ← howner, ← hlacking]
      simp [check]
    have honController : (check l c).1.onController = (judge g c).onController := by
      rw [Bool.eq_iff_iff]
      exact howner.trans decide_eq_true_iff.symm
    exact Validation.ext honController rfl hfatal
  · simp only [check, faults]
    congr 1
    · simp only [howner]
      rfl
    · cases harg : resolveArgument g c.owner c.marker.argument with
      | none => rfl
      | some type =>
        have hunfit :
            (lacksCapability (l.isDerived c.owner controllerBase).2 (some type)).1 = true ↔
              Unfit g type := by
          rw [harg] at hlacking
          simpa using hlacking
        simp only [hunfit]
        rfl

/-- `checkAll` finds out and reports just what each candidate gives reason for. -/
theorem checkAll_eq {l : Lineage g} (h : l.ResultsSound) (cs : List Candidate) :
    (checkAll l cs).1 = cs.map (judge g) ∧ (checkAll l cs).2.1 = cs.flatMap (faults g) ∧
      (checkAll l cs).2.2.ResultsSound := by
  induction cs generalizing l with
  | nil => exact ⟨rfl, rfl, h⟩
  | cons c rest ih =>
    -- the lineage that the first check leaves behind is as good as any
    obtain ⟨hjudge, hfaults, hsound⟩ := check_eq h c
    obtain ⟨hjudges, hmore, hsound'⟩ := ih hsound
    refine ⟨?_, ?_, hsound'⟩
    · simp only [checkAll, hjudge, hjudges, List.map_cons]
    · simp only [checkAll, hfaults, hmore, List.flatMap_cons]

end Validation

end ScreenSynthesis

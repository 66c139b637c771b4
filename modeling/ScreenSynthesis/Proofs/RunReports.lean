import Mathlib.Data.List.Forall2
import ScreenSynthesis.CommandLine.Run
import ScreenSynthesis.Proofs.PrintedReports
import ScreenSynthesis.Proofs.RequestWords
import ScreenSynthesis.Proofs.SessionCalls
import ScreenSynthesis.Result

/-!
# Reports of a run

A run either reports on every file or on none. Each report depends on its own file, the settings and
the command alone, so that a run over many files says what runs over single files would say, and its
exit code follows from the diagnostics in its reports.

## Key results

- `mapM_eq_ok_iff`: a step over a list, element by element
- `Command.advance_new`: the session that each command comes to
- `exists_reportFile_iff`: which files stop a run
- `reports_eq_ok_iff`: the reports of a run, file by file
- `run_reports_all_or_nothing`: what a run prints and how it ends, for one run and for pairs of runs
-/

namespace ScreenSynthesis.CommandLine

/-! ## Steps over lists -/

section

variable {ε α β : Type} {f : α → Except ε β}

/-- `mapM` succeeds with the results of its steps, in the order of the elements. -/
theorem mapM_eq_ok_iff {l : List α} {bs : List β} :
    l.mapM f = .ok bs ↔ List.Forall₂ (fun a b => f a = .ok b) l bs := by
  induction l generalizing bs with
  | nil =>
    rw [List.forall₂_nil_left_iff, List.mapM_nil]
    exact ⟨fun h => (Except.ok.inj h).symm, fun h => h ▸ rfl⟩
  | cons a l ih =>
    rw [List.mapM_cons, Result.bind_eq_ok_iff, List.forall₂_cons_left_iff]
    refine exists_congr fun b => ?_
    rw [Result.bind_eq_ok_iff]
    constructor
    · rintro ⟨hb, more, hmore, h⟩
      exact ⟨more, hb, ih.1 hmore, (Except.ok.inj h).symm⟩
    · rintro ⟨more, hb, hmore, rfl⟩
      exact ⟨hb, more, ih.2 hmore, rfl⟩

/-- `mapM` succeeds if each of its steps does. -/
private theorem exists_mapM_eq_ok_iff {l : List α} :
    (∃ bs, l.mapM f = .ok bs) ↔ ∀ a ∈ l, ∃ b, f a = .ok b := by
  simp only [mapM_eq_ok_iff]
  induction l with
  | nil => simp
  | cons a l ih =>
    rw [List.forall_mem_cons, ← ih]
    constructor
    · rintro ⟨bs, h⟩
      obtain ⟨b, more, hb, hmore, -⟩ := List.forall₂_cons_left_iff.1 h
      exact ⟨⟨b, hb⟩, more, hmore⟩
    · rintro ⟨⟨b, hb⟩, more, hmore⟩
      exact ⟨b :: more, .cons hb hmore⟩

end

/-! ## Reports on files -/

/-- The phase that a command comes to. -/
def Command.lastPhase : Command → Phase
  | .generate => .bodiesSynthesized
  | .check => .validated
  | .annotate => .scanned

open Session (inPhase)

/-- `advance` takes a new session to the last phase of the command. -/
theorem Command.advance_new (command : Command) (unit : CompilationUnit) (screen : ScreenConfig) :
    command.advance (.new unit screen) =
      .ok (inPhase unit screen unit.contains command.lastPhase) := by
  cases command with
  | generate =>
    -- a whole run at once is the whole run by calls
    have hrun := Session.call_runAll_eq (.new unit screen)
    rw [Session.call_runAll_new] at hrun
    rw [advance]
    cases h : (Session.new unit screen).runAll with
    | error e => rw [h] at hrun; exact nomatch hrun
    | ok result => rw [h] at hrun; exact congrArg Except.ok (Prod.ext_iff.1 hrun).2.symm
  | check =>
    rw [advance, Session.scan_ok rfl]
    simp only [bind, Except.bind]
    rw [Session.validate_ok rfl, lastPhase, Session.inPhase_validated, Session.inPhase_scanned]
    rfl
  | annotate =>
    rw [advance, Session.scan_ok rfl, lastPhase, Session.inPhase_scanned]
    rfl

namespace UnitReport

variable {path : String} {s : Session} {marks emitSource : Bool} {r : UnitReport}

/-- `ofSession` makes a report of the session, its annotations and its source. -/
private theorem ofSession_eq_ok_iff : ofSession path s marks emitSource = .ok r ↔
    ∃ annotations, (if marks then s.annotations else pure []) = .ok annotations ∧
      ∃ rendered, (if emitSource then some <$> s.render else pure none) = .ok rendered ∧
        { path
          unit := s.unit.name
          candidates := s.candidates.size
          diagnostics := s.diagnostics.entries
          symbols := s.symbols.symbols
          annotations
          rendered
          fatal := s.hasFatal } = r := by
  have hsteps : ofSession path s marks emitSource =
      (if marks then s.annotations else pure []) >>= fun annotations =>
        (if emitSource then some <$> s.render else pure none) >>= fun rendered =>
          .ok ⟨path, s.unit.name, s.candidates.size, s.diagnostics.entries, s.symbols.symbols,
            annotations, rendered, s.hasFatal⟩ := by
    unfold ofSession
    cases marks <;> cases emitSource <;> rfl
  simp only [hsteps, Result.bind_eq_ok_iff, Except.ok.injEq]

/-- `ofSession` repeats what the session has on record, the annotations and the source apart. -/
private theorem fields_of_ofSession (h : ofSession path s marks emitSource = .ok r) :
    r.path = path ∧ r.unit = s.unit.name ∧ r.candidates = s.candidates.size ∧
      r.diagnostics = s.diagnostics.entries ∧ r.symbols = s.symbols.symbols ∧
      r.fatal = s.hasFatal := by
  obtain ⟨annotations, -, rendered, -, rfl⟩ := ofSession_eq_ok_iff.1 h
  exact ⟨rfl, rfl, rfl, rfl, rfl, rfl⟩

/-- `ofSession` succeeds for a session with candidates unless the source is asked for and cannot be
rendered. -/
private theorem exists_ofSession_iff (hphase : Phase.scanned.rank ≤ s.phase.rank) :
    (∃ r, ofSession path s marks emitSource = .ok r) ↔
      (emitSource = true → ∃ source, s.render = .ok source) := by
  constructor
  · rintro ⟨r, h⟩ rfl
    obtain ⟨-, -, rendered, hrendered, -⟩ := ofSession_eq_ok_iff.1 h
    obtain ⟨source, hsource, -⟩ := Result.map_eq_ok_iff.1 hrendered
    exact ⟨source, hsource⟩
  · intro h
    -- the annotations are there as soon as the candidates are
    have hannotations : s.annotations = .ok (s.candidates.candidates.filterMap s.annotate) := by
      rw [Session.annotations, Session.requireAtLeast, if_pos hphase]
      rfl
    have hmarks : ∃ annotations, (if marks then s.annotations else pure []) = .ok annotations := by
      cases marks with
      | false => exact ⟨_, rfl⟩
      | true => exact ⟨_, hannotations⟩
    have hsource : ∃ rendered,
        (if emitSource then some <$> s.render else pure none) = Except.ok rendered := by
      cases emitSource with
      | false => exact ⟨_, rfl⟩
      | true =>
        obtain ⟨source, hsource⟩ := h rfl
        exact ⟨some source, Result.map_eq_ok_iff.2 ⟨source, hsource, rfl⟩⟩
    obtain ⟨annotations, hannotations⟩ := hmarks
    obtain ⟨rendered, hrendered⟩ := hsource
    exact ⟨_, ofSession_eq_ok_iff.2 ⟨annotations, hannotations, rendered, hrendered, rfl⟩⟩

end UnitReport

section

variable {files : Files} {environment : List (String × String)} {a a' : Arguments}
  {screen : ScreenConfig} {path : String}

/-- `reportFile` reports on a file that can be loaded, as far as there is a report on its
session. -/
private theorem reportFile_eq_ok_iff {r : UnitReport} :
    reportFile files screen a path = .ok r ↔
      ∃ unit, loadUnit files path = .ok unit ∧
        UnitReport.ofSession path (inPhase unit screen unit.contains a.command.lastPhase)
          (a.command = .annotate) a.emitSource = .ok r := by
  rw [reportFile, Result.bind_eq_ok_iff]
  refine exists_congr fun unit => and_congr_right fun _ => ?_
  rw [Result.mapError_eq_ok_iff, Command.advance_new]
  rfl

/-- Whether a file stops a run: it cannot be loaded, or its source is asked for and cannot be
rendered. -/
def StopsRun (files : Files) (screen : ScreenConfig) (emitSource : Bool) (path : String) : Prop :=
  (∃ e, loadUnit files path = .error e) ∨
    ∃ unit, loadUnit files path = .ok unit ∧ emitSource = true ∧
      ∃ e, ((Session.new unit screen).call .runAll).2.render = .error e

/-- `lastPhase` is never before the candidates are found. -/
private theorem scanned_le_lastPhase (command : Command) (unit : CompilationUnit) :
    Phase.scanned.rank ≤ (inPhase unit screen unit.contains command.lastPhase).phase.rank := by
  rw [Session.phase_inPhase]
  cases command <;> decide

/-- `reportFile` succeeds for a file unless it `StopsRun`. -/
theorem exists_reportFile_iff (hsource : a.emitSource = true → a.command = .generate) :
    (∃ r, reportFile files screen a path = .ok r) ↔ ¬ StopsRun files screen a.emitSource path := by
  -- source that is asked for is rendered after a whole run
  have hrun : ∀ unit, a.emitSource = true →
      inPhase unit screen unit.contains a.command.lastPhase =
        ((Session.new unit screen).call .runAll).2 := fun unit h => by
    rw [hsource h, Session.call_runAll_new]
    rfl
  constructor
  · rintro ⟨r, hreport⟩ hstops
    obtain ⟨unit, hload, hreport⟩ := reportFile_eq_ok_iff.1 hreport
    rcases hstops with ⟨e, he⟩ | ⟨unit', hload', hemit, e, he⟩
    · exact nomatch hload.symm.trans he
    · obtain rfl := Except.ok.inj (hload.symm.trans hload')
      obtain ⟨source, hok⟩ :=
        (UnitReport.exists_ofSession_iff (scanned_le_lastPhase _ unit)).1 ⟨r, hreport⟩ hemit
      rw [hrun unit hemit] at hok
      exact nomatch hok.symm.trans he
  · intro hgoes
    cases hload : loadUnit files path with
    | error e => exact absurd (Or.inl ⟨e, hload⟩) hgoes
    | ok unit =>
      have hrender : a.emitSource = true → ∃ source,
          (inPhase unit screen unit.contains a.command.lastPhase).render = .ok source := by
        intro hemit
        rw [hrun unit hemit]
        cases hrender : ((Session.new unit screen).call .runAll).2.render with
        | ok source => exact ⟨source, rfl⟩
        | error e => exact absurd (Or.inr ⟨unit, hload, hemit, e, hrender⟩) hgoes
      obtain ⟨r, hreport⟩ :=
        (UnitReport.exists_ofSession_iff (scanned_le_lastPhase a.command unit)).2 hrender
      exact ⟨r, reportFile_eq_ok_iff.2 ⟨unit, hload, hreport⟩⟩

/-- `reportFile` makes a fatal report exactly if there is a fatal diagnostic. -/
private theorem fatal_of_reportFile {r : UnitReport} (h : reportFile files screen a path = .ok r) :
    r.fatal = r.diagnostics.any Diagnostic.isFatal := by
  obtain ⟨unit, -, h⟩ := reportFile_eq_ok_iff.1 h
  obtain ⟨-, -, -, hdiagnostics, -, hfatal⟩ := UnitReport.fields_of_ofSession h
  -- both are read off the log of the session
  rw [hfatal, hdiagnostics]
  rfl

/-- `reportFile` makes no fatal report for a command that only annotates, as there are no
diagnostics yet. -/
private theorem fatal_of_annotate {r : UnitReport} (hcommand : a.command = .annotate)
    (h : reportFile files screen a path = .ok r) : r.fatal = false := by
  obtain ⟨unit, -, h⟩ := reportFile_eq_ok_iff.1 h
  obtain ⟨-, -, -, -, -, hfatal⟩ := UnitReport.fields_of_ofSession h
  rw [hfatal, hcommand, Command.lastPhase, Session.inPhase_scanned]
  rfl

/-- Two reports have the same findings if they differ at most in what was made of them. -/
structure UnitReport.SameFindings (r r' : UnitReport) : Prop where
  path : r'.path = r.path
  unit : r'.unit = r.unit
  candidates : r'.candidates = r.candidates
  diagnostics : r'.diagnostics = r.diagnostics
  fatal : r'.fatal = r.fatal

/-- `check` finds in a file what `generate` finds, and synthesizes nothing. -/
private theorem sameFindings_of_reportFile {r r' : UnitReport} (hcheck : a.command = .check)
    (hgenerate : a'.command = .generate) (h : reportFile files screen a path = .ok r)
    (h' : reportFile files screen a' path = .ok r') : r.SameFindings r' ∧ r.symbols = [] := by
  obtain ⟨unit, hload, h⟩ := reportFile_eq_ok_iff.1 h
  obtain ⟨unit', hload', h'⟩ := reportFile_eq_ok_iff.1 h'
  obtain rfl := Except.ok.inj (hload.symm.trans hload')
  obtain ⟨hpath, hunit, hcandidates, hdiagnostics, hsymbols, hfatal⟩ :=
    UnitReport.fields_of_ofSession h
  obtain ⟨hpath', hunit', hcandidates', hdiagnostics', -, hfatal'⟩ :=
    UnitReport.fields_of_ofSession h'
  -- the two phases behind the checks add nothing but symbols
  have hlast : inPhase unit screen unit.contains a'.command.lastPhase =
      (inPhase unit screen unit.contains a.command.lastPhase).afterSignatures.afterBodies := by
    rw [hcheck, hgenerate, Command.lastPhase, Session.inPhase_bodiesSynthesized,
      Session.inPhase_signaturesSynthesized]
    rfl
  rw [hlast] at hunit' hcandidates' hdiagnostics' hfatal'
  refine ⟨⟨hpath'.trans hpath.symm, hunit'.trans hunit.symm, hcandidates'.trans hcandidates.symm,
    hdiagnostics'.trans hdiagnostics.symm, hfatal'.trans hfatal.symm⟩, ?_⟩
  rw [hsymbols, hcheck, Command.lastPhase, Session.inPhase_validated, Session.inPhase_scanned]
  rfl

end

/-! ## Whole runs -/

section

variable {files : Files} {environment : List (String × String)} {words : List String}
  {a a' : Arguments} {settings : Settings} {rs : List UnitReport}

/-- `reports` are those on the files of the run, one for each. -/
theorem reports_eq_ok_iff (hsettings : loadSettings files environment a = .ok settings)
    (hunits : a.units ≠ []) :
    reports files environment a = .ok rs ↔
      List.Forall₂ (fun path r => reportFile files settings.screen a path = .ok r) a.units rs := by
  have hsteps : reports files environment a =
      a.units.mapM (reportFile files settings.screen a) := by
    have hempty : a.units.isEmpty = false := by simpa using hunits
    rw [reports, hsettings]
    simp only [bind, Except.bind, hempty]
    rfl
  rw [hsteps, mapM_eq_ok_iff]

/-- All `reports` have what `reportFile` gives to every report. -/
private theorem forall_mem_reports {p : UnitReport → Prop}
    (hsettings : loadSettings files environment a = .ok settings) (hunits : a.units ≠ [])
    (hrs : reports files environment a = .ok rs)
    (h : ∀ path r, reportFile files settings.screen a path = .ok r → p r) : ∀ r ∈ rs, p r := by
  have hfiles := ((reports_eq_ok_iff hsettings hunits).1 hrs).flip
  exact ((List.forall₂_and_left rs a.units).1 (hfiles.imp fun r path hr => ⟨h path r hr, hr⟩)).1

/-- `reports` succeeds unless a file `StopsRun`. -/
private theorem exists_reports_iff (hsettings : loadSettings files environment a = .ok settings)
    (hunits : a.units ≠ []) (hsource : a.emitSource = true → a.command = .generate) :
    (∃ rs, reports files environment a = .ok rs) ↔
      ∀ path ∈ a.units, ¬ StopsRun files settings.screen a.emitSource path := by
  simp only [reports_eq_ok_iff hsettings hunits, ← mapM_eq_ok_iff, exists_mapM_eq_ok_iff,
    exists_reportFile_iff hsource]

/-- `run` fails and prints nothing without reports. -/
private theorem run_of_forall_ne (hwords : Request.ofWords? words = some (.run a))
    (h : ∀ rs, reports files environment a ≠ .ok rs) :
    (run files environment words).exitCode = 1 ∧ (run files environment words).printed = "" := by
  obtain ⟨error, herror⟩ := Result.exists_error_of_forall_ne_ok h
  rw [run, hwords]
  simp only [herror]
  exact ⟨rfl, rfl⟩

/-- `run` prints all reports, and fails if one of them is fatal. -/
private theorem run_of_reports (hwords : Request.ofWords? words = some (.run a))
    (h : reports files environment a = .ok rs) :
    (run files environment words).exitCode = (if rs.any (·.fatal) then 1 else 0) ∧
      (run files environment words).printed =
        if a.json then printJson rs else printHuman (isColoured environment) rs := by
  rw [run, hwords]
  simp only [h]
  exact ⟨rfl, rfl⟩

/-- `run` fails with reports exactly if one of them is fatal. -/
private theorem exitCode_ne_zero_iff (hwords : Request.ofWords? words = some (.run a))
    (h : reports files environment a = .ok rs) :
    (run files environment words).exitCode ≠ 0 ↔ ∃ r ∈ rs, r.fatal = true := by
  rw [(run_of_reports hwords h).1, ← List.any_eq_true]
  cases rs.any (·.fatal) <;> decide

/-- Runs end alike if they have `reports` together, and then fatal ones together. -/
private theorem exitCode_congr {words' : List String}
    (hwords : Request.ofWords? words = some (.run a))
    (hwords' : Request.ofWords? words' = some (.run a'))
    (hiff : (∃ rs, reports files environment a = .ok rs) ↔
      ∃ rs', reports files environment a' = .ok rs')
    (hfatal : ∀ rs rs', reports files environment a = .ok rs →
      reports files environment a' = .ok rs' → rs'.any (·.fatal) = rs.any (·.fatal)) :
    (run files environment words').exitCode = (run files environment words).exitCode := by
  by_cases h : ∃ rs, reports files environment a = .ok rs
  · obtain ⟨rs, hrs⟩ := h
    obtain ⟨rs', hrs'⟩ := hiff.1 ⟨rs, hrs⟩
    rw [(run_of_reports hwords hrs).1, (run_of_reports hwords' hrs').1, hfatal rs rs' hrs hrs']
  · have h' : ¬ ∃ rs', reports files environment a' = .ok rs' := fun h' => h (hiff.2 h')
    rw [(run_of_forall_ne hwords (not_exists.1 h)).1,
      (run_of_forall_ne hwords' (not_exists.1 h')).1]

/-- `failures` counts the fatal reports. -/
private theorem failures_ne_zero_iff : failures rs ≠ 0 ↔ ∃ r ∈ rs, r.fatal = true := by
  rw [failures, ← Nat.pos_iff_ne_zero, List.countP_pos_iff]

/-- `run` prints the text of `valueOutput` or of `peopleOutput`, which is said to be all right if
the run has not failed. -/
private theorem printed_of_reports (hwords : Request.ofWords? words = some (.run a)) (hne : rs ≠ [])
    (h : reports files environment a = .ok rs) :
    (run files environment words).printed =
      if a.json then valueOutput rs ((run files environment words).exitCode = 0)
      else
        peopleOutput (isColoured environment) rs ((run files environment words).exitCode = 0) := by
  have hok : failures rs = 0 ↔ (run files environment words).exitCode = 0 :=
    not_iff_not.1 (failures_ne_zero_iff.trans (exitCode_ne_zero_iff hwords h).symm)
  rw [(run_of_reports hwords h).2, printJson_eq hne, printHuman_eq]
  simp only [hok]

/-- `reports` are those of runs over each file alone. -/
private theorem reports_alone (hsettings : loadSettings files environment a = .ok settings)
    (hunits : a.units ≠ []) (h : reports files environment a = .ok rs) :
    List.Forall₂ (fun path r => reports files environment { a with units := [path] } = .ok [r])
      a.units rs := by
  -- the settings do not depend on the files, nor does a report on other files
  refine ((reports_eq_ok_iff hsettings hunits).1 h).imp fun path r hreport => ?_
  exact (reports_eq_ok_iff (a := { a with units := [path] }) hsettings (List.cons_ne_nil path [])).2
    (.cons hreport .nil)

/-- `List.Forall₂` relates what is related to common elements. -/
private theorem forall₂_of_common {α β γ : Type} {p : α → β → Prop} {q : α → γ → Prop}
    {r : β → γ → Prop} {l : List α} {bs : List β} {cs : List γ} (hp : List.Forall₂ p l bs)
    (hq : List.Forall₂ q l cs)
    (h : ∀ a b c, p a b → q a c → r b c) : List.Forall₂ r bs cs := by
  induction hp generalizing cs with
  | nil =>
    obtain rfl := List.forall₂_nil_left_iff.1 hq
    exact .nil
  | cons hb _ ih =>
    obtain ⟨c, more, hc, hmore, rfl⟩ := List.forall₂_cons_left_iff.1 hq
    exact .cons (h _ _ _ hb hc) (ih hmore)

/-- Reports with the `SameFindings` are fatal together. -/
private theorem any_fatal_congr {rs' : List UnitReport}
    (h : List.Forall₂ UnitReport.SameFindings rs rs') :
    rs'.any (·.fatal) = rs.any (·.fatal) := by
  induction h with
  | nil => rfl
  | cons hr _ ih => rw [List.any_cons, List.any_cons, hr.fatal, ih]

/-- `reports` of a check and of a generation have the `SameFindings`, and those of the check no
symbols. -/
private theorem reports_check {json : Bool} {verbosity : Nat}
    (hsettings : loadSettings files environment a = .ok settings) (hunits : a.units ≠ [])
    (hcheck : a.command = .check) (hemit : a.emitSource = false) :
    let a' := { a with command := .generate, json, verbosity }
    ((∃ rs, reports files environment a = .ok rs) ↔
      ∃ rs', reports files environment a' = .ok rs') ∧
    ∀ rs rs', reports files environment a = .ok rs → reports files environment a' = .ok rs' →
      List.Forall₂ UnitReport.SameFindings rs rs' ∧ ∀ r ∈ rs, r.symbols = [] := by
  intro a'
  have hsource : a.emitSource = true → a.command = .generate := fun h => by simp [hemit] at h
  constructor
  · rw [exists_reports_iff hsettings hunits hsource,
      exists_reports_iff (a := a') hsettings hunits fun _ => rfl]
  · intro rs rs' hrs hrs'
    have hboth : List.Forall₂ (fun r r' => r.SameFindings r' ∧ r.symbols = []) rs rs' :=
      forall₂_of_common ((reports_eq_ok_iff hsettings hunits).1 hrs)
        ((reports_eq_ok_iff (a := a') hsettings hunits).1 hrs')
        fun _ _ _ h h' => sameFindings_of_reportFile hcheck rfl h h'
    obtain ⟨hsymbols, hsame⟩ :=
      (List.forall₂_and_left rs rs').1 (hboth.imp fun _ _ h => h.symm)
    exact ⟨hsame, hsymbols⟩

/-- A run that annotates fails only if `loadUnit` does. -/
private theorem exists_load_error (hwords : Request.ofWords? words = some (.run a))
    (hunits : a.units ≠ []) (hsettings : loadSettings files environment a = .ok settings)
    (hannotate : a.command = .annotate) (hcode : (run files environment words).exitCode ≠ 0) :
    ∃ path ∈ a.units, ∃ error, loadUnit files path = .error error := by
  have hsource : a.emitSource = true → a.command = .generate := command_of_ofWords? hwords
  by_contra hnone
  -- all files can be loaded and no source is asked for, so there is a report for each
  have hgoes : ∀ path ∈ a.units, ¬ StopsRun files settings.screen a.emitSource path := by
    rintro path hpath (⟨error, herror⟩ | ⟨-, -, hemit, -⟩)
    · exact hnone ⟨path, hpath, error, herror⟩
    · exact nomatch hannotate.symm.trans (hsource hemit)
  obtain ⟨rs, hrs⟩ := (exists_reports_iff hsettings hunits hsource).2 hgoes
  obtain ⟨r, hr, hfatal⟩ := (exitCode_ne_zero_iff hwords hrs).1 hcode
  have hcalm : ∀ r ∈ rs, r.fatal = false :=
    forall_mem_reports hsettings hunits hrs fun _ _ => fatal_of_annotate hannotate
  exact nomatch hfatal.symm.trans (hcalm r hr)

/-- How `run` ends over some files. Without settings it fails, and nothing is printed. With
settings: (1) if some file `StopsRun`, it fails and nothing is printed; (2) otherwise it prints one
report for each file, the one that a run over that file alone has, and fails exactly if a diagnostic
is fatal, or if some report is; the text that is printed, `valueOutput` or `peopleOutput`, counts
these reports and is `ok` exactly if the run has not failed; the form of the reports makes no
difference to that; (3) a check ends like a generation without source and finds the same, but has no
symbols; (4) a run that annotates fails only if a file cannot be loaded. -/
theorem run_reports_all_or_nothing (hwords : Request.ofWords? words = some (.run a))
    (hunits : a.units ≠ []) :
    let outcome := run files environment words
    (∀ error, loadSettings files environment a = .error error →
      outcome.exitCode ≠ 0 ∧ outcome.printed = "") ∧
    ∀ settings, loadSettings files environment a = .ok settings →
      -- (1)
      ((∃ path ∈ a.units, StopsRun files settings.screen a.emitSource path) →
        outcome.exitCode ≠ 0 ∧ outcome.printed = "") ∧
      -- (2)
      ((∀ path ∈ a.units, ¬ StopsRun files settings.screen a.emitSource path) →
        ∃ rs, reports files environment a = .ok rs ∧
          outcome.printed =
            (if a.json then valueOutput rs (outcome.exitCode = 0)
              else peopleOutput (isColoured environment) rs (outcome.exitCode = 0)) ∧
          List.Forall₂
            (fun path r => reports files environment { a with units := [path] } = .ok [r])
            a.units rs ∧
          (∀ r ∈ rs, r.fatal = r.diagnostics.any Diagnostic.isFatal) ∧
          (outcome.exitCode ≠ 0 ↔ ∃ r ∈ rs, ∃ d ∈ r.diagnostics, d.isFatal = true) ∧
          (outcome.exitCode ≠ 0 ↔ rs.countP (·.fatal) ≠ 0)) ∧
      (∀ words' json, Request.ofWords? words' = some (.run { a with json }) →
        (run files environment words').exitCode = outcome.exitCode) ∧
      -- (3)
      (a.command = .check → ∀ words' json verbosity,
        Request.ofWords? words' = some (.run { a with command := .generate, json, verbosity }) →
        let a' := { a with command := .generate, json, verbosity }
        (run files environment words').exitCode = outcome.exitCode ∧
        ((∃ rs, reports files environment a = .ok rs) ↔
          ∃ rs', reports files environment a' = .ok rs') ∧
        ∀ rs rs', reports files environment a = .ok rs → reports files environment a' = .ok rs' →
          List.Forall₂ UnitReport.SameFindings rs rs' ∧ ∀ r ∈ rs, r.symbols = []) ∧
      -- (4)
      (a.command = .annotate → outcome.exitCode ≠ 0 →
        ∃ path ∈ a.units, ∃ error, loadUnit files path = .error error) := by
  intro outcome
  have hsource : a.emitSource = true → a.command = .generate := command_of_ofWords? hwords
  -- whatever stops a run leaves it without reports
  have hfails : (∀ rs, reports files environment a ≠ .ok rs) →
      outcome.exitCode ≠ 0 ∧ outcome.printed = "" := fun h => by
    obtain ⟨hcode, hprinted⟩ := run_of_forall_ne hwords h
    exact ⟨hcode ▸ by decide, hprinted⟩
  refine ⟨fun error herror => hfails fun rs hrs => ?_, fun settings hsettings => ?_⟩
  · obtain ⟨settings, hsettings, -⟩ := Result.bind_eq_ok_iff.1 hrs
    exact nomatch herror.symm.trans hsettings
  have hreports := exists_reports_iff hsettings hunits hsource
  refine ⟨?_, ?_, ?_, ?_, ?_⟩
  · rintro ⟨path, hpath, hstops⟩
    exact hfails fun rs hrs => hreports.1 ⟨rs, hrs⟩ path hpath hstops
  · intro hgoes
    obtain ⟨rs, hrs⟩ := hreports.2 hgoes
    have hfatal : ∀ r ∈ rs, r.fatal = r.diagnostics.any Diagnostic.isFatal :=
      forall_mem_reports hsettings hunits hrs fun _ _ => fatal_of_reportFile
    have hcode : outcome.exitCode ≠ 0 ↔ ∃ r ∈ rs, r.fatal = true :=
      exitCode_ne_zero_iff hwords hrs
    -- there is a report for each file, so that there is at least one
    have hne : rs ≠ [] := by
      rintro rfl
      exact hunits (List.forall₂_nil_right_iff.1 ((reports_eq_ok_iff hsettings hunits).1 hrs))
    refine ⟨rs, hrs, printed_of_reports hwords hne hrs, reports_alone hsettings hunits hrs, hfatal,
      ?_, hcode.trans failures_ne_zero_iff.symm⟩
    rw [hcode]
    refine exists_congr fun r => and_congr_right fun hr => ?_
    rw [hfatal r hr, List.any_eq_true]
  · intro words' json hwords'
    refine exitCode_congr hwords hwords' Iff.rfl fun rs rs' hrs hrs' => ?_
    obtain rfl := Except.ok.inj (hrs.symm.trans hrs')
    rfl
  · intro hcheck words' json verbosity hwords' a'
    -- only the command with source may be asked for it
    have hemit : a.emitSource = false := by
      cases hemit : a.emitSource with
      | false => rfl
      | true => exact nomatch hcheck.symm.trans (hsource hemit)
    obtain ⟨hiff, hsame⟩ := reports_check hsettings hunits hcheck hemit
    exact ⟨exitCode_congr hwords hwords' hiff fun rs rs' hrs hrs' =>
      any_fatal_congr (hsame rs rs' hrs hrs').1, hiff, hsame⟩
  · intro hannotate hcode
    exact exists_load_error hwords hunits hsettings hannotate hcode

/-- Files of which one holds a screen that is no controller, one is empty, and the others are
missing. -/
def strayFiles : Files := fun path =>
  if path = "a.json" then
    .text ("\x7b\"classes\": [\x7b\"package\": \"app\", \"name\": \"Stray\", " ++
      "\"annotations\": [\x7b\"name\": \"screenkit.Screen\"\x7d]\x7d]\x7d")
  else if path = "c.json" then .text "\x7b\x7d"
  else .missing

/-- What a check of the first two of these files prints as a value. -/
def strayValue : String :=
  "\x7b\n" ++
  "  \"units\": 2,\n" ++
  "  \"failed\": 1,\n" ++
  "  \"ok\": false,\n" ++
  "  \"reports\": [\n" ++
  "    \x7b\n" ++
  "      \"path\": \"a.json\",\n" ++
  "      \"unit\": \"a\",\n" ++
  "      \"candidates\": 1,\n" ++
  "      \"diagnostics\": [\n" ++
  "        \x7b\n" ++
  "          \"code\": \"NOT_ON_CONTROLLER\",\n" ++
  "          \"severity\": \"error\",\n" ++
  "          \"message\": \"@Screen can only be applied to classes deriving from " ++
  "androidx.fragment.app.Fragment\",\n" ++
  "          \"owner\": \"app.Stray\",\n" ++
  "          \"subject\": \"app.Stray\",\n" ++
  "          \"location\": \x7b\n" ++
  "            \"file\": \"\",\n" ++
  "            \"line\": 0,\n" ++
  "            \"column\": 0\n" ++
  "          \x7d\n" ++
  "        \x7d\n" ++
  "      ],\n" ++
  "      \"symbols\": [],\n" ++
  "      \"fatal\": true\n" ++
  "    \x7d,\n" ++
  "    \x7b\n" ++
  "      \"path\": \"c.json\",\n" ++
  "      \"unit\": \"c\",\n" ++
  "      \"candidates\": 0,\n" ++
  "      \"diagnostics\": [],\n" ++
  "      \"symbols\": [],\n" ++
  "      \"fatal\": false\n" ++
  "    \x7d\n" ++
  "  ]\n" ++
  "\x7d\n"

/-- What the same check prints for people. -/
def strayText : String :=
  String.ofList (List.replicate 80 '=') ++ "\n" ++
  "UNIT a (a.json)\n" ++
  String.ofList (List.replicate 80 '=') ++ "\n" ++
  "  Marked declarations: 1\n" ++
  "  :0:0: error[NOT_ON_CONTROLLER]: @Screen can only be applied to classes deriving from " ++
  "androidx.fragment.app.Fragment [app.Stray]\n" ++
  "\n" ++
  String.ofList (List.replicate 80 '=') ++ "\n" ++
  "UNIT c (c.json)\n" ++
  String.ofList (List.replicate 80 '=') ++ "\n" ++
  "  Marked declarations: 0\n" ++
  "\n" ++
  "FAILED 1 of 2 unit(s) have errors\n"

/-- A check of the two files fails and prints a report for each, in one form or the other. With a
missing file behind the first there is no report. -/
theorem run_reports_all_or_nothing_stray :
    (∃ rs, reports strayFiles [] { command := .check, units := ["a.json", "c.json"] } = .ok rs ∧
      rs.countP (·.fatal) ≠ 0 ∧
      valueOutput rs false = strayValue ∧ peopleOutput false rs false = strayText) ∧
    (run strayFiles [] ["check", "--json", "a.json", "c.json"]).printed = strayValue ∧
    (run strayFiles [] ["check", "a.json", "c.json"]).printed = strayText ∧
    (run strayFiles [] ["check", "a.json", "b.json"]).exitCode ≠ 0 ∧
    (run strayFiles [] ["check", "a.json", "b.json"]).printed = "" := by
  have hwords : Request.ofWords? ["check", "a.json", "c.json"] =
      some (.run { command := .check, units := ["a.json", "c.json"] }) := by decide +kernel
  have hvalue : Request.ofWords? ["check", "--json", "a.json", "c.json"] =
      some (.run { command := .check, units := ["a.json", "c.json"], json := true }) := by
    decide +kernel
  have hmissing : Request.ofWords? ["check", "a.json", "b.json"] =
      some (.run { command := .check, units := ["a.json", "b.json"] }) := by decide +kernel
  have hsettings : ∀ units json,
      loadSettings strayFiles [] { command := .check, units, json } = .ok {} := by
    intro units json
    show loadSettings strayFiles [] { command := .check } = .ok {}
    decide +kernel
  -- a check asks for no source, so a file stops it only if it cannot be loaded
  have hgoes : ∀ path ∈ ["a.json", "c.json"], ¬ StopsRun strayFiles {} false path := by
    intro path hpath
    obtain ⟨unit, hload⟩ : ∃ unit, loadUnit strayFiles path = .ok unit := by
      rcases List.mem_cons.1 hpath with rfl | hpath
      · exact Result.exists_ok_of_isOk (by decide +kernel)
      · obtain rfl := List.mem_singleton.1 hpath
        exact Result.exists_ok_of_isOk (by decide +kernel)
    rintro (⟨error, herror⟩ | ⟨-, -, hemit, -⟩)
    · exact nomatch hload.symm.trans herror
    · exact nomatch hemit
  have hcode : (run strayFiles [] ["check", "a.json", "c.json"]).exitCode ≠ 0 := by decide +kernel
  have hprinted : (run strayFiles [] ["check", "a.json", "c.json"]).printed = strayText := by
    decide +kernel
  have hprintedValue :
      (run strayFiles [] ["check", "--json", "a.json", "c.json"]).printed = strayValue := by
    decide +kernel
  obtain ⟨-, hpeople, hsame, -⟩ :=
    (run_reports_all_or_nothing hwords (List.cons_ne_nil _ _)).2 {} (hsettings _ _)
  obtain ⟨rs, hrs, houtput, -, -, -, hfailures⟩ := hpeople hgoes
  obtain ⟨-, hvalues, -⟩ :=
    (run_reports_all_or_nothing hvalue (List.cons_ne_nil _ _)).2 {} (hsettings _ _)
  obtain ⟨rs', hrs', houtput', -⟩ := hvalues hgoes
  -- the form of the output makes no difference to the reports, nor to the exit code
  obtain rfl : rs = rs' := Except.ok.inj (hrs.symm.trans hrs')
  have hcode' := hsame _ true hvalue
  obtain ⟨hstops, -⟩ :=
    (run_reports_all_or_nothing hmissing (List.cons_ne_nil _ _)).2 {} (hsettings _ _)
  refine ⟨⟨rs, hrs, hfailures.1 hcode, ?_, ?_⟩, hprintedValue, hprinted,
    hstops ⟨"b.json", by simp, Or.inl ⟨.unreadable "b.json" .missing, rfl⟩⟩⟩
  · have hok : (decide ((run strayFiles [] ["check", "--json", "a.json", "c.json"]).exitCode = 0)) =
        false := decide_eq_false (hcode' ▸ hcode)
    rw [← hprintedValue, houtput', hok]
    rfl
  · rw [← hprinted, houtput, decide_eq_false hcode]
    rfl

end

end ScreenSynthesis.CommandLine

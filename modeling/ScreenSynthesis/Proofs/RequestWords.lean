import ScreenSynthesis.CommandLine.Arguments

/-!
# What words ask for

Source is asked for only of the command that has some. While the words are read, this is an
invariant of the reading: an option for the source is accepted only as long as the command has
source, and from then on no word names a command any more.

## Key results

- `Reading.Sound`, `Step.Sound`: the invariant of a reading, and of what a word leads to
- `Step.sound_ofWord`: every word keeps the invariant
- `command_of_ofWords?`: a run that is asked for its source generates
-/

namespace ScreenSynthesis.CommandLine

/-- What is not refused with `none` is what is given otherwise. -/
private theorem eq_of_ite_none_eq_some {α : Type} {p : Prop} [Decidable p] {a b : α}
    (h : (if p then none else some a) = some b) : a = b :=
  Option.some.inj (Option.ite_none_left_eq_some.1 h).2

namespace Reading

/-- A reading asks for source only of the command that has some, and names no command behind
that. -/
def Sound (r : Reading) : Prop :=
  r.arguments.emitSource = true → r.arguments.command = .generate ∧ r.started = true

/-- `set?` keeps a reading sound, if it may take the option. -/
theorem Sound.set? {r r' : Reading} {option : ValueOption} {value : String} (h : r.Sound)
    (hemit : option = .emit → r.mayEmit = true) (hset : r.set? option value = some r') :
    r'.Sound := by
  -- each option starts the reading, and one of them asks for the source
  cases option with
  | config =>
    obtain rfl := eq_of_ite_none_eq_some hset
    exact fun hsource => ⟨(h hsource).1, rfl⟩
  | appNamespace =>
    obtain rfl := eq_of_ite_none_eq_some hset
    exact fun hsource => ⟨(h hsource).1, rfl⟩
  | emit =>
    obtain rfl := eq_of_ite_none_eq_some hset
    exact fun _ => ⟨of_decide_eq_true (hemit rfl), rfl⟩

/-- `addUnit?` keeps a reading sound. -/
theorem Sound.addUnit? {r r' : Reading} {path : String} (h : r.Sound)
    (hadd : r.addUnit? path = some r') : r'.Sound := by
  obtain rfl := eq_of_ite_none_eq_some hadd
  exact fun hsource => ⟨(h hsource).1, rfl⟩

/-- `raise` keeps a reading sound. -/
theorem Sound.raise {r : Reading} (h : r.Sound) : r.raise.Sound :=
  fun hsource => ⟨(h hsource).1, rfl⟩

/-- Naming a command keeps a reading sound: it comes before anything else, so that no source was
asked for. -/
theorem Sound.command {r : Reading} (h : r.Sound) (hawaits : r.awaitsCommand = true)
    (command : Command) :
    Sound { r with arguments := { r.arguments with command }, commanded := true } := by
  intro hsource
  have hstarted := (h hsource).2
  simp [awaitsCommand, hstarted] at hawaits

end Reading

namespace Step

/-- A step leads to sound readings, and its words ask for no run yet. -/
def Sound : Step → Prop
  | next r => r.Sound
  | awaits r option => r.Sound ∧ (option = .emit → r.mayEmit = true)
  | stop request => ∀ a, request ≠ .run a

/-- `setting` leads to sound steps, whether the value is attached or awaited. -/
private theorem sound_setting {r : Reading} {option : ValueOption} {attached : Option String}
    {step : Step} (h : r.Sound) (hstep : setting r option attached = some step)
    (hemit : option = .emit → r.mayEmit = true) : step.Sound := by
  cases attached with
  | none =>
    obtain rfl := Option.some.inj hstep
    exact ⟨h, hemit⟩
  | some value =>
    obtain ⟨r', hset, rfl⟩ := Option.map_eq_some_iff.1 hstep
    exact h.set? hemit hset

/-- `long` options lead to sound steps. -/
private theorem sound_long {r : Reading} {name : String} {attached : Option String} {step : Step}
    (h : r.Sound) (hstep : long r name attached = some step) : step.Sound := by
  unfold long at hstep
  split at hstep
  · exact sound_setting h hstep nofun
  · exact sound_setting h hstep nofun
  · -- the option for the source is known only where the command has some
    obtain ⟨hemit, hstep⟩ := Option.ite_none_right_eq_some.1 hstep
    exact sound_setting h hstep fun _ => hemit
  · obtain rfl := eq_of_ite_none_eq_some hstep
    exact fun hsource => ⟨(h hsource).1, rfl⟩
  · obtain rfl := Option.some.inj hstep
    exact h.raise
  · obtain rfl := Option.some.inj hstep
    exact nofun
  · obtain rfl := eq_of_ite_none_eq_some hstep
    exact nofun
  · exact nomatch hstep

/-- `short` options lead to sound steps, letter by letter. -/
private theorem sound_short {r : Reading} {letters : List Char} {step : Step}
    (h : r.Sound) (hstep : short r letters = some step) : step.Sound := by
  fun_induction short r letters with
  | case1 r =>
    obtain rfl := Option.some.inj hstep
    exact h
  | case2 r letters ih => exact ih h.raise hstep
  | case3 | case4 | case5 => exact sound_setting h hstep nofun
  | case6 =>
    obtain rfl := Option.some.inj hstep
    exact nofun
  | case7 => exact nomatch hstep
  | case8 =>
    obtain rfl := Option.some.inj hstep
    exact nofun
  | case9 => exact nomatch hstep

/-- `ofWord` leads to sound steps from sound readings. -/
theorem sound_ofWord {r : Reading} {word : String} {step : Step} (h : r.Sound)
    (hstep : ofWord r word = some step) : step.Sound := by
  unfold ofWord at hstep
  split at hstep
  · exact sound_long h hstep
  · exact sound_short h hstep
  · split at hstep
    · -- a word that is no option names the command or a file
      rename_i command hcommand
      obtain rfl := Option.some.inj hstep
      obtain ⟨hawaits, -⟩ := Option.ite_none_right_eq_some.1 hcommand
      exact h.command hawaits command
    · obtain ⟨r', hadd, rfl⟩ := Option.map_eq_some_iff.1 hstep
      exact h.addUnit? hadd

end Step

/-- `addUnit?` for several unit files keeps a reading sound. -/
private theorem sound_of_foldlM {r r' : Reading} {paths : List String} (h : r.Sound)
    (hadd : paths.foldlM Reading.addUnit? r = some r') : r'.Sound := by
  induction paths generalizing r with
  | nil =>
    obtain rfl := Option.some.inj hadd
    exact h
  | cons path paths ih =>
    obtain ⟨next, hnext, hadd⟩ := Option.bind_eq_some_iff.1 hadd
    exact ih (h.addUnit? hnext) hadd

/-- `helpAbout` never asks for a run. -/
private theorem helpAbout_ne_run {words : List String} {a : Arguments} :
    helpAbout words ≠ some (.run a) := by
  unfold helpAbout
  split
  · exact nofun
  · split <;> exact nofun
  · exact nofun

/-- `readWords` asks for the run of a sound reading. -/
private theorem exists_sound_of_readWords {r : Reading} {words : List String} {a : Arguments}
    (h : r.Sound) (hread : readWords r words = some (.run a)) :
    ∃ r' : Reading, r'.Sound ∧ r'.arguments = a := by
  -- the words are read one or two at a time, and each step hands on a sound reading
  fun_induction readWords r words with
  | case1 r => exact ⟨r, h, Request.run.inj (Option.some.inj hread)⟩
  | case2 r words =>
    obtain ⟨r', hadd, hrun⟩ := Option.map_eq_some_iff.1 hread
    exact ⟨r', sound_of_foldlM h hadd, Request.run.inj hrun⟩
  | case3 => exact absurd hread helpAbout_ne_run
  | case4 | case7 | case9 | case10 => exact nomatch hread
  | case5 r word words _ _ request hstep =>
    exact absurd (Option.some.inj hread) (Step.sound_ofWord h hstep a)
  | case6 r word _ _ next words hstep ih => exact ih (Step.sound_ofWord h hstep) hread
  | case8 r word _ _ next option value words hstep _ after hset ih =>
    obtain ⟨hnext, hemit⟩ := Step.sound_ofWord h hstep
    exact ih (hnext.set? hemit hset) hread

/-- `ofWords?` asks for source only of the command that has some. -/
theorem command_of_ofWords? {words : List String} {a : Arguments}
    (hwords : Request.ofWords? words = some (.run a)) (hsource : a.emitSource = true) :
    a.command = .generate := by
  have hstart : Reading.Sound {} := fun hsource => nomatch hsource
  obtain ⟨r, hr, rfl⟩ := exists_sound_of_readWords hstart hwords
  exact (hr hsource).1

end ScreenSynthesis.CommandLine

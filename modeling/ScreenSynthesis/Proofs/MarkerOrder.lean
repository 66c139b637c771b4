import ScreenSynthesis.Proofs.MarkerArguments

/-!
# The order of the marker's arguments

What a marker says depends on the value that counts for each of its parameters, and not on how the
arguments for different parameters are mixed. An argument can move past its neighbour, come or go as
long as the later positional arguments keep their positions, or come too late for a position to make
a difference, and no value that counts is lost.

## Key results

- `Marker.ofAttribute_congr_append`: it is enough that the same values count behind some arguments
- `Marker.given_filled_swap`: neighbours that fill different parameters
- `Marker.given_filled_of_passed`: arguments that fill nothing
- `Marker.given_filled_of_shadowed`: arguments with a later one for the same parameter
- `Marker.unchanged_by_rewriting`: what may be done to a list of arguments
-/

namespace ScreenSynthesis

namespace Marker

variable {position : Nat} {parameter : String} {a b : AttributeArgument}
  {before arguments arguments' : List AttributeArgument}

/-- Whether an argument behind some others fills a parameter of the marker, which it is
`filledBy`. -/
def Fills (before : List AttributeArgument) (a : AttributeArgument) (parameter : String) : Prop :=
  (∃ i, parameterAt i = some parameter) ∧
    filledBy (positionals (forms before)) a.name = some parameter

/-! ## Values that count -/

/-- Arguments behind the same others make the same marker if the same is `given` for both
parameters. -/
theorem ofAttribute_congr_append {name : QualifiedName}
    (h : ∀ i parameter, parameterAt i = some parameter →
      given parameter (filled (positionals (forms before)) arguments) =
        given parameter (filled (positionals (forms before)) arguments')) :
    ofAttribute ⟨name, before ++ arguments⟩ = ofAttribute ⟨name, before ++ arguments'⟩ := by
  have hgiven : ∀ i parameter, parameterAt i = some parameter →
      given parameter (filled 0 (before ++ arguments)) =
        given parameter (filled 0 (before ++ arguments')) := by
    intro i parameter hparameter
    rw [given_filled_append, given_filled_append, h i parameter hparameter]
  rw [ofAttribute, ofAttribute, foldl_fill, foldl_fill, hgiven 0 _ rfl, hgiven 1 _ rfl]

/-- A named argument adds nothing to the `positionals`. -/
private theorem positionals_of_named (h : a.name ≠ none) : positionals [a.name] = 0 := by
  simp [positionals, h]

/-- A named argument is `filledBy` the same parameter in every place. -/
private theorem filledBy_of_named {form : Option String} (h : form ≠ none) (i j : Nat) :
    filledBy i form = filledBy j form := by
  obtain ⟨name, rfl⟩ := Option.ne_none_iff_exists'.1 h
  rfl

/-! ## Neighbours -/

/-- Neighbours that do not fill the same parameter can change places if one of them is named. -/
theorem given_filled_swap (hnamed : a.name ≠ none ∨ b.name ≠ none)
    (hother : filledBy position a.name = some parameter →
      filledBy (position + positionals [a.name]) b.name ≠ some parameter) :
    given parameter (filled position (b :: a :: arguments)) =
      given parameter (filled position (a :: b :: arguments)) := by
  -- each of them fills the same parameter in both places
  have ha : filledBy (position + positionals [b.name]) a.name = filledBy position a.name := by
    rcases hnamed with hnamed | hnamed
    · exact filledBy_of_named hnamed _ _
    · rw [positionals_of_named hnamed, Nat.add_zero]
  have hb : filledBy (position + positionals [a.name]) b.name = filledBy position b.name := by
    rcases hnamed with hnamed | hnamed
    · rw [positionals_of_named hnamed, Nat.add_zero]
    · exact filledBy_of_named hnamed _ _
  rw [hb] at hother
  rw [given_filled_cons, given_filled_cons, given_filled_cons, given_filled_cons, ha, hb,
    Nat.add_right_comm, Option.or_assoc, Option.or_assoc]
  -- at most one of the two counts for the parameter, so their order decides nothing
  by_cases hfills : filledBy position a.name = some parameter
  · rw [if_neg (hother hfills), Option.or_none, Option.none_or]
  · rw [if_neg hfills, Option.or_none, Option.none_or]

/-! ## Arguments that fill nothing -/

/-- Arguments behind the last position are `Settled`. -/
private theorem settled_of_le {fs : Forms} (h : 2 ≤ position) : Settled position fs := by
  induction fs generalizing position with
  | nil => exact trivial
  | cons form fs ih =>
    cases form with
    | some name => exact ih h
    | none =>
      refine ⟨fun parameter hparameter => ?_, ih (by omega)⟩
      -- there are two parameters only, and both have their positions in front
      have hlt : position < 2 ∨ position + 1 < 2 :=
        hparameter.imp (fun hfirst => exists_parameterAt_iff.1 ⟨_, hfirst⟩)
          fun hsecond => exists_parameterAt_iff.1 ⟨_, hsecond⟩
      omega

/-- An argument whose name is that of no parameter changes nothing that is `given`, and neither does
a positional one behind the last position. -/
theorem given_filled_of_passed {i : Nat} (hparameter : parameterAt i = some parameter)
    (ha : (a.name = none ∧ 2 ≤ position) ∨
      ∃ name, a.name = some name ∧ ∀ j, parameterAt j ≠ some name) :
    given parameter (filled position (a :: arguments)) =
      given parameter (filled position arguments) := by
  rw [given_filled_cons]
  rcases ha with ⟨hform, hposition⟩ | ⟨name, hform, hname⟩
  · -- there is no parameter at this position or at a later one
    have hnone : parameterAt position = none := by
      refine Option.eq_none_iff_forall_ne_some.2 fun name hname => ?_
      have hlt : position < 2 := exists_parameterAt_iff.1 ⟨name, hname⟩
      omega
    have hother : filledBy position a.name ≠ some parameter := by simp [filledBy, hform, hnone]
    have hposition' : position + positionals [a.name] = position + 1 := by
      simp [positionals, hform]
    rw [if_neg hother, Option.or_none, hposition',
      given_filled_succ parameter (settled_of_le hposition)]
  · -- the name is not that of the parameter
    have hne : name ≠ parameter := fun heq => hname i (heq ▸ hparameter)
    have hother : filledBy position a.name ≠ some parameter := by simp [filledBy, hform, hne]
    have hnamed : a.name ≠ none := by simp [hform]
    rw [if_neg hother, Option.or_none, positionals_of_named hnamed, Nat.add_zero]

/-! ## Arguments that do not count -/

/-- An argument changes nothing that is `given` if a later one fills the same parameter, and it is
named or there is no positional one behind it that would get another position. -/
theorem given_filled_of_shadowed {middle rest : List AttributeArgument}
    (hrest : arguments = middle ++ b :: rest)
    (hsame : filledBy position a.name = some parameter →
      filledBy (position + positionals (forms (a :: middle))) b.name = some parameter)
    (hform : a.name ≠ none ∨ none ∉ forms arguments) :
    given parameter (filled position arguments) =
      given parameter (filled position (a :: arguments)) := by
  -- without the argument those behind it have the same positions, or none of them has one
  have hmoves : given parameter (filled (position + positionals [a.name]) arguments) =
      given parameter (filled position arguments) := by
    rcases hform with hnamed | hnone
    · rw [positionals_of_named hnamed, Nat.add_zero]
    · cases hname : a.name with
      | none => exact given_filled_succ parameter (settled_of_not_mem hnone)
      | some name => rfl
  rw [given_filled_cons]
  by_cases hfills : filledBy position a.name = some parameter
  · -- the later argument counts
    have hlater : filledBy (position + positionals [a.name] + positionals (forms middle)) b.name =
        some parameter := by
      have hposition : positionals (forms (a :: middle)) =
          positionals [a.name] + positionals (forms middle) := by
        rw [positionals, positionals, positionals, ← List.count_append]
        rfl
      rw [Nat.add_assoc, ← hposition]
      exact hsame hfills
    have hsome : (given parameter (filled (position + positionals [a.name]) arguments)).isSome =
        true := by
      rw [hrest]
      exact isSome_given_of_filledBy hlater
    obtain ⟨value, hvalue⟩ := Option.isSome_iff_exists.1 hsome
    rw [← hmoves, hvalue, Option.some_or]
  · rw [if_neg hfills, Option.or_none, hmoves]

/-! ## Rewriting -/

/-- `positionals` of joined arguments add up. -/
private theorem positionals_append (before arguments : List AttributeArgument) :
    positionals (forms (before ++ arguments)) =
      positionals (forms before) + positionals (forms arguments) := by
  simp [positionals, forms]

/-- `parameterAt` gives no other names than those of the two parameters. -/
private theorem parameterAt_ne {name : String} (hargument : name ≠ argumentTypeParameter)
    (hnullable : name ≠ nullableParameter) (i : Nat) : parameterAt i ≠ some name := by
  match i with
  | 0 => exact fun heq => hargument (Option.some.inj heq).symm
  | 1 => exact fun heq => hnullable (Option.some.inj heq).symm
  | _ + 2 => exact nofun

/-- `ofAttribute` makes the same marker (1) if two neighbours that do not fill the same parameter
change places, and not both are positional, (2) with an argument more that is named like no
parameter, or is positional and has two positional ones in front, and (3) without an argument if a
later one fills the same parameter, provided that the argument is named or has no positional one
behind it. -/
theorem unchanged_by_rewriting (name : QualifiedName) (before after : List AttributeArgument)
    (a : AttributeArgument) :
    -- (1)
    (∀ b, a.name ≠ none ∨ b.name ≠ none →
      (∀ parameter, Fills before a parameter → ¬ Fills (before ++ [a]) b parameter) →
      ofAttribute ⟨name, before ++ b :: a :: after⟩ =
        ofAttribute ⟨name, before ++ a :: b :: after⟩) ∧
    -- (2)
    ((∃ other, a.name = some other ∧ other ≠ argumentTypeParameter ∧
        other ≠ nullableParameter) ∨
      a.name = none ∧ 2 ≤ positionals (forms before) →
      ofAttribute ⟨name, before ++ a :: after⟩ = ofAttribute ⟨name, before ++ after⟩) ∧
    -- (3)
    ∀ parameter middle b rest, after = middle ++ b :: rest →
      Fills before a parameter → Fills (before ++ a :: middle) b parameter →
      a.name ≠ none ∨ (∀ later ∈ after, later.name ≠ none) →
      ofAttribute ⟨name, before ++ after⟩ = ofAttribute ⟨name, before ++ a :: after⟩ := by
  refine ⟨fun b hnamed hother => ?_, fun ha => ?_,
    fun parameter middle b rest hafter hfills hlater hform => ?_⟩
  · refine ofAttribute_congr_append fun i parameter hparameter => ?_
    refine given_filled_swap hnamed fun hfirst hsecond => ?_
    have hposition : positionals (forms (before ++ [a])) =
        positionals (forms before) + positionals [a.name] := positionals_append before [a]
    exact hother parameter ⟨⟨i, hparameter⟩, hfirst⟩ ⟨⟨i, hparameter⟩, by rwa [hposition]⟩
  · refine ofAttribute_congr_append fun i parameter hparameter => ?_
    refine given_filled_of_passed hparameter (ha.symm.imp_right ?_)
    rintro ⟨other, hname, hargument, hnullable⟩
    exact ⟨other, hname, parameterAt_ne hargument hnullable⟩
  · refine ofAttribute_congr_append fun i probed hprobed => ?_
    refine given_filled_of_shadowed hafter (fun hfirst => ?_) (hform.imp_right ?_)
    · -- the argument fills one parameter only, so the later one is for that
      obtain rfl : parameter = probed := Option.some.inj (hfills.2.symm.trans hfirst)
      rw [← positionals_append]
      exact hlater.2
    · intro hnone hmem
      obtain ⟨later, hmem, hname⟩ := List.mem_map.1 hmem
      exact hnone later hmem hname

/-- Whether the argument may be null is given three times here, and the last time counts: its name
may stand in front of the type, the first time it is given may be left out, and a third positional
argument or a note may be put in between. -/
theorem unchanged_by_rewriting_mixed :
    let item : AttributeArgument := ⟨none, .classRef "app.Item"⟩
    let yes : AttributeArgument := ⟨some "nullable", .bool true⟩
    let no : AttributeArgument := ⟨none, .bool false⟩
    let note : AttributeArgument := ⟨some "note", .str "list"⟩
    ofAttribute ⟨⟨markerName⟩, [yes, item, no, yes]⟩ =
        ofAttribute ⟨⟨markerName⟩, [item, yes, no, yes]⟩ ∧
      ofAttribute ⟨⟨markerName⟩, [item, no, item, yes]⟩ =
        ofAttribute ⟨⟨markerName⟩, [item, no, yes]⟩ ∧
      ofAttribute ⟨⟨markerName⟩, [item, note, no, yes]⟩ =
        ofAttribute ⟨⟨markerName⟩, [item, no, yes]⟩ ∧
      ofAttribute ⟨⟨markerName⟩, [item, no, yes]⟩ =
        ofAttribute ⟨⟨markerName⟩, [item, yes, no, yes]⟩ := by
  intro item yes no note
  obtain ⟨hswap, -, -⟩ := unchanged_by_rewriting ⟨markerName⟩ [] [no, yes] item
  obtain ⟨-, hpassed, -⟩ := unchanged_by_rewriting ⟨markerName⟩ [item, no] [yes] item
  obtain ⟨-, hunknown, -⟩ := unchanged_by_rewriting ⟨markerName⟩ [item] [no, yes] note
  obtain ⟨-, -, hshadowed⟩ := unchanged_by_rewriting ⟨markerName⟩ [item] [no, yes] yes
  refine ⟨hswap yes (Or.inr nofun) ?_, hpassed (Or.inr ⟨rfl, by decide⟩),
    hunknown (Or.inl ⟨"note", rfl, by decide, by decide⟩),
    hshadowed nullableParameter [] no [yes] rfl ⟨⟨1, rfl⟩, rfl⟩ ⟨⟨1, rfl⟩, rfl⟩ (Or.inl nofun)⟩
  -- the swapped arguments fill the two parameters, one each
  rintro parameter ⟨-, hitem⟩ ⟨-, hyes⟩
  have hdistinct : some argumentTypeParameter ≠ some nullableParameter := by decide
  exact hdistinct (hitem.trans hyes.symm)

end Marker

end ScreenSynthesis

import ScreenSynthesis.Marker

/-!
# Positional and named arguments of the marker

Only positional arguments are counted when a marker's arguments are matched with its parameters. So
an argument that is written in its named form leaves its position to the next positional argument,
and all later ones move up.

## Key results

- `Marker.foldl_fill`: for each parameter the last value counts that fills it
- `Marker.given_filled_succ`: settled arguments mean the same after they have moved up
- `Marker.Agrees.settled`, `Marker.Settled.agrees`: the later arguments are settled if the two forms
  of an argument always mean the same, and how far this is enough
- `Marker.namedForm_agrees_iff`: when an argument may be written in its named form
-/

namespace ScreenSynthesis

namespace Marker

/-- The value that counts for a parameter: the last one that fills it. -/
def given (parameter : String) : List (String × Expr) → Option Expr
  | [] => none
  | (name, value) :: rest =>
    (given parameter rest).or (if name = parameter then some value else none)

/-- `given` prefers what the later values give. -/
private theorem given_append (parameter : String) (values more : List (String × Expr)) :
    given parameter (values ++ more) = (given parameter more).or (given parameter values) := by
  induction values with
  | nil => rw [List.nil_append, given, Option.or_none]
  | cons value values ih =>
    obtain ⟨name, value⟩ := value
    rw [List.cons_append, given, ih, given, Option.or_assoc]

/-- Folding `fill` over values sets each field of the marker to what is `given` for its parameter,
and keeps the field if nothing is. -/
theorem foldl_fill (m : Marker) (values : List (String × Expr)) :
    values.foldl fill m =
      ⟨((given argumentTypeParameter values).map .ofExpr).getD m.argument,
        ((given nullableParameter values).map fun value => decide (value = .bool true)).getD
          m.nullable⟩ := by
  induction values generalizing m with
  | nil => rfl
  | cons value values ih =>
    obtain ⟨name, value⟩ := value
    have hdistinct : argumentTypeParameter ≠ nullableParameter := by decide
    rw [List.foldl_cons, ih, given, given]
    by_cases hargument : name = argumentTypeParameter
    · subst hargument
      rw [if_pos rfl, if_neg hdistinct, fill, if_pos rfl]
      cases given argumentTypeParameter values <;> simp
    · by_cases hnullable : name = nullableParameter
      · subst hnullable
        rw [if_neg hdistinct.symm, if_pos rfl, fill, if_neg hdistinct.symm, if_pos rfl]
        cases given nullableParameter values <;> simp
      · rw [if_neg hargument, if_neg hnullable, fill, if_neg hargument, if_neg hnullable]
        simp

/-! ## The parameters that arguments fill -/

/-- The names that arguments are written with, and nothing for those that are positional. -/
abbrev Forms := List (Option String)

/-- The `forms` of some arguments are their names. -/
def forms (arguments : List AttributeArgument) : Forms := arguments.map (·.name)

/-- How many arguments are positional. -/
def positionals (fs : Forms) : Nat := fs.count none

/-- The parameter that an argument fills, when some positional arguments came before it. -/
def filledBy (position : Nat) (form : Option String) : Option String :=
  form.or (parameterAt position)

variable {position : Nat} {parameter : String} {arguments : List AttributeArgument}

/-- `filled` counts positional arguments only, so `more` starts where the `positionals` before it
end. -/
private theorem filled_append (position : Nat) (arguments more : List AttributeArgument) :
    filled position (arguments ++ more) =
      filled position arguments ++ filled (position + positionals (forms arguments)) more := by
  induction arguments generalizing position with
  | nil => rfl
  | cons a arguments ih =>
    obtain ⟨name, value⟩ := a
    cases name with
    | some name => simp [filled, ih, positionals, forms]
    | none =>
      -- a positional argument moves those behind it on by one
      have hposition : position + positionals (forms (⟨none, value⟩ :: arguments)) =
          position + 1 + positionals (forms arguments) := by
        simp [positionals, forms]
        omega
      rw [hposition, List.cons_append, filled, filled]
      cases parameterAt position <;> simp [ih]

/-- What is `given` by arguments is given by those from some place on, or else by those before
it. -/
theorem given_filled_append (arguments more : List AttributeArgument) :
    given parameter (filled 0 (arguments ++ more)) =
      (given parameter (filled (positionals (forms arguments)) more)).or
        (given parameter (filled 0 arguments)) := by
  rw [filled_append, given_append, Nat.zero_add]

/-- An argument is `given` for the parameter that it is `filledBy`, unless a later one is. -/
theorem given_filled_cons (a : AttributeArgument) :
    given parameter (filled position (a :: arguments)) =
      (given parameter (filled (position + positionals [a.name]) arguments)).or
        (if filledBy position a.name = some parameter then some a.value else none) := by
  obtain ⟨name, value⟩ := a
  cases name with
  | some name => simp [filled, given, filledBy, positionals]
  | none =>
    rw [filled]
    cases hparameter : parameterAt position <;> simp [given, filledBy, positionals, hparameter]

/-- `parameterAt` gives each parameter one position. -/
private theorem parameterAt_inj {i j : Nat} (hi : parameterAt i = some parameter)
    (hj : parameterAt j = some parameter) : i = j := by
  have hdistinct : argumentTypeParameter ≠ nullableParameter := by decide
  match i, j with
  | 0, 0 | 1, 1 => rfl
  | 0, 1 => exact absurd (Option.some.inj (hi.trans hj.symm)) hdistinct
  | 1, 0 => exact absurd (Option.some.inj (hj.trans hi.symm)) hdistinct
  | _ + 2, _ => exact nomatch hi
  | _, _ + 2 => exact nomatch hj

/-- `parameterAt` knows two positions. -/
theorem exists_parameterAt_iff {i : Nat} : (∃ name, parameterAt i = some name) ↔ i < 2 := by
  match i with
  | 0 | 1 => exact iff_of_true ⟨_, rfl⟩ (by decide)
  | i + 2 =>
    exact iff_of_false (fun ⟨_, hname⟩ => nomatch hname)
      (Nat.not_lt_of_le (Nat.le_add_left 2 i))

/-- Something is `given` for a parameter that some argument fills. -/
theorem isSome_given_of_filledBy {a : AttributeArgument} {middle rest : List AttributeArgument}
    (h : filledBy (position + positionals (forms middle)) a.name = some parameter) :
    (given parameter (filled position (middle ++ a :: rest))).isSome = true := by
  rw [filled_append, given_append, given_filled_cons, if_pos h]
  simp

/-- Something is `given` for a parameter whose name is among the `forms`. -/
private theorem isSome_given_of_mem (h : some parameter ∈ forms arguments) :
    (given parameter (filled position arguments)).isSome = true := by
  obtain ⟨a, ha, hname⟩ := List.mem_map.1 h
  obtain ⟨middle, rest, rfl⟩ := List.append_of_mem ha
  exact isSome_given_of_filledBy (Option.or_eq_some_iff.2 (Or.inl hname))

/-- Nothing is `given` for a parameter if its name is not among the `forms` and its position has
passed. -/
private theorem given_eq_none_of_lt {i : Nat} (hparameter : parameterAt i = some parameter)
    (hi : i < position) (h : some parameter ∉ forms arguments) :
    given parameter (filled position arguments) = none := by
  induction arguments generalizing position with
  | nil => rfl
  | cons a arguments ih =>
    obtain ⟨hname, hrest⟩ := not_or.1 (mt List.mem_cons.2 h)
    -- neither its name nor its position makes the first argument fill the parameter
    have hother : filledBy position a.name ≠ some parameter := by
      intro hfilled
      rcases Option.or_eq_some_iff.1 hfilled with hwritten | ⟨-, hposition⟩
      · exact hname hwritten.symm
      · exact Nat.ne_of_lt hi (parameterAt_inj hparameter hposition)
    rw [given_filled_cons, ih (Nat.lt_of_lt_of_le hi (Nat.le_add_right _ _)) hrest,
      if_neg hother, Option.or_none]

/-- What is `given` for a parameter is one of the values that are written. -/
private theorem exists_of_given {value : Expr}
    (h : given parameter (filled position arguments) = some value) :
    ∃ a ∈ arguments, a.value = value := by
  induction arguments generalizing position with
  | nil => exact nomatch h
  | cons a arguments ih =>
    rw [given_filled_cons] at h
    rcases Option.or_eq_some_iff.1 h with hrest | ⟨-, hhead⟩
    · obtain ⟨a', ha', hvalue⟩ := ih hrest
      exact ⟨a', List.mem_cons_of_mem a ha', hvalue⟩
    · exact ⟨a, List.mem_cons_self, Option.some.inj (Option.ite_none_right_eq_some.1 hhead).2⟩

/-! ## Arguments that move up -/

/-- Whether arguments are settled behind some positional ones: each positional argument is followed
by named ones for the parameter that it fills and for the one that it would fill one position
later. -/
def Settled (position : Nat) : Forms → Prop
  | [] => True
  | some _ :: rest => Settled position rest
  | none :: rest =>
    (∀ parameter, parameterAt position = some parameter ∨
      parameterAt (position + 1) = some parameter → some parameter ∈ rest) ∧
    Settled (position + 1) rest

/-- Arguments in named forms only are `Settled`. -/
theorem settled_of_not_mem {fs : Forms} (h : none ∉ fs) : Settled position fs := by
  induction fs with
  | nil => exact trivial
  | cons form fs ih =>
    obtain ⟨hform, hrest⟩ := not_or.1 (mt List.mem_cons.2 h)
    cases form with
    | none => exact absurd rfl hform
    | some name => exact ih hrest

/-- `Settled` arguments give the same after they have moved up by one position. -/
theorem given_filled_succ (parameter : String) (h : Settled position (forms arguments)) :
    given parameter (filled (position + 1) arguments) =
      given parameter (filled position arguments) := by
  induction arguments generalizing position with
  | nil => rfl
  | cons a arguments ih =>
    obtain ⟨name, value⟩ := a
    cases name with
    | some name =>
      rw [given_filled_cons, given_filled_cons]
      exact congrArg (Option.or · _) (ih h)
    | none =>
      obtain ⟨hnamed, hrest⟩ := h
      have hsame : given parameter (filled (position + 1 + 1) arguments) =
          given parameter (filled (position + 1) arguments) := ih hrest
      rw [given_filled_cons, given_filled_cons]
      show (given parameter (filled (position + 1 + 1) arguments)).or
          (if parameterAt (position + 1) = some parameter then some value else none) =
        (given parameter (filled (position + 1) arguments)).or
          (if parameterAt position = some parameter then some value else none)
      by_cases hmem : some parameter ∈ forms arguments
      · -- a later argument counts anyway
        have hsome : (given parameter (filled (position + 1) arguments)).isSome = true :=
          isSome_given_of_mem hmem
        obtain ⟨later, hlater⟩ := Option.isSome_iff_exists.1 hsome
        rw [hsame, hlater, Option.some_or, Option.some_or]
      · have hnot := mt (hnamed parameter) hmem
        rw [not_or] at hnot
        rw [hsame, if_neg hnot.2, if_neg hnot.1]

/-- Nothing is `given` by `Settled` arguments for a parameter whose name is not among their
`forms`. -/
private theorem Settled.given_eq_none (h : Settled position (forms arguments))
    (hname : some parameter ∉ forms arguments) :
    given parameter (filled position arguments) = none := by
  induction arguments generalizing position with
  | nil => rfl
  | cons a arguments ih =>
    obtain ⟨name, value⟩ := a
    obtain ⟨hother, hlater⟩ := not_or.1 (mt List.mem_cons.2 hname)
    cases name with
    | some name =>
      have hne : filledBy position (some name) ≠ some parameter := fun heq => hother heq.symm
      rw [given_filled_cons, if_neg hne, Option.or_none]
      exact ih h hlater
    | none =>
      obtain ⟨hnamed, hrest⟩ := h
      have hne : filledBy position none ≠ some parameter := fun heq =>
        hlater (hnamed parameter (Or.inl heq))
      rw [given_filled_cons, if_neg hne, Option.or_none]
      exact ih hrest hlater

/-! ## Values that tell arguments apart -/

/-- A value that is seen in a marker if it counts for a parameter. -/
def sample (parameter : String) : Expr :=
  if parameter = argumentTypeParameter then .classRef "a.B" else .bool true

/-- Whether a marker shows the `sample` of a parameter. -/
def shows (m : Marker) (parameter : String) : Bool :=
  if parameter = argumentTypeParameter then m.argument = .qualified ⟨"a.B"⟩ else m.nullable

/-- Arguments are probing for a parameter if they have no other values than its `sample` and
null. -/
def Probing (parameter : String) (arguments : List AttributeArgument) : Prop :=
  ∀ a ∈ arguments, a.value = sample parameter ∨ a.value = .null

/-- Arguments in given forms that are all null. -/
def nulls (fs : Forms) : List AttributeArgument := fs.map fun form => ⟨form, .null⟩

/-- `nulls` have the forms that they are made of. -/
private theorem forms_nulls (fs : Forms) : forms (nulls fs) = fs := by
  rw [forms, nulls, List.map_map]
  exact List.map_id fs

/-- `nulls` are `Probing` for every parameter. -/
private theorem probing_nulls (parameter : String) (fs : Forms) : Probing parameter (nulls fs) := by
  intro a ha
  obtain ⟨form, -, rfl⟩ := List.mem_map.1 ha
  exact Or.inr rfl

/-- No `sample` is null. -/
private theorem sample_ne_null (parameter : String) : sample parameter ≠ .null := by
  unfold sample
  split <;> exact nofun

/-- If the second value can only be null, a `sample` can only be the first. -/
private theorem or_eq_some_sample_iff {first second : Option Expr}
    (hnull : ∀ value, second = some value → value = .null) :
    first.or second = some (sample parameter) ↔ first = some (sample parameter) := by
  cases first with
  | some value => rfl
  | none =>
    exact ⟨fun h => absurd (hnull _ h) (sample_ne_null parameter), nofun⟩

/-- What is `given` by `nulls` is null. -/
private theorem eq_null_of_given_nulls {fs : Forms} {value : Expr}
    (h : given parameter (filled position (nulls fs)) = some value) : value = .null := by
  obtain ⟨a, ha, rfl⟩ := exists_of_given h
  obtain ⟨form, -, rfl⟩ := List.mem_map.1 ha
  rfl

/-- The marker of `Probing` arguments shows a `sample` exactly if it is `given`. -/
private theorem shows_ofAttribute_iff {i : Nat} {a : AttributeLiteral}
    (hparameter : parameterAt i = some parameter) (ha : Probing parameter a.arguments) :
    (ofAttribute a).shows parameter = true ↔
      given parameter (filled 0 a.arguments) = some (sample parameter) := by
  -- the arguments have no third value that could count
  have hgiven : ∀ value, given parameter (filled 0 a.arguments) = some value →
      value = sample parameter ∨ value = .null := by
    intro value hvalue
    obtain ⟨b, hb, rfl⟩ := exists_of_given hvalue
    exact ha b hb
  rw [ofAttribute, foldl_fill, shows]
  generalize filled 0 a.arguments = values at hgiven ⊢
  -- the two parameters are read in different ways
  match i with
  | 0 =>
    obtain rfl := Option.some.inj hparameter
    show decide (((given argumentTypeParameter values).map ArgumentRef.ofExpr).getD .noArgument =
      .qualified ⟨"a.B"⟩) = true ↔ _
    cases hvalue : given argumentTypeParameter values with
    | none => decide
    | some value => rcases hgiven value hvalue with rfl | rfl <;> decide +kernel
  | 1 =>
    obtain rfl := Option.some.inj hparameter
    show ((given nullableParameter values).map fun value => decide (value = .bool true)).getD
      false = true ↔ _
    cases hvalue : given nullableParameter values with
    | none => decide
    | some value => rcases hgiven value hvalue with rfl | rfl <;> decide +kernel
  | _ + 2 => exact nomatch hparameter

/-- A null in front of other arguments decides nothing about a `sample`. -/
private theorem given_null_cons_iff {form : Option String} :
    given parameter (filled position (⟨form, .null⟩ :: arguments)) = some (sample parameter) ↔
      given parameter (filled (position + positionals [form]) arguments) =
        some (sample parameter) := by
  rw [given_filled_cons, or_eq_some_sample_iff]
  exact fun value hvalue => (Option.some.inj (Option.ite_none_right_eq_some.1 hvalue).2).symm

/-- A `sample` with `nulls` behind it is `given` exactly for the parameter that it is `filledBy`, if
the `nulls` give nothing for this one. -/
private theorem given_sample_iff {form : Option String} {fs : Forms}
    (hnone : filledBy position form = some parameter →
      given parameter (filled (position + positionals [form]) (nulls fs)) = none) :
    given parameter (filled position (⟨form, sample parameter⟩ :: nulls fs)) =
      some (sample parameter) ↔ filledBy position form = some parameter := by
  rw [given_filled_cons]
  by_cases hfilled : filledBy position form = some parameter
  · rw [hnone hfilled, if_pos hfilled, Option.none_or]
    exact iff_of_true rfl hfilled
  · rw [if_neg hfilled, Option.or_none]
    exact iff_of_false (fun h => sample_ne_null parameter (eq_null_of_given_nulls h)) hfilled

/-- Forms are `Settled` if all `Probing` arguments in these forms give the same after they have
moved up. -/
private theorem settled_of_given_succ {fs : Forms}
    (h : ∀ parameter i arguments, parameterAt i = some parameter → forms arguments = fs →
      Probing parameter arguments →
      (given parameter (filled (position + 1) arguments) = some (sample parameter) ↔
        given parameter (filled position arguments) = some (sample parameter))) :
    Settled position fs := by
  induction fs generalizing position with
  | nil => exact trivial
  | cons form fs ih =>
    -- the arguments behind the first one move up as well
    have hrest : Settled (position + positionals [form]) fs := by
      refine ih fun parameter i arguments hparameter hforms hprobing => ?_
      have hmoves := h parameter i (⟨form, .null⟩ :: arguments) hparameter
        (congrArg (form :: ·) hforms) (List.forall_mem_cons.2 ⟨Or.inr rfl, hprobing⟩)
      rwa [given_null_cons_iff, given_null_cons_iff, Nat.add_right_comm] at hmoves
    cases form with
    | some name => exact hrest
    | none =>
      refine ⟨fun parameter hparameter => ?_, hrest⟩
      refine Decidable.byContradiction fun hmem => ?_
      -- otherwise the sample of this parameter counts in one of the two positions only
      have hcounts : ∀ next, given parameter (filled next (⟨none, sample parameter⟩ :: nulls fs)) =
          some (sample parameter) ↔ parameterAt next = some parameter := fun next =>
        given_sample_iff fun hfilled => given_eq_none_of_lt hfilled (Nat.lt_succ_self next)
          ((forms_nulls fs).symm ▸ hmem)
      obtain ⟨i, hi⟩ : ∃ i, parameterAt i = some parameter :=
        hparameter.elim (fun hfirst => ⟨_, hfirst⟩) fun hsecond => ⟨_, hsecond⟩
      have hsame := h parameter i (⟨none, sample parameter⟩ :: nulls fs) hi
        (congrArg (none :: ·) (forms_nulls fs))
        (List.forall_mem_cons.2 ⟨Or.inl rfl, probing_nulls parameter fs⟩)
      rw [hcounts, hcounts] at hsame
      have hboth : parameterAt position = some parameter ∧
          parameterAt (position + 1) = some parameter :=
        hparameter.elim (fun hfirst => ⟨hfirst, hsame.2 hfirst⟩)
          fun hsecond => ⟨hsame.1 hsecond, hsecond⟩
      exact absurd (parameterAt_inj hboth.1 hboth.2) (Nat.ne_of_lt (Nat.lt_succ_self position))

/-! ## Named forms -/

/-- An annotation with the argument at a place written in its named form. -/
def named (a : AttributeLiteral) (i : Nat) (parameter : String) : AttributeLiteral :=
  { a with arguments := a.arguments.modify i fun argument => { argument with name := parameter } }

/-- `named` changes the argument at the place and leaves those around it as they are. -/
private theorem named_append (name : QualifiedName) (arguments more : List AttributeArgument)
    (a : AttributeArgument) (parameter : String) :
    named ⟨name, arguments ++ a :: more⟩ arguments.length parameter =
      ⟨name, arguments ++ { a with name := parameter } :: more⟩ := by
  rw [named]
  refine congrArg (AttributeLiteral.mk name) ?_
  induction arguments with
  | nil => rfl
  | cons first arguments ih => exact congrArg (first :: ·) ih

/-- Whether the named form of a parameter means what the positional form of an argument does, for
an argument at a place in other arguments and whatever the values are. -/
def Agrees (before after : Forms) (parameter : String) : Prop :=
  ∀ a : AttributeLiteral, forms a.arguments = before ++ none :: after →
    ofAttribute (named a before.length parameter) = ofAttribute a

section

variable {before after : Forms} {own : String}

/-- If the two forms always mean the same (`Agrees`), then the same samples count behind arguments
that are null. -/
private theorem Agrees.counts_iff (h : Agrees before after parameter) {probed : String} {k : Nat}
    (hk : parameterAt k = some probed) (value : Expr) {later : List AttributeArgument}
    (hlater : forms later = after) (hprobing : Probing probed (⟨none, value⟩ :: later)) :
    given probed (filled (positionals before) (⟨none, value⟩ :: later)) = some (sample probed) ↔
      given probed (filled (positionals before) (⟨some parameter, value⟩ :: later)) =
        some (sample probed) := by
  -- the nulls before the argument cannot cover the sample, and so the marker shows whether it
  -- counts
  have hshows : ∀ name,
      (ofAttribute ⟨⟨markerName⟩, nulls before ++ ⟨name, value⟩ :: later⟩).shows probed = true ↔
        given probed (filled (positionals before) (⟨name, value⟩ :: later)) =
          some (sample probed) := by
    intro name
    have hall : Probing probed (nulls before ++ ⟨name, value⟩ :: later) :=
      List.forall_mem_append.2 ⟨probing_nulls probed before,
        List.forall_mem_cons.2 (List.forall_mem_cons.1 hprobing)⟩
    rw [shows_ofAttribute_iff hk hall, given_filled_append, forms_nulls,
      or_eq_some_sample_iff fun _ => eq_null_of_given_nulls]
  have hforms : forms (nulls before ++ ⟨none, value⟩ :: later) = before ++ none :: after := by
    rw [← hlater]
    exact List.map_append.trans (congrArg (· ++ _) (forms_nulls before))
  have hlength : (nulls before).length = before.length := List.length_map _
  have hsame := h ⟨⟨markerName⟩, nulls before ++ ⟨none, value⟩ :: later⟩ hforms
  rw [← hlength, named_append] at hsame
  rw [← hshows, ← hshows, ← hsame]

/-- If the two forms always mean the same, then the later arguments are `Settled`. -/
theorem Agrees.settled (h : Agrees before after parameter) :
    Settled (positionals before) after := by
  refine settled_of_given_succ fun probed k later hk hlater hprobing => ?_
  have hmoves := h.counts_iff hk .null hlater (List.forall_mem_cons.2 ⟨Or.inr rfl, hprobing⟩)
  rwa [given_null_cons_iff, given_null_cons_iff] at hmoves

/-- If the two forms always mean the same, then a parameter that only one of them fills is named
later. -/
private theorem Agrees.mem (h : Agrees before after parameter) {probed : String} {k : Nat}
    (hk : parameterAt k = some probed)
    (hone : ¬ (parameterAt (positionals before) = some probed ↔ parameter = probed)) :
    some probed ∈ after := by
  -- otherwise its sample, with null everywhere else, counts in the form that fills it
  refine Decidable.byContradiction fun hmem => hone ?_
  have hsettled : Settled (positionals before) (forms (nulls after)) :=
    (forms_nulls after).symm ▸ h.settled
  have hnone : given probed (filled (positionals before) (nulls after)) = none :=
    hsettled.given_eq_none ((forms_nulls after).symm ▸ hmem)
  have hnone' := (given_filled_succ probed hsettled).trans hnone
  have hcounts := h.counts_iff hk (sample probed) (forms_nulls after)
    (List.forall_mem_cons.2 ⟨Or.inl rfl, probing_nulls probed after⟩)
  rw [given_sample_iff fun _ => hnone', given_sample_iff fun _ => hnone] at hcounts
  exact hcounts.trans Option.some_inj

/-- If the later arguments are `Settled`, then the forms agree as soon as both fill the same
parameter, or both parameters are named later. -/
theorem Settled.agrees (hsettled : Settled (positionals before) after)
    (hown : parameterAt (positionals before) = some own)
    (hsame : own = parameter ∨ some own ∈ after ∧ some parameter ∈ after) :
    Agrees before after parameter := by
  rintro ⟨name, arguments⟩ hforms
  obtain ⟨earlier, rest, rfl, rfl, hrest⟩ := List.map_eq_append_iff.1 hforms
  obtain ⟨⟨_, value⟩, later, rfl, rfl, rfl⟩ := List.map_eq_cons_iff.1 hrest
  -- each parameter gets the same value, and so the markers are equal
  have hgiven : ∀ probed,
      given probed (filled (positionals (forms earlier)) (⟨some parameter, value⟩ :: later)) =
        given probed (filled (positionals (forms earlier)) (⟨none, value⟩ :: later)) := by
    intro probed
    have hmoves : given probed (filled (positionals (forms earlier) + 1) later) =
        given probed (filled (positionals (forms earlier)) later) :=
      given_filled_succ probed hsettled
    rw [given_filled_cons, given_filled_cons]
    show (given probed (filled (positionals (forms earlier)) later)).or
        (if some parameter = some probed then some value else none) =
      (given probed (filled (positionals (forms earlier) + 1) later)).or
        (if parameterAt (positionals (forms earlier)) = some probed then some value else none)
    rw [hmoves, show parameterAt (positionals (forms earlier)) = some own from hown]
    rcases hsame with rfl | ⟨hownLater, hparameterLater⟩
    · rfl
    · by_cases hmem : some probed ∈ forms later
      · have hsome : (given probed (filled (positionals (forms earlier)) later)).isSome = true :=
          isSome_given_of_mem hmem
        obtain ⟨counting, hcounting⟩ := Option.isSome_iff_exists.1 hsome
        rw [hcounting, Option.some_or, Option.some_or]
      · have hne : some own ≠ some probed := fun heq => hmem (heq ▸ hownLater)
        have hne' : some parameter ≠ some probed := fun heq => hmem (heq ▸ hparameterLater)
        rw [if_neg hne, if_neg hne']
  rw [List.length_map, named_append, ofAttribute, ofAttribute, foldl_fill, foldl_fill,
    given_filled_append, given_filled_append, given_filled_append,
    given_filled_append, hgiven, hgiven]

end

/-- An argument at a list position may be `named` after the parameter at this position exactly if
the later arguments are `Settled` and moreover all arguments before it are positional, or both
parameters are named later. In particular, it may if all arguments before it are positional and all
later ones are named. -/
theorem namedForm_agrees_iff {fs : Forms} {i : Nat} (hform : fs[i]? = some none)
    (hparameter : parameterAt i = some parameter) :
    ((∀ a : AttributeLiteral, forms a.arguments = fs →
        ofAttribute (named a i parameter) = ofAttribute a) ↔
      Settled (positionals (fs.take i)) (fs.drop (i + 1)) ∧
        (positionals (fs.take i) = i ∨
          ∀ k other, parameterAt k = some other → some other ∈ fs.drop (i + 1))) ∧
    (positionals (fs.take i) = i → none ∉ fs.drop (i + 1) →
      ∀ a : AttributeLiteral, forms a.arguments = fs →
        ofAttribute (named a i parameter) = ofAttribute a) := by
  have hi : i < fs.length := (List.getElem?_eq_some_iff.1 hform).1
  have hlength : (fs.take i).length = i := List.length_take_of_le (Nat.le_of_lt hi)
  have hsplit : fs.take i ++ none :: fs.drop (i + 1) = fs := by
    have hhead : fs[i] = none := (List.getElem?_eq_some_iff.1 hform).2
    rw [← hhead, List.getElem_cons_drop, List.take_append_drop]
  -- its own position may be smaller, as named arguments before it are not counted
  have hle : positionals (fs.take i) ≤ i :=
    Nat.le_trans List.count_le_length (Nat.le_of_eq hlength)
  have hi2 : i < 2 := exists_parameterAt_iff.1 ⟨parameter, hparameter⟩
  obtain ⟨own, hown⟩ := exists_parameterAt_iff.2 (Nat.lt_of_le_of_lt hle hi2)
  -- the forms around the argument are those before it and those behind it
  have hagrees : (∀ a : AttributeLiteral, forms a.arguments = fs →
      ofAttribute (named a i parameter) = ofAttribute a) ↔
      Agrees (fs.take i) (fs.drop (i + 1)) parameter := by
    rw [Agrees, hsplit, hlength]
  have hfirst (heq : positionals (fs.take i) = i) : own = parameter :=
    Option.some.inj ((heq ▸ hown : parameterAt i = some own).symm.trans hparameter)
  rw [hagrees]
  refine ⟨⟨fun h => ⟨h.settled, ?_⟩, fun ⟨hsettled, hplace⟩ => hsettled.agrees hown ?_⟩,
    fun heq hnone => (settled_of_not_mem hnone).agrees hown (Or.inl (hfirst heq))⟩
  · refine Decidable.or_iff_not_imp_left.2 fun hne k other hk => h.mem hk ?_
    -- there are two parameters, and the two forms fill different ones
    have hk2 : k < 2 := exists_parameterAt_iff.1 ⟨other, hk⟩
    have hcases : k = positionals (fs.take i) ∨ k = i := by omega
    intro hiff
    rcases hcases with rfl | rfl
    · exact hne (parameterAt_inj hk (hiff.1 hk ▸ hparameter))
    · exact hne (parameterAt_inj (hiff.2 (Option.some.inj (hparameter.symm.trans hk))) hk)
  · exact hplace.imp hfirst fun hlater => ⟨hlater _ own hown, hlater i parameter hparameter⟩

/-- The first of two positional arguments may get its name, because both parameters are named
behind them. -/
theorem namedForm_agrees_iff_repeated :
    let fs : Forms := [none, none, some "nullable", some "argumentType"]
    fs[0]? = some none ∧ parameterAt 0 = some "argumentType" ∧
      ∀ a : AttributeLiteral, forms a.arguments = fs →
        ofAttribute (named a 0 "argumentType") = ofAttribute a := by
  intro fs
  have hform : fs[0]? = some none := rfl
  have hparameter : parameterAt 0 = some "argumentType" := rfl
  have hsettled : Settled 0 [none, some "nullable", some "argumentType"] := by
    refine ⟨fun parameter h => ?_, trivial⟩
    rcases h with h | h <;> obtain rfl := Option.some.inj h <;> decide
  exact ⟨hform, hparameter, (namedForm_agrees_iff hform hparameter).1.2 ⟨hsettled, Or.inl rfl⟩⟩

/-- The arguments at the first two list positions may not always be `named` after their parameters:
a positional argument behind the first would move up, and the second does not fill the second
parameter if the first argument is a named one. -/
theorem not_forall_namedForm_eq :
    (¬ ∀ (a : AttributeLiteral) (value : Expr), a.arguments[0]? = some ⟨none, value⟩ →
      ofAttribute (named a 0 argumentTypeParameter) = ofAttribute a) ∧
    ¬ ∀ (a : AttributeLiteral) (value : Expr), a.arguments[1]? = some ⟨none, value⟩ →
      ofAttribute (named a 1 nullableParameter) = ofAttribute a := by
  constructor
  · intro h
    have hagree := h ⟨⟨markerName⟩, [⟨none, .classRef "app.Item"⟩, ⟨none, .bool true⟩]⟩ _ rfl
    exact absurd hagree (by decide +kernel)
  · intro h
    have hagree := h
      ⟨⟨markerName⟩, [⟨some nullableParameter, .bool true⟩, ⟨none, .classRef "app.Item"⟩]⟩ _ rfl
    exact absurd hagree (by decide +kernel)

end Marker

end ScreenSynthesis

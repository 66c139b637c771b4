/-!
# Cutting text at a separator

Dotted names and layout paths are cut at their last dot, layout identifiers at every underscore.
`splitLast_eq_some_iff` and `splitLast_eq_none_iff` say exactly what the last cut yields, and
`pieces_append_cons` what cutting everywhere yields on both sides of a separator.
-/

namespace ScreenSynthesis.Text

/-- The text before and after the last separator, if there is one. -/
def splitLast (sep : Char) : List Char → Option (List Char × List Char)
  | [] => none
  | c :: cs =>
    match splitLast sep cs with
    | some (before, after) => some (c :: before, after)
    | none => if c = sep then some ([], cs) else none

/-- The stretches of text between separators: one more than there are separators. -/
def pieces (sep : Char) : List Char → List (List Char)
  | [] => [[]]
  | c :: cs =>
    if c = sep then [] :: pieces sep cs
    else
      match pieces sep cs with
      | [] => [[c]]
      | p :: ps => (c :: p) :: ps

theorem splitLast_eq_none_iff {sep : Char} {cs : List Char} :
    splitLast sep cs = none ↔ sep ∉ cs := by
  induction cs with
  | nil => simp [splitLast]
  | cons c cs ih =>
    rw [splitLast]
    split
    · rename_i before after h
      have hmem : sep ∈ cs := by
        have := mt ih.2 (by simp [h])
        simpa using this
      simp [hmem]
    · rename_i h
      have hmem := ih.1 h
      by_cases hc : c = sep
      · simp [hc]
      · simp [hc, hmem, Ne.symm hc]

/-- The last cut: nothing after it holds the separator, and gluing the two parts gives the text. -/
theorem splitLast_eq_some_iff {sep : Char} {cs before after : List Char} :
    splitLast sep cs = some (before, after) ↔ cs = before ++ sep :: after ∧ sep ∉ after := by
  induction cs generalizing before after with
  | nil => simp [splitLast]
  | cons c cs ih =>
    rw [splitLast]
    split
    · -- the rest of the text is cut, and `c` stays in front
      rename_i b a h
      obtain ⟨hcs, ha⟩ := ih.1 h
      constructor
      · intro hsome
        simp only [Option.some.injEq, Prod.mk.injEq] at hsome
        obtain ⟨rfl, rfl⟩ := hsome
        exact ⟨by simp [hcs], ha⟩
      · rintro ⟨heq, hafter⟩
        cases before with
        | nil =>
          simp only [List.nil_append, List.cons.injEq] at heq
          exact absurd (by simp [← heq.2, hcs]) hafter
        | cons d before =>
          simp only [List.cons_append, List.cons.injEq] at heq
          have := ih.2 ⟨heq.2, hafter⟩
          simp only [this, Option.some.injEq, Prod.mk.injEq] at h
          simp [heq.1, h.1, h.2]
    · -- the rest has no separator, so that the cut is at `c` or nowhere
      rename_i h
      have hnone := splitLast_eq_none_iff.1 h
      constructor
      · intro hsome
        split at hsome
        · rename_i hc
          simp only [Option.some.injEq, Prod.mk.injEq] at hsome
          obtain ⟨rfl, rfl⟩ := hsome
          exact ⟨by simp [hc], hnone⟩
        · simp at hsome
      · rintro ⟨heq, _⟩
        cases before with
        | nil =>
          simp only [List.nil_append, List.cons.injEq] at heq
          simp [heq.1, heq.2]
        | cons d before =>
          simp only [List.cons_append, List.cons.injEq] at heq
          exact absurd (by simp [heq.2]) hnone

theorem pieces_ne_nil (sep : Char) (cs : List Char) : pieces sep cs ≠ [] := by
  cases cs with
  | nil => simp [pieces]
  | cons c cs =>
    rw [pieces]
    split
    · simp
    · split <;> simp

/-- The pieces on both sides of a separator. -/
theorem pieces_append_cons (sep : Char) (cs ds : List Char) :
    pieces sep (cs ++ sep :: ds) = pieces sep cs ++ pieces sep ds := by
  induction cs with
  | nil => simp [pieces]
  | cons c cs ih =>
    rw [List.cons_append, pieces, pieces, ih]
    split
    · rfl
    · cases hp : pieces sep cs with
      | nil => exact absurd hp (pieces_ne_nil sep cs)
      | cons p ps => rfl

/-- Text without a separator is one piece. -/
theorem pieces_of_not_mem {sep : Char} {cs : List Char} (h : sep ∉ cs) : pieces sep cs = [cs] := by
  induction cs with
  | nil => rfl
  | cons c cs ih =>
    obtain ⟨hc, hcs⟩ := not_or.1 (mt List.mem_cons.2 h)
    rw [pieces, if_neg (Ne.symm hc), ih hcs]

/-- No piece has the separator. -/
theorem not_mem_of_mem_pieces {sep : Char} {cs p : List Char} (h : p ∈ pieces sep cs) :
    sep ∉ p := by
  induction cs generalizing p with
  | nil =>
    obtain rfl : p = [] := List.mem_singleton.1 h
    exact List.not_mem_nil
  | cons c cs ih =>
    rw [pieces] at h
    split at h
    · rcases List.mem_cons.1 h with rfl | hrest
      · exact List.not_mem_nil
      · exact ih hrest
    · rename_i hc
      cases hp : pieces sep cs with
      | nil => exact absurd hp (pieces_ne_nil sep cs)
      | cons first rest =>
        -- the first piece has grown by a character that is no separator
        simp only [hp, List.mem_cons] at h ih
        rcases h with rfl | hrest
        · simp [Ne.symm hc, ih (Or.inl rfl)]
        · exact ih (Or.inr hrest)

/-- Text without a separator in front of another text belongs to the first piece of that. -/
theorem pieces_append_of_not_mem {sep : Char} {cs : List Char} (h : sep ∉ cs) (ds : List Char) :
    pieces sep (cs ++ ds) = (cs ++ (pieces sep ds).headD []) :: (pieces sep ds).tail := by
  induction cs with
  | nil =>
    cases hp : pieces sep ds with
    | nil => exact absurd hp (pieces_ne_nil sep ds)
    | cons p ps => simp [hp]
  | cons c cs ih =>
    obtain ⟨hc, hcs⟩ := not_or.1 (mt List.mem_cons.2 h)
    rw [List.cons_append, pieces, if_neg (Ne.symm hc), ih hcs]
    rfl

end ScreenSynthesis.Text

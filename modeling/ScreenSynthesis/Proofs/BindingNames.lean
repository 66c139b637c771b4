import ScreenSynthesis.Binding

/-!
# The names of binding types

The name of a binding type is put together from the words of a layout's identifier, which stand
between underscores. Words are capitalized one by one, so the names of two identifiers that are
joined by an underscore are joined as well, and an empty word adds nothing. No underscore gets into
a name: none is in a word, and no other character has an underscore in its upper case.

## Key results

- `Text.underscore_not_mem_upperCase`: only the underscore has an underscore in its upper case
- `Binding.stem_append_cons`: the words on both sides of an underscore
- `Binding.stem_underscores_append`, `Binding.stem_append_underscores`: empty words
- `Binding.typeStem_compose`: how names are composed
-/

namespace ScreenSynthesis

namespace Text

/-! ## Upper case -/

/-- Whether a code point lies between the upper cases of a run's first and last code points. -/
def CaseRun.Reaches (run : CaseRun) (target : Nat) : Prop :=
  run.first + run.shift ≤ target ∧ target ≤ run.last + run.shift

instance (run : CaseRun) (target : Nat) : Decidable (run.Reaches target) :=
  inferInstanceAs (Decidable (_ ∧ _))

/-- `shiftUpper` gives a code point that no run reaches for nothing but this code point itself. -/
private theorem shiftUpper_ne {runs : List CaseRun} {target n : Nat} (htarget : 0 < target)
    (hruns : ∀ run ∈ runs, ¬ run.Reaches target) (hn : n ≠ target) :
    shiftUpper runs n ≠ target := by
  induction runs with
  | nil => exact hn
  | cons run runs ih =>
    obtain ⟨hrun, hruns⟩ := List.forall_mem_cons.1 hruns
    rw [shiftUpper]
    split
    · exact hn
    · rename_i hfirst
      split
      · -- inside the run the code point is shifted, and so the target would be reached
        rename_i hlast
        intro heq
        apply hrun
        unfold CaseRun.Reaches
        omega
      · exact ih hruns

/-- `Char.ofNat` gives the underscore for its code point only; numbers that are no code points stand
for another character. -/
private theorem eq_of_ofNat_eq_underscore {n : Nat} (h : Char.ofNat n = '_') : n = '_'.toNat := by
  by_cases hvalid : n.isValidChar
  · have hchar : Char.ofNat n = Char.ofNatAux n hvalid := dif_pos hvalid
    calc
      n = (Char.ofNatAux n hvalid).toNat := UInt32.toNat_ofNatLT.symm
      _ = (Char.ofNat n).toNat := congrArg Char.toNat hchar.symm
      _ = '_'.toNat := congrArg Char.toNat h
  · have hchar : Char.ofNat n = '\x00' := dif_neg hvalid
    exact absurd (hchar.symm.trans h) (by decide)

/-- `upperCase` has an underscore for no other character than the underscore. -/
theorem underscore_not_mem_upperCase {c : Char} (h : c ≠ '_') : '_' ∉ upperCase c := by
  unfold upperCase
  split
  · rename_i codes hcodes
    intro hmem
    obtain ⟨code, hcode, heq⟩ := List.mem_map.1 hmem
    -- a character with an upper case of its own: the table has no underscore
    obtain ⟨before, after, hentry, -⟩ := List.lookup_eq_some_iff.1 hcodes
    have hnone : ∀ entry ∈ upperCaseExpansions, '_'.toNat ∉ entry.2 := by
      decide +kernel
    have hmem : (c.toNat, codes) ∈ upperCaseExpansions := by simp [hentry]
    exact hnone _ hmem (eq_of_ofNat_eq_underscore heq ▸ hcode)
  · intro hmem
    -- all others are shifted by the runs, none of which ends there
    have heq := eq_of_ofNat_eq_underscore (List.mem_singleton.1 hmem).symm
    have hruns : ∀ run ∈ upperCaseRuns, ¬ run.Reaches '_'.toNat := by
      decide +kernel
    have hn : c.toNat ≠ '_'.toNat := fun hcode => h (Char.toNat_inj.1 hcode)
    exact shiftUpper_ne (by decide) hruns hn heq

end Text

namespace Binding

/-! ## Words -/

/-- `stem` joins what the words on both sides of an underscore come to. -/
theorem stem_append_cons (cs ds : List Char) : stem (cs ++ '_' :: ds) = stem cs ++ stem ds := by
  rw [stem, Text.pieces_append_cons, List.flatMap_append, stem, stem]

/-- `stem` drops underscores in front, which add empty words. -/
theorem stem_underscores_append (n : Nat) (cs : List Char) :
    stem (List.replicate n '_' ++ cs) = stem cs := by
  induction n with
  | zero => rfl
  | succ n ih =>
    -- the first underscore stands between an empty word and the others
    have hfront : stem (List.replicate (n + 1) '_' ++ cs) =
        stem [] ++ stem (List.replicate n '_' ++ cs) := stem_append_cons [] _
    rw [hfront, ih]
    rfl

/-- `stem` drops underscores at the end, which add empty words. -/
theorem stem_append_underscores (cs : List Char) (n : Nat) :
    stem (cs ++ List.replicate n '_') = stem cs := by
  cases n with
  | zero => rw [List.replicate_zero, List.append_nil]
  | succ n =>
    have hnone : stem (List.replicate n '_' ++ []) = [] := stem_underscores_append n []
    rw [List.append_nil] at hnone
    rw [List.replicate_succ, stem_append_cons, hnone, List.append_nil]

/-- `capitalize` puts no underscore into a word. -/
private theorem underscore_not_mem_capitalize {word : List Char} (h : '_' ∉ word) :
    '_' ∉ capitalize word := by
  cases word with
  | nil => exact h
  | cons c cs =>
    obtain ⟨hc, hcs⟩ := not_or.1 (mt List.mem_cons.2 h)
    rw [capitalize, List.mem_append, not_or]
    -- only the first character is changed
    exact ⟨Text.underscore_not_mem_upperCase (Ne.symm hc), hcs⟩

/-- `stem` has no underscores, as it consists of capitalized words. -/
private theorem underscore_not_mem_stem (cs : List Char) : '_' ∉ stem cs := by
  intro hmem
  obtain ⟨word, hword, hmem⟩ := List.mem_flatMap.1 hmem
  exact underscore_not_mem_capitalize (Text.not_mem_of_mem_pieces hword) hmem

/-! ## Names -/

/-- The `typeName` of a layout without the suffix of all these names. -/
def typeStem (layoutId : String) : String :=
  let name := (typeName layoutId).toList
  String.ofList (name.take (name.length - suffix.length))

/-- A text of `n` underscores. -/
def underscores (n : Nat) : String := String.ofList (List.replicate n '_')

/-- `typeStem` consists of the capitalized words of the layout's identifier. -/
private theorem typeStem_eq (layoutId : String) :
    typeStem layoutId = String.ofList (stem layoutId.toList) := by
  simp [typeStem, typeName]

/-- `typeStem` joins the stems of two layouts for the layout whose identifier joins theirs by an
underscore. So underscores in front, at the end, and more than one in between make no difference,
and no underscore is left in a `typeName`. -/
theorem typeStem_compose :
    (∀ layoutId, typeName layoutId = typeStem layoutId ++ "Binding") ∧
    (∀ a b, typeStem (a ++ "_" ++ b) = typeStem a ++ typeStem b) ∧
    (∀ n a, typeStem (underscores n ++ a) = typeStem a ∧
      typeStem (a ++ underscores n) = typeStem a) ∧
    (∀ n a b, typeStem (a ++ underscores (n + 1) ++ b) = typeStem (a ++ "_" ++ b)) ∧
    ∀ layoutId, '_' ∉ (typeName layoutId).toList := by
  refine ⟨fun layoutId => ?_, fun a b => ?_, fun n a => ⟨?_, ?_⟩, fun n a b => ?_,
    fun layoutId hmem => ?_⟩
  · rw [typeStem_eq, typeName, String.ofList_append]
    rfl
  · have hjoined : (a ++ "_" ++ b).toList = a.toList ++ '_' :: b.toList := by simp
    rw [typeStem_eq, hjoined, stem_append_cons, String.ofList_append, typeStem_eq, typeStem_eq]
  · rw [typeStem_eq, typeStem_eq, underscores, String.toList_append, String.toList_ofList,
      stem_underscores_append]
  · rw [typeStem_eq, typeStem_eq, underscores, String.toList_append, String.toList_ofList,
      stem_append_underscores]
  · have hmore : (a ++ underscores (n + 1) ++ b).toList =
        a.toList ++ '_' :: (List.replicate n '_' ++ b.toList) := by
      simp [underscores, List.replicate_succ]
    have hone : (a ++ "_" ++ b).toList = a.toList ++ '_' :: b.toList := by simp
    rw [typeStem_eq, typeStem_eq, hmore, hone, stem_append_cons, stem_append_cons,
      stem_underscores_append]
  · rw [typeName, String.toList_ofList] at hmem
    rcases List.mem_append.1 hmem with hstem | hsuffix
    · exact underscore_not_mem_stem _ hstem
    · exact absurd hsuffix (by decide)

end Binding

end ScreenSynthesis

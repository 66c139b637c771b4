import ScreenSynthesis.Proofs.SymbolMerge
import ScreenSynthesis.Session

/-!
# The symbols of a session

The symbols of a session are what its candidates ask for: `wanted` lists it for each candidate, and
phase by phase the table is made from these lists alone.
-/

namespace ScreenSynthesis

namespace Session

/-! ## Signatures that candidates ask for -/

/-- The signatures that a candidate asks for: none if it failed its checks. -/
def wanted (s : Session) (c : Candidate) : List Signature :=
  match s.validation? c.id with
  | none => []
  | some v =>
    if v.fatal then []
    else
      match s.unit.declaration? c.decl with
      | none => []
      | some d => Stubs.wanted c d v ++ Binding.wanted s.config s.knows c d v

/-- `wanted` has something only for a candidate that passed its checks and has a declaration: its
stubs and its binding. -/
theorem mem_wanted_iff {s : Session} {c : Candidate} {signature : Signature} :
    signature ∈ s.wanted c ↔
      ∃ v d, s.validation? c.id = some v ∧ v.fatal = false ∧
        s.unit.declaration? c.decl = some d ∧
        (signature ∈ Stubs.wanted c d v ∨
          signature ∈ Binding.wanted s.config s.knows c d v) := by
  unfold wanted
  cases s.validation? c.id with
  | none => simp
  | some v =>
    cases hfatal : v.fatal with
    | true => simp [hfatal]
    | false =>
      cases s.unit.declaration? c.decl with
      | none => simp
      | some d => simp [hfatal]

/-- `wanted` lists signatures of the candidate's declaration, which the unit has. -/
theorem owner_of_mem_wanted {s : Session} {c : Candidate} {signature : Signature}
    (h : signature ∈ s.wanted c) :
    signature.owner = c.decl ∧ (s.unit.declaration? signature.owner).isSome := by
  obtain ⟨v, d, -, -, hd, hmem⟩ := mem_wanted_iff.1 h
  have howner : signature.owner = c.decl := by
    rcases hmem with hmem | hmem
    · exact Stubs.owner_of_mem_wanted hmem
    · exact Binding.owner_of_mem_wanted hmem
  rw [howner, hd]
  exact ⟨rfl, rfl⟩

/-- `wanted` are the stubs and the binding of a candidate that was checked, or nothing. -/
theorem wanted_eq {s : Session} {c : Candidate} {v : Validation} {d : ClassDecl}
    (hv : s.validation? c.id = some v) (hd : s.unit.declaration? c.decl = some d) :
    s.wanted c =
      if v.fatal then [] else Stubs.wanted c d v ++ Binding.wanted s.config s.knows c d v := by
  simp only [wanted, hv, hd]

/-- `wanted` lists no two signatures of one place. -/
theorem pairwise_wanted (s : Session) (c : Candidate) :
    (s.wanted c).Pairwise fun a b => a.place ≠ b.place := by
  unfold wanted
  cases s.validation? c.id with
  | none => exact .nil
  | some v =>
    simp only
    split
    · exact .nil
    · cases s.unit.declaration? c.decl with
      | none => exact .nil
      | some d =>
        -- the names come from a list in which no name stands twice in one scope
        have hnames := (Stubs.names_wanted_sublist c d v).append
          (Binding.names_wanted_sublist s.config s.knows c d v)
        rw [← List.map_append] at hnames
        have hpairwise := List.pairwise_map.1 (hnames.nodup (by decide))
        refine hpairwise.imp fun hne hplace => hne ?_
        exact Prod.ext (congrArg Place.scope hplace) (congrArg Place.name hplace)

/-- `addSymbols` offers the table what the candidate has `wanted`. -/
private theorem addSymbols_eq_insertAll (s : Session) (t : SymbolTable) (c : Candidate) :
    s.addSymbols t c = t.insertAll (s.wanted c) := by
  unfold addSymbols wanted
  cases s.validation? c.id with
  | none => rfl
  | some v =>
    by_cases hfatal : v.fatal = true
    · simp [hfatal, SymbolTable.insertAll]
    · cases s.unit.declaration? c.decl with
      | none => simp [SymbolTable.insertAll]
      | some d =>
        -- the stubs come first and then the binding, in two offers
        simp only [if_neg hfatal, Stubs.add_eq_insertAll, Binding.add_eq_insertAll,
          SymbolTable.insertAll_append]

/-- `addAllSymbols` offers the table what the candidates have `wanted`. -/
theorem addAllSymbols_eq_insertAll (s : Session) (t : SymbolTable) (cs : List Candidate) :
    s.addAllSymbols t cs = t.insertAll (cs.flatMap s.wanted) := by
  induction cs generalizing t with
  | nil => rfl
  | cons c rest ih =>
    simp only [addAllSymbols, addSymbols_eq_insertAll, ih, List.flatMap_cons,
      SymbolTable.insertAll_append]

end Session

end ScreenSynthesis

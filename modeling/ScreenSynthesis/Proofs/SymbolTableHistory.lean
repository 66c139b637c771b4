import ScreenSynthesis.Proofs.SymbolMerge

/-!
# Histories of symbol tables

A table may go through any operations in any order: stubs are inserted, candidates get their stubs
and bindings, units fill it with bodies. This file says what holds of every table that comes out of
such a history, whatever the signatures, candidates, declarations, validations and units were.

## Key results

- `coherent_apply`, `coherent_run`: every table of a history is coherent
- `grows_apply`, `grows_run`: a history only ever adds symbols and missing bodies
- `addStubs_idle_of_grows`, `addBinding_idle_of_grows`: what was added once is never added again
- `run_coherent_grows_idle`: what holds of every table of every history
-/

namespace ScreenSynthesis.SymbolTable

/-- What can be done to a table. -/
inductive Operation where
  | insert (s : Signature)
  | addStubs (c : Candidate) (d : ClassDecl) (v : Validation)
  | addBinding (config : ScreenConfig) (knows : QualifiedName → Bool) (c : Candidate)
      (d : ClassDecl) (v : Validation)
  | fill (u : CompilationUnit)

/-- The positions of the symbols that an operation adds, and the table after it. -/
def apply (t : SymbolTable) : Operation → List SymbolId × SymbolTable
  | .insert s => ((t.insert s).1.toList, (t.insert s).2)
  | .addStubs c d v => Stubs.add t c d v
  | .addBinding config knows c d v => Binding.add config knows t c d v
  | .fill u => ([], (Bodies.fill u t).2)

/-- The table after some operations. -/
def run (t : SymbolTable) (ops : List Operation) : SymbolTable :=
  ops.foldl (fun t op => (t.apply op).2) t

/-! ## Steps and runs -/

/-- `apply` keeps a table `Coherent`. -/
theorem coherent_apply {t : SymbolTable} (h : t.Coherent) (op : Operation) :
    (t.apply op).2.Coherent := by
  -- two of the operations offer stubs to the table, which inserts them one by one
  cases op with
  | insert s => exact coherent_insert h s
  | addStubs c d v =>
    rw [apply, Stubs.add_eq_insertAll]
    exact coherent_insertAll h _
  | addBinding config knows c d v =>
    rw [apply, Binding.add_eq_insertAll]
    exact coherent_insertAll h _
  | fill u => exact coherent_fill h u

/-- `apply` lets a table grow (`Grows`). -/
theorem grows_apply (t : SymbolTable) (op : Operation) : t.Grows (t.apply op).2 := by
  cases op with
  | insert s => exact grows_insert t s
  | addStubs c d v =>
    rw [apply, Stubs.add_eq_insertAll]
    exact grows_insertAll t _
  | addBinding config knows c d v =>
    rw [apply, Binding.add_eq_insertAll]
    exact grows_insertAll t _
  | fill u => exact grows_fill u t

/-- `run` keeps a table `Coherent`. -/
theorem coherent_run {t : SymbolTable} (h : t.Coherent) (ops : List Operation) :
    (t.run ops).Coherent := by
  induction ops generalizing t with
  | nil => exact h
  | cons op rest ih => exact ih (coherent_apply h op)

/-- `run` lets a table grow (`Grows`). -/
theorem grows_run (t : SymbolTable) (ops : List Operation) : t.Grows (t.run ops) := by
  induction ops generalizing t with
  | nil => exact .refl t
  | cons op rest ih => exact (grows_apply t op).trans (ih _)

/-! ## Adding again -/

/-- `insertAll` adds nothing to any table that has grown since the same stubs were offered. -/
private theorem insertAll_idle_of_grows {t t' : SymbolTable} {ss : List Signature}
    (h : (t.insertAll ss).2.Grows t') : t'.insertAll ss = ([], t') :=
  insertAll_taken fun _ hs => h.isSome_idAt? (isSome_idAt?_insertAll hs)

/-- `Stubs.add` never adds what it has added once for a candidate. -/
theorem addStubs_idle_of_grows {t t' : SymbolTable} {c : Candidate} {d : ClassDecl}
    {v : Validation} (h : (Stubs.add t c d v).2.Grows t') : Stubs.add t' c d v = ([], t') := by
  rw [Stubs.add_eq_insertAll] at h ⊢
  exact insertAll_idle_of_grows h

/-- `Binding.add` never adds what it has added once for a candidate. -/
theorem addBinding_idle_of_grows {t t' : SymbolTable} {config : ScreenConfig}
    {knows : QualifiedName → Bool} {c : Candidate} {d : ClassDecl} {v : Validation}
    (h : (Binding.add config knows t c d v).2.Grows t') :
    Binding.add config knows t' c d v = ([], t') := by
  rw [Binding.add_eq_insertAll] at h ⊢
  exact insertAll_idle_of_grows h

/-! ## Names of the user -/

/-- `Stubs.add` gives back symbols of the declaration, with names that the user has not given
there. -/
private theorem not_declares_of_mem_addStubs {t : SymbolTable} {c : Candidate} {d : ClassDecl}
    {v : Validation} {id : SymbolId} (h : id ∈ (Stubs.add t c d v).1) :
    ∃ s, (Stubs.add t c d v).2.get? id = some s ∧ s.signature.owner = c.decl ∧
      d.declares s.signature.name s.signature.scope = false := by
  rw [Stubs.add_eq_insertAll] at h ⊢
  obtain ⟨s, hs, symbol, hget, hsymbol⟩ := get?_of_mem_insertAll h
  rw [← hsymbol] at hs
  exact ⟨symbol, hget, Stubs.owner_of_mem_wanted hs, Stubs.not_declares_of_mem_wanted hs⟩

/-- `Binding.add` gives back a symbol of the declaration, with a name that the user has not given
there. -/
private theorem not_declares_of_mem_addBinding {t : SymbolTable} {config : ScreenConfig}
    {knows : QualifiedName → Bool} {c : Candidate} {d : ClassDecl} {v : Validation} {id : SymbolId}
    (h : id ∈ (Binding.add config knows t c d v).1) :
    ∃ s, (Binding.add config knows t c d v).2.get? id = some s ∧ s.signature.owner = c.decl ∧
      d.declares s.signature.name s.signature.scope = false := by
  rw [Binding.add_eq_insertAll] at h ⊢
  obtain ⟨s, hs, symbol, hget, hsymbol⟩ := get?_of_mem_insertAll h
  rw [← hsymbol] at hs
  exact ⟨symbol, hget, Binding.owner_of_mem_wanted hs, Binding.not_declares_of_mem_wanted hs⟩

/-! ## Any history -/

/-- `insert` leaves a `Coherent` table as it is exactly when the stub's place has a symbol. -/
private theorem insert_eq_self_iff {t : SymbolTable} (h : t.Coherent) (s : Signature) :
    (t.insert s).2 = t ↔ ∃ s' ∈ t.symbols, s'.place = s.place := by
  -- the stub is refused then, and a table that takes one has changed
  rw [← insert_eq_none_iff h]
  cases hs : t.idAt? s.place with
  | some id => simp [insert_taken (t := t) (s := s) (by simp [hs])]
  | none =>
    rw [insert_free hs]
    constructor
    · intro heq
      -- the table has become longer
      have hlength := congrArg (fun t : SymbolTable => t.symbols.length) heq
      simp at hlength
    · intro hnone
      exact nomatch hnone

/-- Of every table that `run` makes of the empty one: the symbols carry their positions and have
distinct places, at which `find?` has them (1); `insert` refuses a stub, and then changes nothing,
exactly when its place has a symbol (2); later operations keep all symbols, but for bodies that are
given once (3); what is added for a declaration has a name that the user has not given in its scope
(4); and what was added once is never added again (5). -/
theorem run_coherent_grows_idle (ops : List Operation) :
    let t := ({} : SymbolTable).run ops
    -- (1)
    (∀ (i : Nat) (s : Symbol), t.symbols[i]? = some s → s.id = ⟨i⟩) ∧
    (t.symbols.map Symbol.place).Nodup ∧
    (∀ owner scope name s, t.find? owner scope name = some s ↔
      s ∈ t.symbols ∧ s.place = ⟨owner, scope, name⟩) ∧
    -- (2)
    (∀ s, ((t.insert s).1 = none ↔ ∃ s' ∈ t.symbols, s'.place = s.place) ∧
      ((t.insert s).2 = t ↔ ∃ s' ∈ t.symbols, s'.place = s.place)) ∧
    -- (3)
    (∀ later, t.Grows (t.run later)) ∧
    -- (4)
    (∀ c d v, ∀ id ∈ (Stubs.add t c d v).1,
      ∃ s, (Stubs.add t c d v).2.get? id = some s ∧ s.signature.owner = c.decl ∧
        d.declares s.signature.name s.signature.scope = false) ∧
    (∀ config knows c d v, ∀ id ∈ (Binding.add config knows t c d v).1,
      ∃ s, (Binding.add config knows t c d v).2.get? id = some s ∧ s.signature.owner = c.decl ∧
        d.declares s.signature.name s.signature.scope = false) ∧
    -- (5)
    (∀ c d v later, let t' := (t.apply (.addStubs c d v)).2.run later
      Stubs.add t' c d v = ([], t')) ∧
    (∀ config knows c d v later, let t' := (t.apply (.addBinding config knows c d v)).2.run later
      Binding.add config knows t' c d v = ([], t')) := by
  intro t
  have h : t.Coherent := coherent_run coherent_empty ops
  refine ⟨h.id_eq, nodup_places h, fun _ _ _ _ => find?_eq_some_iff h,
    fun s => ⟨insert_eq_none_iff h s, insert_eq_self_iff h s⟩, grows_run t,
    fun _ _ _ _ => not_declares_of_mem_addStubs, fun _ _ _ _ _ _ => not_declares_of_mem_addBinding,
    fun c d v later => ?_, fun config knows c d v later => ?_⟩
  · exact addStubs_idle_of_grows (grows_run (Stubs.add t c d v).2 later)
  · exact addBinding_idle_of_grows (grows_run (Binding.add config knows t c d v).2 later)

end ScreenSynthesis.SymbolTable

import ScreenSynthesis.Proofs.SymbolTableCoherence

/-!
# What filling does to a table

Tables are filled here whatever is in them: stubs and filled symbols in any mixture, whose
declarations may be those of another unit or of none. Filling can be done by visiting the symbols
one after the other, in the very table that changes with every visit. It can be repeated with other
units as well: a symbol gets its body from the first of them that has its declaration.

## Key results

- `fill_eq_foldl_visit`: filling visits the positions of a table in turn
- `symbols_fill`: what a symbol becomes depends on the symbol and its declaration alone
- `symbols_fillAll`: after several units a body comes from the first unit that can give it
- `fill_gives_bodies_to_stubs`: what filling changes, what it leaves, and what a second filling does
-/

namespace ScreenSynthesis

namespace SymbolTable

/-- The positions of all symbols. -/
def ids (t : SymbolTable) : List SymbolId := (List.range t.size).map SymbolId.mk

/-- The table with a body for the symbol at a position. -/
def setBody (t : SymbolTable) (id : SymbolId) (body : Body) : SymbolTable :=
  { t with symbols := t.symbols.modify id.index fun s => { s with body := some body } }

end SymbolTable

namespace Bodies

/-! ## One symbol after the other -/

/-- Visits a position: a stub there gets its body if the unit has its declaration, and is
counted. -/
def visit (u : CompilationUnit) (state : Nat × SymbolTable) (id : SymbolId) : Nat × SymbolTable :=
  match (state.2.get? id).bind (newBody? u) with
  | some body => (state.1 + 1, state.2.setBody id body)
  | none => state

/-- `visit` turns the first symbol that was not visited into the last one that was. -/
private theorem visit_append_cons (u : CompilationUnit) (n : Nat) (visited rest : List Symbol)
    (s : Symbol) (places : List (Place × SymbolId)) :
    visit u (n, { symbols := visited ++ s :: rest, places }) ⟨visited.length⟩ =
      (if (newBody? u s).isSome then n + 1 else n,
        { symbols := visited ++ [fillSymbol u s] ++ rest, places }) := by
  have hget : ({ symbols := visited ++ s :: rest, places } : SymbolTable).get? ⟨visited.length⟩ =
      some s := by
    simp [SymbolTable.get?]
  rw [visit, hget, Option.bind_some, fillSymbol]
  -- a symbol that is not filled is moved over as it is
  cases newBody? u s with
  | none => simp
  | some body => simp [SymbolTable.setBody, List.modify_eq_take_cons_drop]

/-- Folding `visit` over the positions from some place on fills the symbols that stand there. -/
private theorem foldl_visit (u : CompilationUnit) (n : Nat) (visited rest : List Symbol)
    (places : List (Place × SymbolId)) :
    ((List.range' visited.length rest.length).map SymbolId.mk).foldl (visit u)
        (n, { symbols := visited ++ rest, places }) =
      (n + rest.countP fun s => (newBody? u s).isSome,
        { symbols := visited ++ rest.map (fillSymbol u), places }) := by
  -- on the symbols ahead: those behind are filled by then, and each visit moves one of them over
  induction rest generalizing n visited with
  | nil => simp
  | cons s rest ih =>
    rw [List.length_cons, List.range'_succ, List.map_cons, List.foldl_cons, visit_append_cons]
    have hlength : visited.length + 1 = (visited ++ [fillSymbol u s]).length := by simp
    rw [hlength, ih, List.countP_cons, List.map_cons, List.append_assoc, List.singleton_append]
    congr 1
    split <;> omega

/-- `fill` is folding `visit` over all positions in turn. -/
theorem fill_eq_foldl_visit (u : CompilationUnit) (t : SymbolTable) :
    fill u t = t.ids.foldl (visit u) (0, t) := by
  have hvisits := foldl_visit u 0 [] t.symbols t.places
  rw [Nat.zero_add] at hvisits
  rw [SymbolTable.ids, List.range_eq_range']
  exact hvisits.symm

/-! ## What becomes of the symbols -/

/-- `fill` keeps all symbols, in their order, and at most gives them the bodies that the unit has
for them. -/
theorem symbols_fill (u : CompilationUnit) (t : SymbolTable) :
    (fill u t).2.symbols = t.symbols.map fun s => { s with body := s.body.or (bodyIn? u s) } :=
  List.map_congr_left fun s _ => fillSymbol_eq u s

/-- The table after some units have filled it one after the other. -/
def fillAll (us : List CompilationUnit) (t : SymbolTable) : SymbolTable :=
  us.foldl (fun t u => (fill u t).2) t

/-- `fillAll` keeps the body of a symbol, or else takes it from the first unit that has one for
it. -/
theorem symbols_fillAll (us : List CompilationUnit) (t : SymbolTable) :
    (fillAll us t).symbols =
      t.symbols.map fun s => { s with body := s.body.or (us.findSome? fun u => bodyIn? u s) } := by
  induction us generalizing t with
  | nil => simp [fillAll]
  | cons u us ih =>
    have hrest : fillAll (u :: us) t = fillAll us (fill u t).2 := rfl
    rw [hrest, ih, symbols_fill, List.map_map]
    refine List.map_congr_left fun s _ => ?_
    -- what the later units have for a symbol does not depend on the body that the first one gave it
    simp only [Function.comp_apply, bodyIn?, Option.or_assoc, List.findSome?_cons]
    cases (u.declaration? s.signature.owner).map (bodyFor s.signature) <;> rfl

/-- `fill` (1) visits the symbols one after the other, and gives bodies to the stubs whose
declarations the unit has, which it counts; it leaves all other symbols, and of every symbol all but
the body, and the index. (2) What it makes of a symbol depends on the symbol and on the declaration
that the unit has for it. (3) A second time there is nothing to be filled. (4) What one unit leaves,
another can fill: a symbol is a stub in the end exactly if it was one and neither unit has its
declaration, and the body is that of the first unit that has it. -/
theorem fill_gives_bodies_to_stubs (u : CompilationUnit) (t : SymbolTable) :
    -- (1)
    (fill u t = t.ids.foldl (visit u) (0, t) ∧
      (fill u t).1 = t.symbols.countP (fun s =>
        s.body = none ∧ (u.declaration? s.signature.owner).isSome) ∧
      (fill u t).2.symbols = t.symbols.map (fun s => { s with body := s.body.or (bodyIn? u s) }) ∧
      (fill u t).2.places = t.places) ∧
    -- (2)
    (∀ (u' : CompilationUnit) (t' : SymbolTable) (i j : Nat) (s : Symbol),
      t.symbols[i]? = some s → t'.symbols[j]? = some s →
      u'.declaration? s.signature.owner = u.declaration? s.signature.owner →
      (fill u' t').2.symbols[j]? = (fill u t).2.symbols[i]?) ∧
    -- (3)
    fill u (fill u t).2 = (0, (fill u t).2) ∧
    -- (4)
    ∀ (v : CompilationUnit) (i : Nat) (s : Symbol), t.symbols[i]? = some s →
      ∃ s', (fill v (fill u t).2).2.symbols[i]? = some s' ∧
        (s'.body = none ↔ s.body = none ∧ u.declaration? s.signature.owner = none ∧
          v.declaration? s.signature.owner = none) ∧
        (s.body = none → ∀ d, u.declaration? s.signature.owner = some d →
          s'.body = some (bodyFor s.signature d)) ∧
        (s.body = none → u.declaration? s.signature.owner = none →
          ∀ d, v.declaration? s.signature.owner = some d →
          s'.body = some (bodyFor s.signature d)) := by
  refine ⟨⟨fill_eq_foldl_visit u t, ?_, symbols_fill u t, rfl⟩, ?_, fill_fill u t, ?_⟩
  · exact List.countP_congr fun s _ => by simpa using isSome_newBody?_iff
  · intro u' t' i j s hi hj hd
    rw [symbols_fill, symbols_fill, List.getElem?_map, List.getElem?_map, hi, hj]
    simp only [Option.map_some, bodyIn?, hd]
  · -- both fillings at once: the first unit comes first
    intro v i s hs
    have htwice : (fill v (fill u t).2).2 = fillAll [u, v] t := rfl
    rw [htwice, symbols_fillAll, List.getElem?_map, hs]
    refine ⟨_, rfl, ?_, fun hstub d hd => ?_, fun hstub hnone d hd => ?_⟩
    · simp [bodyIn?]
    · simp [bodyIn?, hstub, hd]
    · simp [bodyIn?, hstub, hnone, hd]

/-- The first unit fills the key of its only class. The second one has another class in that place,
which comes too late, but also one for the key that the first has left. Nobody has a class for the
last key. -/
theorem fill_gives_bodies_to_stubs_two_units :
    let home : ClassDecl := { package := "app", name := "Home" }
    let about : ClassDecl := { package := "app", name := "About" }
    let u : CompilationUnit := ⟨{ classes := [home] }, by decide⟩
    let v : CompilationUnit := ⟨{ classes := [about, home] }, by decide⟩
    let key (decl : DeclId) : Signature :=
      { owner := decl, ownerName := home.qualifiedName, scope := .container, name := keyName,
        kind := .constant }
    let t : SymbolTable := { symbols := [⟨⟨0⟩, key ⟨0⟩, none⟩, ⟨⟨1⟩, key ⟨1⟩, none⟩,
      ⟨⟨2⟩, key ⟨0⟩, some .empty⟩, ⟨⟨3⟩, key ⟨2⟩, none⟩] }
    let t' := (fill v (fill u t).2).2
    (fill u t).1 = 1 ∧
      (∃ s, t'.symbols[0]? = some s ∧ s.body = some (.stringLiteral "app.Home")) ∧
      (∃ s, t'.symbols[1]? = some s ∧ s.body = some (.stringLiteral "app.Home")) ∧
      ∃ s, t'.symbols[3]? = some s ∧ s.body = none := by
  intro home about u v key t t'
  obtain ⟨⟨-, hcount, -⟩, -, -, htwice⟩ := fill_gives_bodies_to_stubs u t
  obtain ⟨s₀, hs₀, -, hfirst, -⟩ := htwice v 0 _ rfl
  obtain ⟨s₁, hs₁, -, -, hsecond⟩ := htwice v 1 _ rfl
  obtain ⟨s₃, hs₃, hstub, -⟩ := htwice v 3 _ rfl
  exact ⟨hcount, ⟨s₀, hs₀, hfirst rfl home rfl⟩, ⟨s₁, hs₁, hsecond rfl rfl home rfl⟩,
    s₃, hs₃, hstub.2 ⟨rfl, rfl, rfl⟩⟩

end Bodies

end ScreenSynthesis

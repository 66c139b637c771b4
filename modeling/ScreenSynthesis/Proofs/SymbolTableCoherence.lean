import ScreenSynthesis.Binding
import ScreenSynthesis.Bodies

/-!
# The symbols and the index of a table agree

A symbol table keeps its symbols in a list and their places in an index beside it. `Coherent` says
that both tell the same story; all operations on tables keep it. `Grows` says what an operation may
change: symbols keep their positions and signatures, and a body once given stays.

## Key results

- `Bodies.fillSymbol_eq`: a symbol keeps its body, or gets that of its declaration
- `find?_eq_some_iff`: the index finds exactly the symbols of the list
- `nodup_places`: no two symbols share their place
- `insert_eq_none_iff`: a stub is refused exactly when its place is taken
- `signatures_insertAll`: stubs whose places are free all become symbols
- `coherent_insertAll`, `coherent_fill`: the operations keep the table coherent
- `grows_insertAll`, `grows_fill`: the operations change nothing but missing bodies
-/

namespace ScreenSynthesis

/-- What a symbol may become by operations: at most it gets a body that it lacks. -/
structure Symbol.Becomes (s s' : Symbol) : Prop where
  id_eq : s'.id = s.id
  signature_eq : s'.signature = s.signature
  body_eq : s.body = none ∨ s'.body = s.body

/-- `Becomes` holds without any operation. -/
theorem Symbol.Becomes.refl (s : Symbol) : s.Becomes s := ⟨rfl, rfl, Or.inr rfl⟩

/-- `Becomes` holds after some operations and then some more. -/
theorem Symbol.Becomes.trans {s s' s'' : Symbol} (h : s.Becomes s') (h' : s'.Becomes s'') :
    s.Becomes s'' := by
  refine ⟨h'.id_eq.trans h.id_eq, h'.signature_eq.trans h.signature_eq, ?_⟩
  rcases h.body_eq with hnone | hsame
  · exact Or.inl hnone
  · rw [← hsame]
    exact h'.body_eq

namespace Bodies

/-! ## Filling -/

/-- The body that a unit has for a symbol, whether or not the symbol needs one. -/
def bodyIn? (u : CompilationUnit) (s : Symbol) : Option Body :=
  (u.declaration? s.signature.owner).map (bodyFor s.signature)

/-- `fillSymbol` keeps the body of a symbol, or else gives it `bodyIn?` the unit. -/
theorem fillSymbol_eq (u : CompilationUnit) (s : Symbol) :
    fillSymbol u s = { s with body := s.body.or (bodyIn? u s) } := by
  obtain ⟨id, signature, body⟩ := s
  cases body with
  | some body => rfl
  | none =>
    have hnew : newBody? u ⟨id, signature, none⟩ = bodyIn? u ⟨id, signature, none⟩ := rfl
    rw [fillSymbol, hnew, Option.none_or]
    cases bodyIn? u ⟨id, signature, none⟩ <;> rfl

/-- `newBody?` finds something exactly for a stub whose declaration the unit has. -/
theorem isSome_newBody?_iff {u : CompilationUnit} {s : Symbol} :
    (newBody? u s).isSome ↔ s.body = none ∧ (u.declaration? s.signature.owner).isSome := by
  cases hbody : s.body with
  | some body => simp [newBody?, Symbol.isFilled, hbody]
  | none => simp [newBody?, Symbol.isFilled, hbody]

/-- `fillSymbol` gives a symbol at most a body that it lacks. -/
theorem becomes_fillSymbol (u : CompilationUnit) (s : Symbol) : s.Becomes (fillSymbol u s) := by
  rw [fillSymbol_eq]
  refine ⟨rfl, rfl, ?_⟩
  cases hbody : s.body with
  | none => exact Or.inl rfl
  | some body => exact Or.inr rfl

/-- `newBody?` finds nothing for a symbol that was filled. -/
private theorem newBody?_fillSymbol (u : CompilationUnit) (s : Symbol) :
    newBody? u (fillSymbol u s) = none := by
  cases h : newBody? u s with
  | none => rw [fillSymbol, h, h]
  | some body =>
    rw [fillSymbol, h]
    rfl

/-- `fillSymbol` gives a stub the body that its declaration gives it. -/
theorem fillSymbol_of_stub {u : CompilationUnit} {s : Symbol} {d : ClassDecl}
    (hstub : s.body = none) (hd : u.declaration? s.signature.owner = some d) :
    fillSymbol u s = { s with body := some (bodyFor s.signature d) } := by
  rw [fillSymbol_eq, hstub, Option.none_or, bodyIn?, hd, Option.map_some]

/-- `fillSymbol` leaves a symbol that has a body as it is. -/
theorem fillSymbol_of_filled {u : CompilationUnit} {s : Symbol} {body : Body}
    (h : s.body = some body) : fillSymbol u s = s := by
  rw [fillSymbol_eq, h, Option.some_or, ← h]

/-- `fill` adds no symbols. -/
theorem size_fill (u : CompilationUnit) (t : SymbolTable) :
    (fill u t).2.size = t.size := by
  simp only [fill, SymbolTable.size, List.length_map]

/-- `fill` counts all symbols if they are stubs whose declarations the unit has. -/
theorem count_fill {u : CompilationUnit} {t : SymbolTable}
    (h : ∀ s ∈ t.symbols, s.body = none ∧ (u.declaration? s.signature.owner).isSome) :
    (fill u t).1 = t.size := by
  exact List.countP_eq_length.2 fun s hs => isSome_newBody?_iff.2 (h s hs)

/-- `fill` changes nothing where `newBody?` finds nothing. -/
theorem fill_idle {u : CompilationUnit} {t : SymbolTable}
    (h : ∀ s ∈ t.symbols, newBody? u s = none) : fill u t = (0, t) := by
  have hcount : t.symbols.countP (fun s => (newBody? u s).isSome) = 0 :=
    List.countP_eq_zero.2 fun s hs => by simp [h s hs]
  -- a symbol without a new body stays as it is
  have hmap : t.symbols.map (fillSymbol u) = t.symbols := by
    rw [List.map_congr_left (g := id) fun s hs => by rw [fillSymbol, h s hs]; rfl, List.map_id]
  simp only [fill, hcount, hmap]

/-- `fill` has nothing left to be filled a second time. -/
theorem fill_fill (u : CompilationUnit) (t : SymbolTable) :
    fill u (fill u t).2 = (0, (fill u t).2) := by
  refine fill_idle fun s hs => ?_
  obtain ⟨stub, -, rfl⟩ := List.mem_map.1 hs
  exact newBody?_fillSymbol u stub

end Bodies

namespace SymbolTable

/-! ## Adding stubs -/

/-- `insert` refuses a stub whose place is taken. -/
theorem insert_taken {t : SymbolTable} {s : Signature} (h : (t.idAt? s.place).isSome) :
    t.insert s = (none, t) := by
  rw [insert, if_pos h]

/-- `insert` makes a stub whose place is free the last symbol. -/
theorem insert_free {t : SymbolTable} {s : Signature} (h : t.idAt? s.place = none) :
    t.insert s =
      (some ⟨t.size⟩,
        { symbols := t.symbols ++ [{ id := ⟨t.size⟩, signature := s }]
          places := (s.place, ⟨t.size⟩) :: t.places }) := by
  rw [insert, if_neg (by simp [h])]

/-- `idAt?` finds an entry in front at its place, and all others as before. -/
private theorem idAt?_cons (t : SymbolTable) (symbols : List Symbol) (p q : Place) (id : SymbolId) :
    ({ symbols, places := (q, id) :: t.places } : SymbolTable).idAt? p =
      if p = q then some id else t.idAt? p := by
  simp only [idAt?, List.lookup_cons]
  by_cases hpq : p = q
  · simp [hpq]
  · simp [hpq, beq_false_of_ne hpq]

/-- `insert` leaves the place of the stub taken in any case. -/
private theorem isSome_idAt?_insert (t : SymbolTable) (s : Signature) :
    ((t.insert s).2.idAt? s.place).isSome := by
  cases h : t.idAt? s.place with
  | some id => simp [insert_taken (t := t) (s := s) (by simp [h]), h]
  | none => simp [insert_free h, idAt?_cons]

/-- `insert` leaves a place that is taken to its symbol. -/
private theorem idAt?_insert_of_eq_some {t : SymbolTable} {p : Place} {id : SymbolId}
    (s : Signature) (h : t.idAt? p = some id) : (t.insert s).2.idAt? p = some id := by
  cases hs : t.idAt? s.place with
  | some id' => rw [insert_taken (by simp [hs]), h]
  | none =>
    have hne : p ≠ s.place := fun heq => by rw [heq, hs] at h; exact nomatch h
    rw [insert_free hs, idAt?_cons, if_neg hne, h]

/-- `insert` leaves all other places as they are. -/
private theorem idAt?_insert_of_ne {t : SymbolTable} {s : Signature} {p : Place} (h : p ≠ s.place) :
    (t.insert s).2.idAt? p = t.idAt? p := by
  cases hs : t.idAt? s.place with
  | some id => rw [insert_taken (by simp [hs])]
  | none => rw [insert_free hs, idAt?_cons, if_neg h]

/-- `insertAll` inserts one stub after the other. -/
theorem insertAll_cons (t : SymbolTable) (s : Signature) (rest : List Signature) :
    t.insertAll (s :: rest) =
      ((t.insert s).1.toList ++ ((t.insert s).2.insertAll rest).1,
        ((t.insert s).2.insertAll rest).2) := rfl

/-- `insertAll` may be done in two goes. -/
theorem insertAll_append (t : SymbolTable) (ss ss' : List Signature) :
    t.insertAll (ss ++ ss') =
      ((t.insertAll ss).1 ++ ((t.insertAll ss).2.insertAll ss').1,
        ((t.insertAll ss).2.insertAll ss').2) := by
  induction ss generalizing t with
  | nil => rfl
  | cons s rest ih => simp only [List.cons_append, insertAll_cons, ih, List.append_assoc]

/-- `insertAll` adds nothing where all places are taken. -/
theorem insertAll_taken {t : SymbolTable} {ss : List Signature}
    (h : ∀ s ∈ ss, (t.idAt? s.place).isSome) : t.insertAll ss = ([], t) := by
  induction ss with
  | nil => rfl
  | cons s rest ih =>
    rw [insertAll_cons, insert_taken (h s List.mem_cons_self)]
    rw [ih fun s' hs' => h s' (List.mem_cons_of_mem s hs')]
    rfl

/-- `insertAll` leaves a place that is taken to its symbol. -/
private theorem idAt?_insertAll_of_eq_some {t : SymbolTable} {p : Place} {id : SymbolId}
    (ss : List Signature) (h : t.idAt? p = some id) : (t.insertAll ss).2.idAt? p = some id := by
  induction ss generalizing t with
  | nil => exact h
  | cons s rest ih => exact ih (idAt?_insert_of_eq_some s h)

/-- `insertAll` leaves the places of all stubs taken. -/
theorem isSome_idAt?_insertAll {t : SymbolTable} {ss : List Signature} {s : Signature}
    (hs : s ∈ ss) : ((t.insertAll ss).2.idAt? s.place).isSome := by
  induction ss generalizing t with
  | nil => exact nomatch hs
  | cons s' rest ih =>
    rw [insertAll_cons]
    rcases List.mem_cons.1 hs with rfl | hs
    · obtain ⟨id, hid⟩ := Option.isSome_iff_exists.1 (isSome_idAt?_insert t s)
      exact Option.isSome_iff_exists.2 ⟨id, idAt?_insertAll_of_eq_some rest hid⟩
    · exact ih hs

/-- `insertAll` adds nothing a second time. -/
theorem insertAll_insertAll (t : SymbolTable) (ss : List Signature) :
    (t.insertAll ss).2.insertAll ss = ([], (t.insertAll ss).2) :=
  insertAll_taken fun _ hs => isSome_idAt?_insertAll hs

/-- `insertAll` lists the position of every new symbol. -/
theorem size_insertAll (t : SymbolTable) (ss : List Signature) :
    (t.insertAll ss).2.size = t.size + (t.insertAll ss).1.length := by
  induction ss generalizing t with
  | nil => rfl
  | cons s rest ih =>
    rw [insertAll_cons, ih, List.length_append, ← Nat.add_assoc]
    cases hs : t.idAt? s.place with
    | some id => simp [insert_taken (t := t) (s := s) (by simp [hs])]
    | none => simp [insert_free hs, size]

/-- `insertAll` leaves symbols that were there before or are stubs with one of the signatures. -/
theorem mem_insertAll {t : SymbolTable} {ss : List Signature} {symbol : Symbol}
    (h : symbol ∈ (t.insertAll ss).2.symbols) :
    symbol ∈ t.symbols ∨ symbol.signature ∈ ss ∧ symbol.body = none := by
  induction ss generalizing t with
  | nil => exact Or.inl h
  | cons s rest ih =>
    rw [insertAll_cons] at h
    rcases ih h with hmem | ⟨hmem, hstub⟩
    · -- the first stub is refused or becomes the only new symbol
      cases hs : t.idAt? s.place with
      | some id =>
        rw [insert_taken (by simp [hs])] at hmem
        exact Or.inl hmem
      | none =>
        rw [insert_free hs] at hmem
        rcases List.mem_append.1 hmem with hmem | hmem
        · exact Or.inl hmem
        · rw [List.mem_singleton.1 hmem]
          exact Or.inr ⟨List.mem_cons_self, rfl⟩
    · exact Or.inr ⟨List.mem_cons_of_mem s hmem, hstub⟩

/-- `insertAll` makes stubs the last symbols, in their order, if all of them find their places
free. -/
theorem signatures_insertAll {t : SymbolTable} {ss : List Signature}
    (hfree : ∀ s ∈ ss, t.idAt? s.place = none)
    (hplaces : ss.Pairwise fun a b => a.place ≠ b.place) :
    (t.insertAll ss).2.symbols.map Symbol.signature = t.symbols.map Symbol.signature ++ ss := by
  induction ss generalizing t with
  | nil => exact (List.append_nil _).symm
  | cons s rest ih =>
    obtain ⟨hs, hrest⟩ := List.pairwise_cons.1 hplaces
    -- the first stub takes a place that none of the others asks for
    have hfree' : ∀ s' ∈ rest, (t.insert s).2.idAt? s'.place = none := by
      intro s' hs'
      rw [idAt?_insert_of_ne (hs s' hs').symm]
      exact hfree s' (List.mem_cons_of_mem s hs')
    -- and it is the last symbol then
    have hnew : (t.insert s).2.symbols.map Symbol.signature =
        t.symbols.map Symbol.signature ++ [s] := by
      rw [insert_free (hfree s List.mem_cons_self)]
      exact List.map_append
    rw [insertAll_cons, ih hfree' hrest, hnew, List.append_assoc]
    rfl

/-! ## Growth -/

/-- What a table may become by operations: every symbol keeps its position, and every place its
symbol. -/
structure Grows (t t' : SymbolTable) : Prop where
  symbols : ∀ (i : Nat) (s : Symbol), t.symbols[i]? = some s →
    ∃ s', t'.symbols[i]? = some s' ∧ s.Becomes s'
  places : ∀ p id, t.idAt? p = some id → t'.idAt? p = some id

/-- `Grows` holds without any operation. -/
theorem Grows.refl (t : SymbolTable) : t.Grows t :=
  ⟨fun _ s h => ⟨s, h, .refl s⟩, fun _ _ h => h⟩

/-- `Grows` holds after some operations and then some more. -/
theorem Grows.trans {t t' t'' : SymbolTable} (h : t.Grows t') (h' : t'.Grows t'') :
    t.Grows t'' := by
  refine ⟨fun i s hs => ?_, fun p id hid => h'.places p id (h.places p id hid)⟩
  obtain ⟨s', hs', hbecomes⟩ := h.symbols i s hs
  obtain ⟨s'', hs'', hbecomes'⟩ := h'.symbols i s' hs'
  exact ⟨s'', hs'', hbecomes.trans hbecomes'⟩

/-- `Grows` leaves a place taken that was taken. -/
theorem Grows.isSome_idAt? {t t' : SymbolTable} (h : t.Grows t') {p : Place}
    (hp : (t.idAt? p).isSome) : (t'.idAt? p).isSome := by
  obtain ⟨id, hid⟩ := Option.isSome_iff_exists.1 hp
  exact Option.isSome_iff_exists.2 ⟨id, h.places p id hid⟩

/-- `insert` lets a table grow: all other symbols are left as they are. -/
theorem grows_insert (t : SymbolTable) (s : Signature) : t.Grows (t.insert s).2 := by
  refine ⟨fun i old hold => ⟨old, ?_, .refl old⟩, fun p id => idAt?_insert_of_eq_some s⟩
  cases hs : t.idAt? s.place with
  | some id => rw [insert_taken (by simp [hs]), hold]
  | none =>
    have hlt : i < t.symbols.length := (List.getElem?_eq_some_iff.1 hold).1
    rw [insert_free hs]
    exact (List.getElem?_append_left hlt).trans hold

/-- `insertAll` lets a table grow. -/
theorem grows_insertAll (t : SymbolTable) (ss : List Signature) :
    t.Grows (t.insertAll ss).2 := by
  induction ss generalizing t with
  | nil => exact .refl t
  | cons s rest ih => exact (grows_insert t s).trans (ih _)

/-- `fill` lets a table grow: it gives bodies to stubs and changes nothing else. -/
theorem grows_fill (u : CompilationUnit) (t : SymbolTable) : t.Grows (Bodies.fill u t).2 := by
  refine ⟨fun i s hs => ⟨Bodies.fillSymbol u s, ?_, Bodies.becomes_fillSymbol u s⟩,
    fun _ _ h => h⟩
  simp only [Bodies.fill, List.getElem?_map, hs, Option.map_some]

/-! ## Coherence -/

/-- A table is coherent if its list of symbols and its index of places agree. -/
structure Coherent (t : SymbolTable) : Prop where
  /-- Every symbol carries its position. -/
  id_eq : ∀ (i : Nat) (s : Symbol), t.symbols[i]? = some s → s.id = ⟨i⟩
  /-- The index leads to a symbol of the place that is looked up. -/
  place_eq : ∀ p id, t.idAt? p = some id → ∃ s, t.get? id = some s ∧ s.place = p
  /-- The index knows every symbol of the list. -/
  idAt?_eq : ∀ s ∈ t.symbols, t.idAt? s.place = some s.id

/-- The empty table is `Coherent`. -/
theorem coherent_empty : ({} : SymbolTable).Coherent :=
  ⟨fun _ _ h => by simp at h, fun _ _ h => by simp [idAt?] at h, fun _ h => by simp at h⟩

/-- `insert` keeps a table `Coherent`. -/
theorem coherent_insert {t : SymbolTable} (h : t.Coherent) (s : Signature) :
    (t.insert s).2.Coherent := by
  cases hs : t.idAt? s.place with
  | some id => rwa [insert_taken (by simp [hs])]
  | none =>
    rw [insert_free hs]
    have hnew : (t.symbols ++ [({ id := ⟨t.size⟩, signature := s } : Symbol)])[t.size]? =
        some { id := ⟨t.size⟩, signature := s } := by
      simp [size]
    -- the old symbols stay where they were
    have hold : ∀ (i : Nat) (old : Symbol), t.symbols[i]? = some old →
        (t.symbols ++ [({ id := ⟨t.size⟩, signature := s } : Symbol)])[i]? = some old := by
      intro i old hi
      rw [List.getElem?_append_left (List.getElem?_eq_some_iff.1 hi).1, hi]
    refine ⟨fun i s' hs' => ?_, fun p id hid => ?_, fun s' hs' => ?_⟩
    · by_cases hi : i < t.symbols.length
      · rw [List.getElem?_append_left hi] at hs'
        exact h.id_eq i s' hs'
      · -- beyond the old symbols there is only the new one
        have hsize : i = t.size := by
          have := (List.getElem?_eq_some_iff.1 hs').1
          simp only [List.length_append, List.length_singleton] at this
          simp only [size]
          omega
        rw [hsize, hnew] at hs'
        rw [hsize, ← Option.some.inj hs']
    · rw [idAt?_cons] at hid
      split at hid
      · rename_i hp
        rw [← Option.some.inj hid]
        exact ⟨_, hnew, hp.symm⟩
      · obtain ⟨old, hget, hplace⟩ := h.place_eq p id hid
        exact ⟨old, hold _ _ hget, hplace⟩
    · rw [idAt?_cons]
      rcases List.mem_append.1 hs' with hmem | hmem
      · -- an old symbol cannot stand at the new place, which was free
        have hidAt := h.idAt?_eq s' hmem
        have hne : s'.place ≠ s.place := fun heq => by rw [heq, hs] at hidAt; exact nomatch hidAt
        rw [if_neg hne, hidAt]
      · rw [List.mem_singleton.1 hmem]
        exact if_pos rfl

/-- `insertAll` keeps a table `Coherent`. -/
theorem coherent_insertAll {t : SymbolTable} (h : t.Coherent) (ss : List Signature) :
    (t.insertAll ss).2.Coherent := by
  induction ss generalizing t with
  | nil => exact h
  | cons s rest ih => exact ih (coherent_insert h s)

/-- `fill` keeps a table `Coherent`. -/
theorem coherent_fill {t : SymbolTable} (h : t.Coherent) (u : CompilationUnit) :
    (Bodies.fill u t).2.Coherent := by
  -- filling leaves the places of symbols as they are
  have hplace : ∀ s, (Bodies.fillSymbol u s).place = s.place := fun s =>
    congrArg Signature.place (Bodies.becomes_fillSymbol u s).signature_eq
  refine ⟨fun i s' hs' => ?_, fun p id hid => ?_, fun s' hs' => ?_⟩
  · simp only [Bodies.fill, List.getElem?_map] at hs'
    obtain ⟨s, hs, rfl⟩ := Option.map_eq_some_iff.1 hs'
    rw [(Bodies.becomes_fillSymbol u s).id_eq, h.id_eq i s hs]
  · obtain ⟨s, hget, rfl⟩ := h.place_eq p id hid
    refine ⟨Bodies.fillSymbol u s, ?_, hplace s⟩
    simp only [get?] at hget
    simp only [Bodies.fill, get?, List.getElem?_map, hget, Option.map_some]
  · simp only [Bodies.fill] at hs'
    obtain ⟨s, hs, rfl⟩ := List.mem_map.1 hs'
    rw [hplace s, (Bodies.becomes_fillSymbol u s).id_eq]
    exact h.idAt?_eq s hs

/-- In a `Coherent` table `find?` has exactly the symbols of the list. -/
theorem find?_eq_some_iff {t : SymbolTable} (h : t.Coherent) {owner : DeclId} {scope : Scope}
    {name : String} {s : Symbol} :
    t.find? owner scope name = some s ↔ s ∈ t.symbols ∧ s.place = ⟨owner, scope, name⟩ := by
  simp only [find?, Option.bind_eq_some_iff]
  constructor
  · rintro ⟨id, hid, hget⟩
    obtain ⟨s', hget', hplace⟩ := h.place_eq _ id hid
    obtain rfl : s' = s := Option.some.inj (hget'.symm.trans hget)
    exact ⟨List.mem_of_getElem? hget, hplace⟩
  · rintro ⟨hmem, hplace⟩
    obtain ⟨i, hi⟩ := List.mem_iff_getElem?.1 hmem
    refine ⟨s.id, hplace ▸ h.idAt?_eq s hmem, ?_⟩
    rw [get?, h.id_eq i s hi, hi]

/-- In a `Coherent` table no two symbols share their place. -/
private theorem eq_of_place_eq {t : SymbolTable} (h : t.Coherent) {i j : Nat} {s s' : Symbol}
    (hs : t.symbols[i]? = some s) (hs' : t.symbols[j]? = some s') (hplace : s.place = s'.place) :
    i = j := by
  -- the index has one position for the place, and both symbols carry it
  have hid := h.idAt?_eq s (List.mem_of_getElem? hs)
  rw [hplace, h.idAt?_eq s' (List.mem_of_getElem? hs'), h.id_eq i s hs, h.id_eq j s' hs'] at hid
  exact (congrArg SymbolId.index (Option.some.inj hid)).symm

/-- In a `Coherent` table the places of the symbols are distinct. -/
theorem nodup_places {t : SymbolTable} (h : t.Coherent) : (t.symbols.map Symbol.place).Nodup := by
  refine List.pairwise_map.2 (List.pairwise_iff_getElem.2 fun i j hi hj hij heq => ?_)
  have := eq_of_place_eq h (List.getElem?_eq_getElem hi) (List.getElem?_eq_getElem hj) heq
  omega

/-- In a `Coherent` table `idAt?` knows a place exactly when some symbol is there. -/
theorem isSome_idAt?_iff {t : SymbolTable} (h : t.Coherent) (p : Place) :
    (t.idAt? p).isSome ↔ ∃ s ∈ t.symbols, s.place = p := by
  constructor
  · intro hsome
    obtain ⟨id, hid⟩ := Option.isSome_iff_exists.1 hsome
    obtain ⟨s, hget, hplace⟩ := h.place_eq p id hid
    exact ⟨s, List.mem_of_getElem? hget, hplace⟩
  · rintro ⟨s, hmem, rfl⟩
    rw [h.idAt?_eq s hmem]
    rfl

/-- In a `Coherent` table `insert` refuses a stub exactly when its place has a symbol. -/
theorem insert_eq_none_iff {t : SymbolTable} (h : t.Coherent) (s : Signature) :
    (t.insert s).1 = none ↔ ∃ s' ∈ t.symbols, s'.place = s.place := by
  rw [← isSome_idAt?_iff h]
  cases hs : t.idAt? s.place with
  | some id => simp [insert_taken (t := t) (s := s) (by simp [hs])]
  | none => simp [insert_free hs]

end SymbolTable

end ScreenSynthesis

import ScreenSynthesis.Proofs.SymbolTableCoherence

/-!
# Synthesized symbols beside the user's declarations

Adding the stubs or the binding of a candidate decides for each name anew whether it is free. All
these decisions together come to the same as offering the list `wanted` to the table, which takes
what it has not yet. So a second time there is nothing to add.

## Key results

- `Stubs.add_eq_insertAll`, `Binding.add_eq_insertAll`: adding is offering what is wanted
- `Stubs.not_declares_of_mem_wanted`, `Binding.not_declares_of_mem_wanted`: what is wanted has no
  name that the user has given
- `Stubs.names_wanted_sublist`, `Binding.names_wanted_sublist`: what is wanted has names from a
  fixed list
- `SymbolTable.get?_of_mem_insertAll`: the positions given back are those of the new symbols
-/

namespace ScreenSynthesis

namespace SymbolTable

/-- `idAt?` knows the place of what `find?` finds. -/
private theorem isSome_idAt?_of_find? {t : SymbolTable} {owner : DeclId} {scope : Scope}
    {name : String}
    (h : (t.find? owner scope name).isSome) : (t.idAt? ⟨owner, scope, name⟩).isSome := by
  cases hid : t.idAt? ⟨owner, scope, name⟩ with
  | some id => rfl
  | none => simp [find?, hid] at h

/-- `addUndeclared` offers the table a stub whose name the user has not declared. -/
private theorem addUndeclared_eq_insertAll (t : SymbolTable) (d : ClassDecl) (s : Signature) :
    t.addUndeclared d s = t.insertAll (if d.declares s.name s.scope then [] else [s]) := by
  cases huser : d.declares s.name s.scope with
  | true => simp [addUndeclared, isDeclared, huser, insertAll]
  | false =>
    cases hfind : (t.find? s.owner s.scope s.name).isSome with
    | true =>
      -- the table itself would refuse the stub
      have htaken : (t.idAt? s.place).isSome := isSome_idAt?_of_find? hfind
      rw [insertAll_taken (by simpa using htaken)]
      simp [addUndeclared, isDeclared, hfind]
    | false => simp [addUndeclared, isDeclared, huser, hfind, insertAll]

/-- `insertAll` gives back the positions of new symbols with these signatures. -/
theorem get?_of_mem_insertAll {t : SymbolTable} {ss : List Signature} {id : SymbolId}
    (h : id ∈ (t.insertAll ss).1) :
    ∃ s ∈ ss, ∃ symbol, (t.insertAll ss).2.get? id = some symbol ∧ symbol.signature = s := by
  -- on the stubs: each goes to a table that only grows from then on
  induction ss generalizing t with
  | nil => exact nomatch h
  | cons s rest ih =>
    rw [insertAll_cons] at h ⊢
    rcases List.mem_append.1 h with hnew | hrest
    · -- the first stub was taken, and the others have left it as it is
      cases hs : t.idAt? s.place with
      | some taken => simp [insert_taken (t := t) (s := s) (by simp [hs])] at hnew
      | none =>
        rw [insert_free hs] at hnew ⊢
        obtain rfl : id = ⟨t.size⟩ := by simpa using hnew
        have hgrows := (grows_insertAll
          { symbols := t.symbols ++ [{ id := ⟨t.size⟩, signature := s }]
            places := (s.place, ⟨t.size⟩) :: t.places } rest).symbols
        obtain ⟨symbol, hget, hbecomes⟩ :=
          hgrows t.size { id := ⟨t.size⟩, signature := s } (by simp [size])
        exact ⟨s, List.mem_cons_self, symbol, hget, hbecomes.signature_eq⟩
    · obtain ⟨s', hs', symbol, hget, hsymbol⟩ := ih hrest
      exact ⟨s', List.mem_cons_of_mem s hs', symbol, hget, hsymbol⟩

end SymbolTable

namespace Stubs

/-- `addContainer` offers the table a container if the user wrote none and left room for one. -/
private theorem addContainer_eq_insertAll (t : SymbolTable) (c : Candidate) (d : ClassDecl) :
    addContainer t c d =
      t.insertAll
        (if d.container.isNone && d.hasRoomForContainer then [containerStub c d] else []) := by
  unfold addContainer
  cases d.container.isNone && d.hasRoomForContainer with
  | false => rfl
  | true =>
    cases hfind : t.find? c.decl .owner d.containerName with
    | none => rfl
    | some symbol =>
      -- the container is tested for by name, which is the test of its place
      have htaken : (t.idAt? (containerStub c d).place).isSome :=
        SymbolTable.isSome_idAt?_of_find? (by simp [containerStub, hfind])
      rw [if_pos rfl, SymbolTable.insertAll_taken (by simpa using htaken)]
      rfl

/-- `addContainerMember` offers the table a member of the container if the user left room for it. -/
private theorem addContainerMember_eq_insertAll (t : SymbolTable) (d : ClassDecl)
    (s : Signature) :
    addContainerMember t d s =
      t.insertAll (if d.hasRoomForContainer && !d.declares s.name s.scope then [s] else []) := by
  unfold addContainerMember
  cases d.hasRoomForContainer with
  | false => rfl
  | true =>
    rw [if_pos rfl, SymbolTable.addUndeclared_eq_insertAll]
    cases d.declares s.name s.scope <;> rfl

/-- `addAccessor` offers the table the accessor if there is an argument and the user left room for
it. -/
private theorem addAccessor_eq_insertAll (t : SymbolTable) (c : Candidate) (d : ClassDecl)
    (argument : Option TypeRef) :
    addAccessor t c d argument =
      t.insertAll
        (if d.declares argName .owner then [] else argument.toList.map (accessorStub c)) := by
  cases argument with
  | none => simp [addAccessor, SymbolTable.insertAll]
  | some type => exact SymbolTable.addUndeclared_eq_insertAll t d (accessorStub c type)

/-- `Stubs.add` offers the table all that is `wanted`. -/
theorem add_eq_insertAll (t : SymbolTable) (c : Candidate) (d : ClassDecl) (v : Validation) :
    add t c d v = t.insertAll (wanted c d v) := by
  simp only [add, wanted, addContainer_eq_insertAll, addContainerMember_eq_insertAll,
    addAccessor_eq_insertAll, SymbolTable.insertAll_append, List.append_assoc]
  rfl

/-- `wanted` are a container, a key, an accessor and a factory, each under its own conditions. -/
theorem mem_wanted_iff {c : Candidate} {d : ClassDecl} {v : Validation} {s : Signature} :
    s ∈ wanted c d v ↔
      (d.container = none ∧ d.hasRoomForContainer = true ∧ s = containerStub c d) ∨
      (d.hasRoomForContainer = true ∧ d.declares keyName .container = false ∧ s = keyStub c) ∨
      (d.declares argName .owner = false ∧
        ∃ type, argumentType c v = some type ∧ s = accessorStub c type) ∨
      (d.hasRoomForContainer = true ∧ d.declares factoryName .container = false ∧
        s = factoryStub c (argumentType c v)) := by
  simp only [wanted, List.mem_append, List.mem_ite_nil_right, List.mem_ite_nil_left,
    List.mem_singleton, List.mem_map, Option.mem_toList, Bool.and_eq_true, Bool.not_eq_true',
    Bool.not_eq_true, Option.isNone_iff_eq_none, and_assoc, or_assoc, eq_comm (b := s)]

/-- `wanted` has no stub with a name that the user has given in its scope. -/
theorem not_declares_of_mem_wanted {c : Candidate} {d : ClassDecl} {v : Validation}
    {s : Signature} (h : s ∈ wanted c d v) : d.declares s.name s.scope = false := by
  rcases mem_wanted_iff.1 h with ⟨hnone, hroom, rfl⟩ | ⟨-, hfree, rfl⟩ | ⟨hfree, type, -, rfl⟩ |
    ⟨-, hfree, rfl⟩
  · show d.hasMember d.containerName = false
    simpa [ClassDecl.hasRoomForContainer, hnone] using hroom
  · exact hfree
  · exact hfree
  · exact hfree

/-- `wanted` has stubs of the candidate's declaration only. -/
theorem owner_of_mem_wanted {c : Candidate} {d : ClassDecl} {v : Validation} {s : Signature}
    (h : s ∈ wanted c d v) : s.owner = c.decl := by
  rcases mem_wanted_iff.1 h with ⟨-, -, rfl⟩ | ⟨-, -, rfl⟩ | ⟨-, type, -, rfl⟩ | ⟨-, -, rfl⟩ <;> rfl

/-- `wanted` has some of four names, in this order. -/
theorem names_wanted_sublist (c : Candidate) (d : ClassDecl) (v : Validation) :
    ((wanted c d v).map fun s => (s.scope, s.name)).Sublist
      ([(.owner, defaultContainer)] ++ [(.container, keyName)] ++ [(.owner, argName)] ++
        [(.container, factoryName)]) := by
  simp only [wanted, List.map_append]
  refine .append (.append (.append ?_ ?_) ?_) ?_
  · -- without a container of the user's the new one has the default name
    split
    · rename_i h
      have hnone : d.container = none := by simp at h; exact h.1
      have hname : d.containerName = defaultContainer :=
        ClassDecl.containerName_of_container_eq_none hnone
      simp [containerStub, hname]
    · exact List.nil_sublist _
  · split
    · exact .refl _
    · exact List.nil_sublist _
  · split
    · exact List.nil_sublist _
    · cases argumentType c v with
      | none => exact List.nil_sublist _
      | some type => exact .refl _
  · split
    · exact .refl _
    · exact List.nil_sublist _

/-- `wanted` has no stub that is a binding. -/
theorem kind_of_mem_wanted {c : Candidate} {d : ClassDecl} {v : Validation} {s : Signature}
    (h : s ∈ wanted c d v) : s.kind ≠ .conditionalAccessorProperty := by
  rcases mem_wanted_iff.1 h with ⟨-, -, rfl⟩ | ⟨-, -, rfl⟩ | ⟨-, type, -, rfl⟩ | ⟨-, -, rfl⟩ <;>
    exact nofun

/-- `wanted` stays as it is if bindings are left out. -/
theorem filter_wanted (c : Candidate) (d : ClassDecl) (v : Validation) :
    (wanted c d v).filter (·.kind ≠ .conditionalAccessorProperty) = wanted c d v :=
  List.filter_eq_self.2 fun _ hmem => decide_eq_true (kind_of_mem_wanted hmem)

end Stubs

namespace Binding

variable {config : ScreenConfig} {knows : QualifiedName → Bool}

/-- `Binding.add` offers the table the binding that is `wanted`. -/
theorem add_eq_insertAll (config : ScreenConfig) (knows : QualifiedName → Bool) (t : SymbolTable)
    (c : Candidate) (d : ClassDecl) (v : Validation) :
    add config knows t c d v = t.insertAll (wanted config knows c d v) := by
  simp only [add, wanted]
  cases v.onController with
  | false => simp [SymbolTable.insertAll]
  | true =>
    cases type? config knows d with
    | none => simp [SymbolTable.insertAll]
    | some type =>
      rw [if_pos rfl]
      simp only [SymbolTable.addUndeclared_eq_insertAll]
      -- the name is tested before the type is looked for, which makes no difference
      cases huser : d.declares bindingName .owner <;> simp [stub, huser]

/-- `wanted` has a binding only on a controller, with a known type and a free name. -/
theorem mem_wanted_iff {c : Candidate} {d : ClassDecl} {v : Validation} {s : Signature} :
    s ∈ wanted config knows c d v ↔
      v.onController = true ∧ d.declares bindingName .owner = false ∧
        ∃ type, type? config knows d = some type ∧ s = stub c type := by
  simp only [wanted, List.mem_ite_nil_right, List.mem_map, Option.mem_toList, Bool.and_eq_true,
    Bool.not_eq_true', and_assoc, eq_comm (b := s)]

/-- `wanted` has no binding with a name that the user has given. -/
theorem not_declares_of_mem_wanted {c : Candidate} {d : ClassDecl} {v : Validation}
    {s : Signature} (h : s ∈ wanted config knows c d v) : d.declares s.name s.scope = false := by
  obtain ⟨-, hfree, type, -, rfl⟩ := mem_wanted_iff.1 h
  exact hfree

/-- `wanted` has a binding of the candidate's declaration only. -/
theorem owner_of_mem_wanted {c : Candidate} {d : ClassDecl} {v : Validation} {s : Signature}
    (h : s ∈ wanted config knows c d v) : s.owner = c.decl := by
  obtain ⟨-, -, type, -, rfl⟩ := mem_wanted_iff.1 h
  rfl

/-- `wanted` is empty if bindings are left out. -/
theorem filter_wanted (config : ScreenConfig) (knows : QualifiedName → Bool) (c : Candidate)
    (d : ClassDecl) (v : Validation) :
    (wanted config knows c d v).filter (·.kind ≠ .conditionalAccessorProperty) = [] := by
  refine List.filter_eq_nil_iff.2 fun s hmem => ?_
  obtain ⟨-, -, type, -, rfl⟩ := mem_wanted_iff.1 hmem
  simp [stub]

/-- `wanted` has one name at most. -/
theorem names_wanted_sublist (config : ScreenConfig) (knows : QualifiedName → Bool)
    (c : Candidate) (d : ClassDecl) (v : Validation) :
    ((wanted config knows c d v).map fun s => (s.scope, s.name)).Sublist
      [(.owner, bindingName)] := by
  unfold wanted
  split
  · cases type? config knows d with
    | none => exact List.nil_sublist _
    | some type => exact .refl _
  · exact List.nil_sublist _

end Binding

end ScreenSynthesis

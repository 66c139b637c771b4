import ScreenSynthesis.Proofs.ScreenMembers

/-!
# Containers of the user and the names of new members

A new member is added only if its name is free, but what counts as taken are the user's members and
the symbols of the table. The name of the user's own container is neither, though the container
stands beside the members of the owner. This file says which new members can have that name: a new
container never does, while the accessor and the binding do as soon as the container is named like
them.

## Key results

- `clash_with_container_iff`: when a new member of the owner has the name of the user's container
- `not_forall_container_free`: there are sessions with such a member
-/

namespace ScreenSynthesis

namespace Session

variable {s : Session} {decl : DeclId} {d : ClassDecl} {container : Container}

/-- On the owner of a declaration with a container, a candidate has `wanted` its accessor and its
binding, each under its own name, unless a member of the user has that name. -/
private theorem mem_wanted_owner_iff {c : Candidate} {v : Validation} {name : String}
    (hv : s.validation? c.id = some v) (hfatal : v.fatal = false)
    (hcontroller : v.onController = true) (hd : s.unit.declaration? c.decl = some d)
    (hcontainer : d.container = some container) :
    (∃ signature ∈ s.wanted c, signature.scope = .owner ∧ signature.name = name) ↔
      (name = argName ∧ v.argument ≠ none ∧ d.hasMember argName = false) ∨
      (name = bindingName ∧ Binding.type? s.config s.knows d ≠ none ∧
        d.hasMember bindingName = false) := by
  constructor
  · rintro ⟨signature, hwanted, hscope, rfl⟩
    obtain ⟨v', d', hv', -, hd', hmem⟩ := mem_wanted_iff.1 hwanted
    obtain rfl : v = v' := Option.some.inj (hv.symm.trans hv')
    obtain rfl : d = d' := Option.some.inj (hd.symm.trans hd')
    rcases hmem with hstub | hbinding
    · -- there is a container already, and its members are in another scope
      rcases Stubs.mem_wanted_iff.1 hstub with ⟨hnone, -, -⟩ | ⟨-, -, rfl⟩ |
        ⟨hfree, type, htype, rfl⟩ | ⟨-, -, rfl⟩
      · rw [hcontainer] at hnone
        exact nomatch hnone
      · exact nomatch hscope
      · obtain ⟨name, hname, -⟩ := Option.map_eq_some_iff.1 htype
        exact Or.inl ⟨rfl, by rw [hname]; exact nofun, hfree⟩
      · exact nomatch hscope
    · -- the other way to a new member on the owner is the binding
      obtain ⟨-, hfree, type, htype, rfl⟩ := Binding.mem_wanted_iff.1 hbinding
      exact Or.inr ⟨rfl, by rw [htype]; exact nofun, hfree⟩
  · rintro (⟨rfl, hargument, hfree⟩ | ⟨rfl, htype, hfree⟩)
    · -- an argument has a type, and the accessor is asked for with it
      obtain ⟨type, htype⟩ := Option.ne_none_iff_exists'.1 hargument
      have hstub : Stubs.accessorStub c ⟨type, c.marker.nullable⟩ ∈ Stubs.wanted c d v := by
        refine Stubs.mem_wanted_iff.2 (Or.inr (Or.inr (Or.inl ⟨hfree, _, ?_, rfl⟩)))
        rw [Stubs.argumentType, htype, Option.map_some]
      exact ⟨_, mem_wanted_iff.2 ⟨v, d, hv, hfatal, hd, Or.inl hstub⟩, rfl, rfl⟩
    · obtain ⟨type, htype⟩ := Option.ne_none_iff_exists'.1 htype
      have hstub : Binding.stub c type ∈ Binding.wanted s.config s.knows c d v :=
        Binding.mem_wanted_iff.2 ⟨hcontroller, hfree, type, htype, rfl⟩
      exact ⟨_, mem_wanted_iff.2 ⟨v, d, hv, hfatal, hd, Or.inr hstub⟩, rfl, rfl⟩

/-- A new member on the owner has the name of the user's container exactly in two cases: the
container is named `argName`, and there is an argument to be accessed, or it is named `bindingName`,
and there is a type to be bound. In both cases the declaration has passed its checks, and no member
of the user has the name. -/
theorem clash_with_container_iff (hs : s.Reachable) (hd : s.unit.declaration? decl = some d)
    (hcontainer : d.container = some container) :
    (∃ symbol ∈ s.symbols.forOwner decl,
      symbol.signature.scope = .owner ∧ symbol.signature.name = container.name) ↔
    Phase.signaturesSynthesized.rank ≤ s.phase.rank ∧
      ∃ c ∈ s.candidates.candidates, ∃ v,
        c.decl = decl ∧ s.validation? c.id = some v ∧ v.fatal = false ∧
        ((container.name = argName ∧ v.argument ≠ none ∧ d.hasMember argName = false) ∨
          (container.name = bindingName ∧ Binding.type? s.config s.knows d ≠ none ∧
            d.hasMember bindingName = false)) := by
  constructor
  · rintro ⟨symbol, hsymbol, hscope, hname⟩
    obtain ⟨hmem, howner⟩ := List.mem_filter.1 hsymbol
    -- there are no symbols before
    have hphase : Phase.signaturesSynthesized.rank ≤ s.phase.rank := by
      refine Nat.le_of_not_lt fun hlt => ?_
      rw [hs.wellFormed.symbols_eq hlt] at hmem
      exact nomatch hmem
    obtain ⟨c, hc, hwanted⟩ := hs.wellFormed.wanted symbol hmem
    obtain rfl : c.decl = decl :=
      (owner_of_mem_wanted hwanted).1.symm.trans (of_decide_eq_true howner)
    obtain ⟨v, d', hv, hfatal, -⟩ := mem_wanted_iff.1 hwanted
    -- whoever has passed the checks is on a controller, so that a binding is asked for
    obtain ⟨-, rfl⟩ := hs.eq_judge hc hv
    have hcontroller := Validation.judge_onController_of_not_fatal hfatal
    exact ⟨hphase, c, hc, _, rfl, hv, hfatal,
      (mem_wanted_owner_iff hv hfatal hcontroller hd hcontainer).1 ⟨_, hwanted, hscope, hname⟩⟩
  · rintro ⟨hphase, c, hc, v, rfl, hv, hfatal, hnames⟩
    obtain ⟨-, rfl⟩ := hs.eq_judge hc hv
    have hcontroller := Validation.judge_onController_of_not_fatal hfatal
    obtain ⟨signature, hwanted, hscope, hname⟩ :=
      (mem_wanted_owner_iff hv hfatal hcontroller hd hcontainer).2 hnames
    -- what the candidate asks for is there
    rw [← hs.signatures_forOwner hphase hc] at hwanted
    obtain ⟨symbol, hsymbol, rfl⟩ := List.mem_map.1 hwanted
    exact ⟨symbol, hsymbol, hscope, hname⟩

/-- A screen with a layout, whose container is named like the binding. -/
def gallery : ClassDecl where
  package := "app"
  name := "Gallery"
  supertypes := [controllerBase]
  annotations := [{ name := ⟨markerName⟩ }]
  container := some { name := bindingName }
  delegation := some { arguments := [.path "R.layout.gallery"] }

/-- The gallery gets a binding beside its container of the same name. -/
theorem clash_with_container_gallery :
    let s := ((new ⟨{ classes := [gallery] }, by decide⟩ { appNamespace := some "app" }
      fun _ => true).call .runAll).2
    s.unit.declaration? ⟨0⟩ = some gallery ∧ gallery.container = some { name := bindingName } ∧
      ∃ symbol ∈ s.symbols.forOwner ⟨0⟩,
        symbol.signature.scope = .owner ∧ symbol.signature.name = bindingName := by
  intro s
  have hs : s.Reachable := .call (.new _ _ _) .runAll
  have hphase : Phase.signaturesSynthesized.rank ≤ s.phase.rank := by decide +kernel
  let c : Candidate :=
    { id := ⟨0⟩, decl := ⟨0⟩, owner := ⟨"app.Gallery"⟩, marker := {}, location := {} }
  have hc : c ∈ s.candidates.candidates := by decide +kernel
  have hv : s.validation? ⟨0⟩ = some ⟨true, none, false⟩ := by decide +kernel
  have htype : Binding.type? s.config s.knows gallery ≠ none := by decide +kernel
  have hd : s.unit.declaration? ⟨0⟩ = some gallery := rfl
  have hcontainer : gallery.container = some { name := bindingName } := rfl
  refine ⟨hd, hcontainer, (clash_with_container_iff hs hd hcontainer).2 ?_⟩
  exact ⟨hphase, c, hc, _, rfl, hv, rfl, Or.inr ⟨rfl, htype, rfl⟩⟩

/-- A screen with an argument, whose container is named like the accessor. -/
def profile : ClassDecl where
  package := "app"
  name := "Home"
  supertypes := [controllerBase]
  annotations := [{ name := ⟨markerName⟩, arguments := [⟨none, .classRef "app.Item"⟩] }]
  container := some { name := argName }

/-- The name of the user's container is not always free of new members on the owner: the accessor of
a `profile` has it. -/
theorem not_forall_container_free :
    ¬ ∀ s : Session, s.Reachable → ∀ decl d container,
      s.unit.declaration? decl = some d → d.container = some container →
      ∀ symbol ∈ s.symbols.forOwner decl,
        symbol.signature.scope = .owner → symbol.signature.name ≠ container.name := by
  intro hfree
  let s := ((new ⟨{ classes := [profile] }, by decide⟩ {}).call .runAll).2
  have hfind : (s.symbols.forOwner ⟨0⟩).any
      (fun symbol => symbol.signature.scope = .owner ∧ symbol.signature.name = argName) = true := by
    decide +kernel
  obtain ⟨symbol, hsymbol, hclash⟩ := List.any_eq_true.1 hfind
  obtain ⟨hscope, hname⟩ := of_decide_eq_true hclash
  exact hfree s (.call (.new _ _ _) .runAll) ⟨0⟩ profile _ rfl rfl symbol hsymbol hscope hname

end Session

end ScreenSynthesis

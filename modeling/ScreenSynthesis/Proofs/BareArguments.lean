import ScreenSynthesis.Proofs.SessionValidation

/-!
# Where a bare argument name is looked for

A declaration keeps its package and its name apart, but its candidate has only the two joined. The
package in which a bare argument name is looked for is cut off the joined name at its last dot. For
a name without dots that is the package of the declaration. The name of a nested class has dots of
its own, and its bare argument is looked for below the enclosing class instead.

## Key results

- `QualifiedName.package_inPackage`: what is cut off a joined name
- `Session.bareArgument_iff`: where a bare name is looked for, and when this finds the same as the
  package of the declaration
- `Session.not_forall_bareArgument_eq`: the argument of a nested class can get lost
-/

namespace ScreenSynthesis

namespace QualifiedName

variable {p q n : String}

/-- `package` cuts the package off that `inPackage` has put in front, if the name has no dot. What
stands before the last dot of any other name goes to the package. -/
theorem package_inPackage (p n : String) :
    (inPackage p n).package =
      if (mk n).isQualified then (inPackage p (mk n).package).text else p := by
  rw [isQualified_eq_isSome]
  by_cases hp : p = ""
  · cases hn : Text.splitLast '.' n.toList <;> simp [inPackage, package, hp, hn]
  · have hjoined : (inPackage p n).text.toList = p.toList ++ '.' :: n.toList := by
      simp [inPackage, hp]
    -- the last dot is the one that was joined with, or one of the name
    cases hn : Text.splitLast '.' n.toList with
    | none =>
      have hcut := Text.splitLast_eq_some_iff.2 ⟨hjoined, Text.splitLast_eq_none_iff.1 hn⟩
      simp [package, hcut]
    | some parts =>
      obtain ⟨before, after⟩ := parts
      obtain ⟨hbefore, hafter⟩ := Text.splitLast_eq_some_iff.1 hn
      have hcut : Text.splitLast '.' (inPackage p n).text.toList =
          some (p.toList ++ '.' :: before, after) :=
        Text.splitLast_eq_some_iff.2 ⟨by simp [hjoined, hbefore], hafter⟩
      have htext : (inPackage p (mk n).package).text = p ++ "." ++ String.ofList before := by
        simp [inPackage, package, hp, hn]
      rw [htext, package, hcut]
      simp [← String.toList_inj]

/-- `inPackage` makes a name that is longer than both of its parts, by the dot between them. -/
private theorem length_text_inPackage (hp : p ≠ "") :
    (inPackage p n).text.length = p.length + 1 + n.length := by
  rw [inPackage, if_neg hp]
  simp only [String.length_append]
  rfl

/-- `inPackage` gives the package itself only if there is nothing to be joined. -/
private theorem text_inPackage_eq_iff : (inPackage p n).text = p ↔ p = "" ∧ n = "" := by
  by_cases hp : p = ""
  · simp [inPackage, hp]
  · -- a joined name is longer than its package
    have hne : (inPackage p n).text ≠ p := by
      intro heq
      have hlength := length_text_inPackage (n := n) hp
      rw [heq] at hlength
      omega
    simp [hne, hp]

/-- `inPackage` leaves a name alone only if the package is empty. -/
private theorem inPackage_eq_mk_iff : inPackage p n = mk n ↔ p = "" := by
  by_cases hp : p = ""
  · simp [inPackage, hp]
  · have hne : inPackage p n ≠ mk n := by
      intro heq
      have hlength := length_text_inPackage (n := n) hp
      rw [heq] at hlength
      simp only at hlength
      omega
    simp [hne, hp]

/-- `package` gives the package of an `inPackage` back if the name has no dot, or no package and
nothing before its last dot. -/
private theorem package_inPackage_eq_iff :
    (inPackage p n).package = p ↔ (mk n).isQualified = false ∨ p = "" ∧ (mk n).package = "" := by
  rw [package_inPackage]
  cases (mk n).isQualified with
  | false => simp
  | true => simp [text_inPackage_eq_iff]

/-- `inPackage` makes different names of different packages. -/
private theorem inPackage_left_inj : inPackage p n = inPackage q n ↔ p = q := by
  by_cases hp : p = ""
  · rw [inPackage_eq_mk_iff.2 hp, eq_comm, inPackage_eq_mk_iff, hp, eq_comm]
  · -- two packages are followed by the same dot and name
    by_cases hq : q = ""
    · rw [inPackage_eq_mk_iff.2 hq, inPackage_eq_mk_iff, hq]
    · simp [inPackage, hp, hq]

end QualifiedName

/-- The type with a bare name in a package, if it is known. -/
def TypeGraph.knownIn? (g : TypeGraph) (package short : String) : Option QualifiedName :=
  if g.contains (.inPackage package short) then some (.inPackage package short) else none

/-- `knownIn?` finds the same type in two packages only if they are the same, or finds none in
either. -/
private theorem TypeGraph.knownIn?_eq_iff {g : TypeGraph} {p q short : String} :
    g.knownIn? p short = g.knownIn? q short ↔
      p = q ∨ g.knownIn? p short = none ∧ g.knownIn? q short = none := by
  constructor
  · intro heq
    cases hp : g.knownIn? p short with
    | none => exact Or.inr ⟨rfl, heq ▸ hp⟩
    | some type =>
      have hq : g.knownIn? q short = some type := heq ▸ hp
      -- both packages have a type under the same joined name
      obtain ⟨-, hptype⟩ := Option.ite_none_right_eq_some.1 hp
      obtain ⟨-, hqtype⟩ := Option.ite_none_right_eq_some.1 hq
      have hname := (Option.some.inj hptype).trans (Option.some.inj hqtype).symm
      exact Or.inl (QualifiedName.inPackage_left_inj.1 hname)
  · rintro (rfl | ⟨hp, hq⟩)
    · rfl
    · rw [hp, hq]

namespace Session

/-- A bare argument name is looked for in the `package` of the declaration's `qualifiedName`, and
nowhere else. This finds what the package of the declaration itself has under the name exactly in
three cases: the name of the declaration has no dot, or it has no package and nothing before its
last dot, or neither of the two packages knows the bare name. -/
theorem bareArgument_iff {s : Session} (hs : s.Reachable)
    (hphase : Phase.validated.rank ≤ s.phase.rank) {decl : DeclId} {d : ClassDecl}
    (hd : s.unit.declaration? decl = some d) {a : AttributeLiteral} (ha : Marker.find? d = some a)
    {short : String} (hshort : (Marker.ofAttribute a).argument = .unqualified short) :
    ∃ c v, s.candidates.forDeclaration? decl = some c ∧ s.validation? c.id = some v ∧
      v.argument = s.unit.graph.knownIn? d.qualifiedName.package short ∧
      (v.argument = s.unit.graph.knownIn? d.package short ↔
        (QualifiedName.mk d.name).isQualified = false ∨
        (d.package = "" ∧ (QualifiedName.mk d.name).package = "") ∨
        s.unit.graph.knownIn? d.qualifiedName.package short = none ∧
          s.unit.graph.knownIn? d.package short = none) := by
  have hscanned : s.candidates = CandidateIndex.scan s.unit :=
    hs.candidates_eq (Nat.le_trans (by decide) hphase)
  obtain ⟨c, hc, rfl⟩ := CandidateIndex.exists_candidate hd ha
  obtain ⟨a', ha', howner, hmarker, -⟩ := CandidateIndex.exists_marker hc hd
  obtain rfl : a = a' := Option.some.inj (ha.symm.trans ha')
  -- the check asks for the name that the candidate has, which is joined already
  have hargument : (Validation.judge s.unit.graph c).argument =
      s.unit.graph.knownIn? d.qualifiedName.package short := by
    rw [Validation.judge, hmarker, howner, hshort]
    rfl
  refine ⟨c, _, ?_, hs.validation?_eq hphase (hscanned ▸ hc), hargument, ?_⟩
  · rw [hscanned]
    exact CandidateIndex.forDeclaration?_eq_some_iff.2 ⟨hc, rfl⟩
  · rw [hargument, TypeGraph.knownIn?_eq_iff, ClassDecl.qualifiedName,
      QualifiedName.package_inPackage_eq_iff, or_assoc]

/-- A class inside another one, with a bare argument name. -/
def nested : ClassDecl where
  package := "app"
  name := "Outer.Inner"
  supertypes := [controllerBase]
  annotations := [{ name := ⟨markerName⟩, arguments := [⟨none, .classRef "Item"⟩] }]

/-- Of two types with the bare name, one in the package and one below the enclosing class, a nested
class gets the latter. -/
theorem bareArgument_iff_nested :
    let s := ((new ⟨{ classes := [nested], classpath := [{ name := ⟨"app.Item"⟩ },
      { name := ⟨"app.Outer.Item"⟩ }] }, by decide⟩ {}).call .runAll).2
    Phase.validated.rank ≤ s.phase.rank ∧ s.unit.declaration? ⟨0⟩ = some nested ∧
      ∃ a, Marker.find? nested = some a ∧ (Marker.ofAttribute a).argument = .unqualified "Item" ∧
        ∃ c v, s.candidates.forDeclaration? ⟨0⟩ = some c ∧ s.validation? c.id = some v ∧
          v.argument = some ⟨"app.Outer.Item"⟩ := by
  intro s
  have hphase : Phase.validated.rank ≤ s.phase.rank := by decide +kernel
  have hd : s.unit.declaration? ⟨0⟩ = some nested := rfl
  have hshort : (Marker.ofAttribute ⟨⟨markerName⟩, [⟨none, .classRef "Item"⟩]⟩).argument =
      .unqualified "Item" := by decide +kernel
  obtain ⟨c, v, hc, hv, hargument, -⟩ :=
    bareArgument_iff (.call (.new _ _ _) .runAll) hphase hd rfl hshort
  have hknown : s.unit.graph.knownIn? nested.qualifiedName.package "Item" =
      some ⟨"app.Outer.Item"⟩ := by decide +kernel
  exact ⟨hphase, hd, _, rfl, hshort, c, v, hc, hv, hargument.trans hknown⟩

/-- It is not so that a bare argument name is always looked for in the package of the declaration: a
type there is not found for a nested class. -/
theorem not_forall_bareArgument_eq :
    ¬ ∀ s : Session, s.Reachable → ∀ decl d a short c v,
      s.unit.declaration? decl = some d → Marker.find? d = some a →
      (Marker.ofAttribute a).argument = .unqualified short →
      s.candidates.forDeclaration? decl = some c → s.validation? c.id = some v →
      v.argument = if s.unit.contains (.inPackage d.package short) then
        some (.inPackage d.package short) else none := by
  intro h
  let s := ((new ⟨{ classes := [nested], classpath := [{ name := ⟨"app.Item"⟩ }] }, by decide⟩
    {}).call .runAll).2
  have hc : s.candidates.forDeclaration? ⟨0⟩ =
      some { id := ⟨0⟩, decl := ⟨0⟩, owner := ⟨"app.Outer.Inner"⟩,
             marker := { argument := .unqualified "Item" }, location := {} } := by decide +kernel
  have hv : s.validation? ⟨0⟩ = some ⟨true, none, false⟩ := by decide +kernel
  have hargument := h s (.call (.new _ _ _) .runAll) ⟨0⟩ nested _ "Item" _ _ rfl rfl
    (by decide +kernel) hc hv
  exact absurd hargument (by decide +kernel)

end Session

end ScreenSynthesis

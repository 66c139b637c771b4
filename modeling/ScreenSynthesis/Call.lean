import ScreenSynthesis.Session

/-!
# Calls

A session is kept in one place and changed by calls. A call gives back a result or an error, and
leaves behind the session that it has come to. A whole run makes four calls in a row; the first that
fails ends it, whatever the calls before it have changed.
-/

namespace ScreenSynthesis

/-- A call that moves a session on. -/
inductive Call where
  | scan
  | validate
  | synthesizeSignatures
  | synthesizeBodies
  | runAll
deriving DecidableEq, Repr, Inhabited

/-- What a call gives back when it succeeds. -/
inductive CallResult where
  /-- How much a single phase has produced. -/
  | count (n : Nat)
  /-- How much a whole run has produced. -/
  | summary (s : Summary)
deriving DecidableEq, Repr

namespace Session

/-- An action on a session that is kept in place: also one that fails leaves a session behind. -/
abbrev Action (α : Type) := ExceptT SynthesisError (StateM Session) α

/-- A phase as an action. If it fails, it has changed nothing. -/
def perform {α : Type} (phase : Session → Except SynthesisError (α × Session)) : Action α :=
  fun s =>
    match phase s with
    | .ok (a, s) => (.ok a, s)
    | .error e => (.error e, s)

/-- A whole run as an action. -/
def performAll : Action Summary := do
  let candidates ← perform scan
  let diagnostics ← perform validate
  let signatures ← perform synthesizeSignatures
  let bodies ← perform synthesizeBodies
  return { candidates, diagnostics, signatures, bodies }

/-- What a call does. -/
def act : Call → Action CallResult
  | .scan => .count <$> perform scan
  | .validate => .count <$> perform validate
  | .synthesizeSignatures => .count <$> perform synthesizeSignatures
  | .synthesizeBodies => .count <$> perform synthesizeBodies
  | .runAll => .summary <$> performAll

/-- Makes a call: what it gives back, and the session afterwards. -/
def call (s : Session) (c : Call) : Except SynthesisError CallResult × Session := act c s

/-- The session after some calls. -/
def afterCalls (s : Session) (calls : List Call) : Session :=
  calls.foldl (fun s c => (s.call c).2) s

end Session

end ScreenSynthesis

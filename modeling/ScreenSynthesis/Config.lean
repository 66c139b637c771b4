import ScreenSynthesis.Text.WhiteSpace

/-!
# Configuration of the synthesis

The application's namespace and the package below it in which the build generates binding types.
Blank values count as absent, and white space around a value is not part of it.
-/

namespace ScreenSynthesis

/-- The package for binding types when none is configured. -/
def defaultBindingPackage : String := "databinding"

/-- Where the build generates binding types. -/
structure ScreenConfig where
  /-- The application's namespace. Without one, no binding is generated. -/
  appNamespace : Option String := none
  /-- The package of the binding types below the namespace. -/
  bindingPackage : String := defaultBindingPackage
deriving DecidableEq, Repr, Inhabited

namespace ScreenConfig

/-- The namespace, trimmed, unless it is blank. -/
def trimmedNamespace? (config : ScreenConfig) : Option String :=
  match config.appNamespace with
  | some ns =>
    let ns := Text.trim ns
    if ns = "" then none else some ns
  | none => none

/-- The package that holds the binding types: the namespace, and below it the binding package
unless that is blank. -/
def bindingNamespace? (config : ScreenConfig) : Option String :=
  match config.trimmedNamespace? with
  | some ns =>
    let package := Text.trim config.bindingPackage
    some (if package = "" then ns else ns ++ "." ++ package)
  | none => none

/-- Blank parts are left out. -/
example : bindingNamespace? { appNamespace := some " com.example " } = some "com.example.databinding" ∧
    bindingNamespace? { appNamespace := some "a", bindingPackage := " " } = some "a" ∧
    bindingNamespace? { appNamespace := some "\t" } = none := by decide

end ScreenConfig

end ScreenSynthesis

import ScreenSynthesis.Error
import ScreenSynthesis.Rendering.Identifier
import ScreenSynthesis.Rendering.Token
import ScreenSynthesis.Result
import ScreenSynthesis.Symbol

/-!
# Rendered items

Every filled symbol but a container becomes one item of its owner's `impl` block. Members of the
container become associated items; members of the owner take the controller as a parameter.
Arguments and bindings are carried as qualified names, which the runtime checks.
-/

namespace ScreenSynthesis.Rendering

/-- A word. -/
private def w (text : String) : List Token := [.word text]

/-- Punctuation, its characters joined to each other. -/
private def p (text : String) : List Token :=
  match text.toList.reverse with
  | [] => []
  | last :: front => front.reverse.map (.punct · true) ++ [.punct last false]

/-- A string literal. -/
private def lit (value : String) : List Token := [.literal value]

/-- Tokens between parentheses. -/
private def parens (inner : List Token) : List Token := [.group .parenthesis inner]

/-- Tokens between braces. -/
private def braces (inner : List Token) : List Token := [.group .brace inner]

/-- An attribute. -/
private def outerAttribute (inner : List Token) : List Token := p "#" ++ [.group .bracket inner]

/-- A path from the root of all crates. -/
private def path (parts : List String) : List Token := parts.flatMap fun part => p "::" ++ w part

/-- A type with arguments between angle brackets. -/
private def applied (type arguments : List Token) : List Token := type ++ p "<" ++ arguments ++ p ">"

/-- A call of a method. -/
private def call (method : String) (arguments : List Token) : List Token :=
  p "." ++ w method ++ parens arguments

/-- The type of controllers. -/
def controllerType : List Token := path ["screenkit_runtime", "Controller"]

/-- The type of parcels. -/
def parcelType : List Token := path ["screenkit_runtime", "Parcel"]

/-- The type of parcels that may be absent. -/
def optionalParcelType : List Token := applied (path ["core", "option", "Option"]) parcelType

/-- The type of faults. -/
def faultType : List Token := path ["screenkit_runtime", "RuntimeError"]

/-- The type of results. -/
def resultType : List Token := path ["core", "result", "Result"]

/-- The type of screens. -/
def screenType : List Token := path ["screenkit_runtime", "NavigationDescriptor"]

/-- The keyword for a visibility; private items have none. -/
def visibility : Visibility → List Token
  | .pub => w "pub"
  | .priv => []

/-- A parameter that borrows. -/
private def borrowed (name : String) (type : List Token) : List Token :=
  w name ++ p ":" ++ p "&" ++ type ++ p ","

/-- The constant with a key. -/
def keyItem (vis : List Token) (name value : String) : List Token :=
  vis ++ w "const" ++ w name ++ p ":" ++ p "&" ++ w "str" ++ p "=" ++ lit value ++ p ";"

/-- The accessor for an argument: a nullable one reads as absent when it is missing or has another
type, any other is required. -/
def accessorItem (vis : List Token) (name key type : String) (nullable : Bool) : List Token :=
  let arguments := w "controller" ++ call "arguments" []
  let stored := lit key ++ p "," ++ lit type
  let signature := vis ++ w "fn" ++ w name ++ parens (borrowed "controller" controllerType) ++ p "->"
  if nullable then
    signature ++ applied resultType (optionalParcelType ++ p "," ++ faultType ++ p ",") ++
      braces (path ["core", "result", "Result", "Ok"] ++
        parens (arguments ++ call "get_typed" stored ++ call "cloned" []))
  else
    signature ++ applied resultType (parcelType ++ p "," ++ faultType) ++
      braces (arguments ++ call "require" stored ++ call "cloned" [])

/-- The parameters of a factory, and the statements that store its argument. -/
def factoryArgument (key : String) : Option TypeRef → List Token × List Token
  | none => ([], [])
  | some type =>
    let store := w "arguments" ++ call "put" (lit key ++ p "," ++ w "arg") ++ p ";"
    if type.nullable then
      (w "arg" ++ p ":" ++ optionalParcelType,
        w "if" ++ w "let" ++ path ["core", "option", "Option", "Some"] ++ parens (w "arg") ++ p "=" ++
          w "arg" ++ braces store)
    else (w "arg" ++ p ":" ++ parcelType, store)

/-- The factory of a screen. -/
def factoryItem (vis : List Token) (name key owner : String) (parameter : Option TypeRef) :
    List Token :=
  let (parameters, store) := factoryArgument key parameter
  let bundle := path ["screenkit_runtime", "Bundle", "new"] ++ parens []
  let controller :=
    path ["screenkit_runtime", "Controller", "new"] ++ parens (lit owner) ++
      call "with_arguments" (w "arguments" ++ call "clone" [])
  outerAttribute (w "must_use") ++ vis ++ w "fn" ++ w name ++ parens parameters ++ p "->" ++
    screenType ++
    braces
      (outerAttribute (w "allow" ++ parens (w "unused_mut")) ++
        w "let" ++ w "mut" ++ w "arguments" ++ p "=" ++ bundle ++ p ";" ++ store ++
        path ["screenkit_runtime", "NavigationDescriptor", "new"] ++
        parens (lit key ++ p "," ++ w "move" ++ p "||" ++ braces controller))

/-- The property for a binding. -/
def bindingItem (vis : List Token) (name binding : String) : List Token :=
  let bound := applied (path ["std", "sync", "Arc"]) (path ["screenkit_runtime", "BoundView"])
  vis ++ w "fn" ++ w name ++
    parens (borrowed "controller" controllerType ++
      borrowed "binders" (path ["screenkit_runtime", "BinderRegistry"])) ++
    p "->" ++ applied resultType (bound ++ p "," ++ faultType ++ p ",") ++
    braces
      (w "let" ++ w "binder" ++ p "=" ++ w "binders" ++ call "get" (lit binding) ++ p "?" ++ p ";" ++
        w "controller" ++ call "binding_or_init" (w "binder" ++ call "as_ref" []))

/-- A name in lower case, with an underscore between a lower case letter and the upper case letter
behind it. Members have only the names `arg`, `binding` and `createScreen`, and for these this is
what snake case makes of a name; digits, runs of upper case letters and letters outside ASCII, for
which that rule says more, are not covered. -/
def snakeCase (name : String) : String := String.ofList (go false name.toList)
where
  /-- `lower` says that a lower case letter comes before. -/
  go (lower : Bool) : List Char → List Char
    | [] => []
    | c :: cs =>
      if c.isUpper then
        (if lower then ['_', c.toLower] else [c.toLower]) ++ go false cs
      else c :: go c.isLower cs

/-- The identifier of a name, which it must have. -/
def requireIdentifier (name : String) : Except SynthesisError String :=
  match identifier? name with
  | some word => .ok word
  | none => .error (.invalidIdentifier name)

theorem requireIdentifier_eq_ok_iff {name word : String} :
    requireIdentifier name = .ok word ↔ identifier? name = some word := by
  unfold requireIdentifier
  cases identifier? name <;> simp

/-- The item of a symbol: none for a stub or a container. -/
def item? (s : Symbol) : Except SynthesisError (Option (List Token)) :=
  let vis := visibility s.signature.visibility
  let name := s.signature.name
  match s.body with
  | none | some .empty => .ok none
  | some (.stringLiteral value) => do
    return some (keyItem vis (← requireIdentifier name) value)
  | some (.readArgument key type nullable) => do
    return some (accessorItem vis (← requireIdentifier (snakeCase name)) key type.text nullable)
  | some (.createScreen key owner parameter) => do
    return some (factoryItem vis (← requireIdentifier (snakeCase name)) key owner.text parameter)
  | some (.lazyBind binding) => do
    return some (bindingItem vis (← requireIdentifier (snakeCase name)) binding.text)

example : snakeCase "createScreen" = "create_screen" := by decide

/-! ## Items stand on one line

Keywords and punctuation are fixed, names are identifiers, and values are string literals. -/

section

open Token

variable {vis : List Token} {name : String}

theorem allOneLine_visibility (v : Visibility) : AllOneLine (visibility v) := by
  cases v <;> simp [visibility, w, AllOneLine, OneLine]

theorem allOneLine_keyItem (hvis : AllOneLine vis) (hname : '\n' ∉ name.toList) (value : String) :
    AllOneLine (keyItem vis name value) := by
  simp [keyItem, allOneLine_append, AllOneLine, OneLine, w, p, lit, hvis, hname]

theorem allOneLine_accessorItem (hvis : AllOneLine vis) (hname : '\n' ∉ name.toList)
    (key type : String) (nullable : Bool) :
    AllOneLine (accessorItem vis name key type nullable) := by
  cases nullable <;>
    simp [accessorItem, allOneLine_append, AllOneLine, OneLine, w, p, lit, path, call, parens, braces,
      applied, borrowed, controllerType, resultType, faultType, parcelType, optionalParcelType, hvis,
      hname]

theorem allOneLine_factoryArgument (key : String) (parameter : Option TypeRef) :
    AllOneLine (factoryArgument key parameter).1 ∧ AllOneLine (factoryArgument key parameter).2 := by
  cases parameter with
  | none => exact ⟨trivial, trivial⟩
  | some type =>
    cases htype : type.nullable <;>
      simp [factoryArgument, htype, AllOneLine, OneLine, w, p, lit, path, call, parens, braces, applied,
        parcelType, optionalParcelType]

theorem allOneLine_factoryItem (hvis : AllOneLine vis) (hname : '\n' ∉ name.toList)
    (key owner : String) (parameter : Option TypeRef) :
    AllOneLine (factoryItem vis name key owner parameter) := by
  obtain ⟨hparameters, hstore⟩ := allOneLine_factoryArgument key parameter
  simp [factoryItem, allOneLine_append, AllOneLine, OneLine, w, p, lit, path, call, parens, braces,
    outerAttribute, screenType, hvis, hname, hparameters, hstore]

theorem allOneLine_bindingItem (hvis : AllOneLine vis) (hname : '\n' ∉ name.toList)
    (binding : String) : AllOneLine (bindingItem vis name binding) := by
  simp [bindingItem, allOneLine_append, AllOneLine, OneLine, w, p, lit, path, call, parens, braces,
    applied, borrowed, controllerType, resultType, faultType, hvis, hname]

/-- An item stands on one line. -/
theorem allOneLine_of_item? {s : Symbol} {found : List Token} (h : item? s = .ok (some found)) :
    AllOneLine found := by
  have hvis := allOneLine_visibility s.signature.visibility
  unfold item? at h
  simp only at h
  split at h
  · exact nomatch h
  · exact nomatch h
  -- whatever makes an item has read its name as an identifier
  all_goals
    obtain ⟨word, hword, h⟩ := Result.bind_eq_ok_iff.1 h
    obtain rfl := Option.some.inj (Except.ok.inj h)
    have hname := newline_not_mem_identifier (requireIdentifier_eq_ok_iff.1 hword)
  · exact allOneLine_keyItem hvis hname _
  · exact allOneLine_accessorItem hvis hname _ _ _
  · exact allOneLine_factoryItem hvis hname _ _ _
  · exact allOneLine_bindingItem hvis hname _

end

end ScreenSynthesis.Rendering

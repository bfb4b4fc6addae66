/-
# ModuleBundler.Options -- how the files of a target are bundled

Options are written in layers, and each layer may leave any of them unset:
`Overrides`. Laying one layer over another keeps what the upper one sets and
falls back to the lower one for the rest (`Overrides.onTopOf`). `Options.resolve`
turns the global and a target's layer into `Options`, in which nothing is unset.

An empty variable name masks the one below it and stands for no variable.
-/

namespace ModuleBundler

/-! ## Layers -/

/-- The options that one layer of the configuration sets. -/
structure Overrides where
  root : Option String := none
  definitionToken : Option String := none
  concatenateOnly : Option Bool := none
  varName : Option String := none
  /-- Read from the global options only. -/
  addCompressTargets : Option Bool := none
  deriving DecidableEq, Repr

namespace Overrides

/-- The layer `upper` laid over `lower`. -/
def onTopOf (upper lower : Overrides) : Overrides where
  root := upper.root <|> lower.root
  definitionToken := upper.definitionToken <|> lower.definitionToken
  concatenateOnly := upper.concatenateOnly <|> lower.concatenateOnly
  varName := upper.varName <|> lower.varName
  addCompressTargets := upper.addCompressTargets <|> lower.addCompressTargets

end Overrides

/-! ## Effective options -/

/-- The options that one target is bundled with. -/
structure Options where
  /-- The module root; empty for none. -/
  root : String := ""
  definitionToken : String := "define("
  /-- Whether files are only put one after the other. -/
  concatenateOnly : Bool := false
  /-- The variable that each module's function starts by setting to its name. -/
  varName : Option String := none
  deriving DecidableEq, Repr

namespace Options

/-- The options of a target, its own layer laid over the global one. -/
def resolve (global target : Overrides) : Options :=
  let merged := target.onTopOf global
  let defaults : Options := {}
  { root := merged.root.getD defaults.root
    definitionToken := merged.definitionToken.getD defaults.definitionToken
    concatenateOnly := merged.concatenateOnly.getD defaults.concatenateOnly
    varName := merged.varName.filter (· ≠ "") }

/-- The module root, where one is set. -/
def moduleRoot (o : Options) : Option String :=
  if o.root = "" then none else some o.root

end Options

/-! ## Legal values -/

/-- Why a configuration cannot be used. -/
inductive ConfigError where
  | unknownTarget (name : String)
  | invalidVarName (name : String)
  | emptyDefinitionToken
  | missingCompressSection
  | emptyCompressCommand
  deriving DecidableEq, Repr

namespace ConfigError

/-- The wording of the error. -/
def message : ConfigError → String
  | unknownTarget name => "unknown target '" ++ name ++ "'"
  | invalidVarName name =>
    "invalid variable name '" ++ name ++ "': expected a JavaScript identifier"
  | emptyDefinitionToken => "definition token must not be empty"
  | missingCompressSection =>
    "compress targets requested but no [compress] section is configured"
  | emptyCompressCommand => "[compress] command is empty"

end ConfigError

/-- Whether a character may start a variable name. -/
def isNameStart (c : Char) : Bool :=
  c.isAlpha || c == '_' || c == '$'

/-- Whether a text is a variable name of ASCII letters, digits, `_` and `$` that
does not start with a digit. -/
def isVariableName (text : String) : Bool :=
  match text.toList with
  | [] => false
  | c :: rest => isNameStart c && rest.all fun d => isNameStart d || d.isDigit

namespace Overrides

/-- Refuses a layer whose variable name or definition token cannot be used; the
name is looked at first. -/
def check (o : Overrides) : Except ConfigError Unit :=
  match o.varName with
  | some name =>
    if name ≠ "" && !isVariableName name then .error (.invalidVarName name) else checkToken
  | none => checkToken
where
  /-- Refuses an empty definition token. -/
  checkToken : Except ConfigError Unit :=
    if o.definitionToken = some "" then .error .emptyDefinitionToken else .ok ()

end Overrides

end ModuleBundler

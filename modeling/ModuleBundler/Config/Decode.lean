/-
# ModuleBundler.Config.Decode -- configurations from TOML documents

The keys of a section are its fields; unknown keys mean nothing. Under `bundle`,
the key `options` holds the global options and every other key is a target.

A section other than `bundle` may also be written as an array of its fields in
order, of which those at the end may be missing; in a target, no further value
may follow. A date in place of a section is read as an entry under a key of its
own, which is no field.

Of several faults, the one that comes first in the document is reported.
-/

import ModuleBundler.Config.Basic
import ModuleBundler.Failure
import ModuleBundler.Toml.Document

namespace ModuleBundler

namespace Decode

/-- What decoding a part of a document gives. -/
abbrev Result (α : Type) := Except Toml.Error α

/-- Refuses a value that is not of the kind that stands here. -/
def refuse {α : Type} (wanted : String) (v : Toml.Placed) : Result α :=
  .error ⟨"invalid type: " ++ v.2.description ++ ", expected " ++ wanted, some v.1⟩

/-! ## Values -/

/-- A string. -/
def string : Toml.Placed → Result String
  | (_, .string s) => .ok s
  | v => refuse "a string" v

/-- A boolean. -/
def boolean : Toml.Placed → Result Bool
  | (_, .boolean b) => .ok b
  | v => refuse "a boolean" v

/-- An array of strings. -/
def strings : Toml.Placed → Result (List String)
  | (_, .array items) => items.mapM string
  | v => refuse "a sequence" v

/-- Input patterns: a string, or an array of strings. -/
def patterns : Toml.Placed → Result Patterns
  | (_, .string s) => .ok (.one s)
  | (place, .array items) =>
    match items.mapM string with
    | .ok texts => .ok (.many texts)
    | .error _ => refusePatterns place
  | (place, _) => refusePatterns place
where
  /-- Refuses a value that holds no patterns. -/
  refusePatterns (place : Toml.Span) : Result Patterns :=
    .error ⟨"a glob pattern or an array of glob patterns", some place⟩

/-- A path. -/
def path : Toml.Placed → Result Path
  | (_, .string s) => .ok ⟨s⟩
  | v => refuse "path string" v

/-! ## Sections -/

/-- A number of values of an array, in words. -/
def countOf (n : Nat) : String :=
  Nat.repr n ++ (if n = 1 then " element" else " elements")

/-- The key that a date stands under, seen as a section. -/
def dateKey : String := "$__toml_private_datetime"

/-- The entries of a section whose fields have these names in order: of a table, of
an array or of a date, which is a section of its own text. -/
def entries (title : String) (names : List String) : Toml.Placed → Result Toml.Table
  | (_, .table entries) => .ok entries
  | (_, .array items) => .ok (names.zip items)
  | (place, .dateTime d) => .ok [(dateKey, place, .string d.text)]
  | v => refuse ("struct " ++ title) v

/-- Refuses an array with more values than a section has fields. -/
def checkLength (names : List String) : Toml.Placed → Result Unit
  | (place, .array items) =>
    if names.length < items.length then
      .error ⟨"invalid length " ++ Nat.repr items.length ++ ", expected " ++
        countOf names.length ++ " in sequence", some place⟩
    else .ok ()
  | _ => .ok ()

/-- Refuses the first entry whose value cannot stand under its key. -/
def checkAll (t : Toml.Table) (check : String → Toml.Placed → Result Unit) : Result Unit :=
  t.forM fun entry => check entry.1 entry.2

/-- What stands under a key, once all entries have been checked. -/
def field {α : Type} (t : Toml.Table) (key : String) (decode : Toml.Placed → Result α) : Option α :=
  (t.get? key).bind fun v => (decode v).toOption

/-- The names of the options in order. -/
def optionNames : List String :=
  ["root", "definition_token", "concatenate_only", "var_name", "add_compress_targets"]

/-- A layer of options. With `exact`, an array must not hold more than the options. -/
def overrides (exact : Bool) (v : Toml.Placed) : Result Overrides := do
  let t ← entries "OptionOverrides" optionNames v
  checkAll t check
  if exact then checkLength optionNames v
  return {
    root := field t "root" string
    definitionToken := field t "definition_token" string
    concatenateOnly := field t "concatenate_only" boolean
    varName := field t "var_name" string
    addCompressTargets := field t "add_compress_targets" boolean }
where
  /-- Refuses a value that is not of the kind of its option. -/
  check (key : String) (v : Toml.Placed) : Result Unit :=
    if key = "root" || key = "definition_token" || key = "var_name" then discard (string v)
    else if key = "concatenate_only" || key = "add_compress_targets" then discard (boolean v)
    else .ok ()

/-- The names of what a target has in order. -/
def targetNames : List String := ["src", "files", "dest", "options"]

/-- The section of a target. -/
def target (v : Toml.Placed) : Result TargetSection := do
  let t ← entries "TargetConfig" targetNames v
  checkAll t check
  checkLength targetNames v
  return {
    src := field t "src" patterns
    files := field t "files" patterns
    dest := field t "dest" path
    options := (field t "options" (overrides true)).getD {} }
where
  /-- Refuses a value that cannot stand in the field of its key. -/
  check (key : String) (v : Toml.Placed) : Result Unit :=
    if key = "src" || key = "files" then discard (patterns v)
    else if key = "dest" then discard (path v)
    else if key = "options" then discard (overrides true v)
    else .ok ()

/-- The key of the global options under `bundle`. -/
def optionsKey : String := "options"

/-- The section of the global options and the targets. Its targets are read last,
and what is wrong with one of them is wrong with the whole section. -/
def bundle (v : Toml.Placed) : Result BundleSection := do
  let t ← match v.2 with
    | .array _ => refuse ("struct " ++ title) v
    | _ => entries title [] v
  let options ← (t.get? optionsKey).mapM (overrides false)
  let others := t.filter fun entry => entry.1 != optionsKey
  let targets ← (others.mapM named).mapError fun e => { e with place := some v.1 }
  return { options := options.getD {}, targets := (targets : Targets) }
where
  /-- What the section is called in messages. -/
  title : String := "BundleConfig"
  /-- The target of one entry, with its name. -/
  named (entry : String × Toml.Placed) : Result (String × TargetSection) := do
    return (entry.1, ← target entry.2)

/-- The section of the compress command. -/
def compress (v : Toml.Placed) : Result CompressSection := do
  let t ← entries "CompressConfig" ["command"] v
  match t.get? "command", v.2 with
  | some command, _ => return ⟨← strings command⟩
  | none, .array _ =>
    .error ⟨"invalid length 0, expected struct CompressConfig with 1 element", some v.1⟩
  | none, _ => .error ⟨"missing field " ++ Toml.inTicks "command", some v.1⟩

/-- A whole configuration. -/
def config (t : Toml.Table) : Result Config := do
  checkAll t check
  return { bundle := (field t "bundle" bundle).getD {}, compress := field t "compress" compress }
where
  /-- Refuses a value that is not the section of its key. -/
  check (key : String) (v : Toml.Placed) : Result Unit :=
    if key = "bundle" then discard (bundle v)
    else if key = "compress" then discard (compress v)
    else .ok ()

end Decode

namespace Config

/-- The configuration that a document describes. -/
def ofText (text : String) : Except Failure Config :=
  match Toml.parse text >>= Decode.config with
  | .ok c => .ok c
  | .error e => .error ⟨["failed to parse TOML config"], .toml text e⟩

/-- The configuration that a file holds. -/
def ofFile (t : FileTree) (workingDir : Location) (p : Path) : Except Failure Config :=
  match t.readText workingDir p with
  | .error e => .error ⟨["failed to read config file: " ++ p.text], .io e⟩
  | .ok text => withContext ("invalid config file: " ++ p.text) (ofText text)

end Config

end ModuleBundler

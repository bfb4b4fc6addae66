/-
# ModuleBundler.Shell.Condition -- what `test` asks

A condition is a row of words: a text that must not be empty, a sign and a text, two
texts with a sign between them, and such conditions with `!`, `-a`, `-o` and
parentheses. Up to four words are read by their number first, so that a text that
looks like a sign is no sign there.
-/

import ModuleBundler.FileTree.Resolve
import ModuleBundler.Shell.Arithmetic
import ModuleBundler.Text.Octets

namespace ModuleBundler.Shell

/-- The files that a condition asks about. -/
structure Surroundings where
  tree : FileTree
  dir : Location

/-- The directory that programs are kept in. -/
def programDirectory : Location := ["usr", "bin"]

namespace Condition

/-- The signs in front of a text. -/
def unarySigns : List String :=
  ["-r", "-w", "-x", "-e", "-f", "-d", "-c", "-b", "-p", "-u", "-g", "-k", "-s", "-t", "-z", "-n",
    "-h", "-O", "-G", "-L", "-S"]

/-- The signs between two texts. -/
def binarySigns : List String :=
  ["=", "!=", "<", ">", "-eq", "-ne", "-ge", "-gt", "-le", "-lt", "-nt", "-ot", "-ef"]

/-- The number that a text writes in base ten. -/
def number (text : String) : Except String Int :=
  let trimmed := (text.toList.dropWhile Arithmetic.isBlank).reverse
    |>.dropWhile Arithmetic.isBlank |>.reverse
  let negative := trimmed.head? = some '-'
  let body := if negative || trimmed.head? = some '+' then trimmed.drop 1 else trimmed
  if !body.isEmpty && body.all Char.isDigit then
    let n : Int := ((String.ofList body).toNat?.getD 0 : Nat)
    .ok (if negative then -n else n)
  else .error ("Illegal number: " ++ text)

/-- Whether what a path leads to has a property. -/
def fileHas (s : Surroundings) (sign path : String) : Bool :=
  let place := (s.tree.find s.dir ⟨path⟩).toOption
  let found : Option Node := place.map Prod.snd
  match sign with
  | "-f" => found.any Node.isFile
  | "-d" => found.any Node.isDirectory
  | "-x" => place.any fun entry =>
      entry.2.isDirectory || entry.1.dropLast = programDirectory
  | "-s" => found.any fun node =>
      match node with
      | .file content => !content.toBytes.isEmpty
      | _ => true
  | "-c" => path == "/dev/null"
  | "-b" => false
  | "-p" => false
  | "-S" => false
  | "-u" => false
  | "-g" => false
  | "-k" => false
  | "-h" => isLink
  | "-L" => isLink
  | _ => found.isSome || path == "/dev/null"
where
  /-- Whether the path names a link. -/
  isLink : Bool :=
    match s.tree.destination s.dir .entry ⟨path⟩ (Path.lookupSteps ⟨path⟩) with
    | .ok (.found _ (.link _)) => true
    | _ => false

/-- Whether a sign in front of a text holds of it. -/
def holdsOf (s : Surroundings) (sign text : String) : Except String Bool :=
  if sign = "-z" then .ok (text == "")
  else if sign = "-n" then .ok (text != "")
  else if sign = "-t" then (number text).map fun _ => false
  else .ok (fileHas s sign text)

/-- Whether a sign holds between two texts. -/
def holdsBetween (s : Surroundings) (a sign b : String) : Except String Bool := do
  let compare (holds : Int → Int → Bool) : Except String Bool := do
    let x ← number a
    let y ← number b
    return holds x y
  match sign with
  | "=" => return Text.toOctets a == Text.toOctets b
  | "!=" => return Text.toOctets a != Text.toOctets b
  | "<" => return a < b
  | ">" => return b < a
  | "-eq" => compare (· == ·)
  | "-ne" => compare (· != ·)
  | "-ge" => compare fun x y => y ≤ x
  | "-gt" => compare fun x y => y < x
  | "-le" => compare fun x y => x ≤ y
  | "-lt" => compare fun x y => x < y
  | "-ef" =>
    match s.tree.find s.dir ⟨a⟩, s.tree.find s.dir ⟨b⟩ with
    | .ok (x, _), .ok (y, _) => return x == y
    | _, _ => return false
  | _ => return false

/-- What a word is, given those behind it. -/
inductive Kind where
  | none
  | unary
  | binary
  | negation
  | and
  | or
  | opening
  | closing
  | operand
  deriving DecidableEq, Repr

/-- What the first of some words is. A sign in front of a text is taken for a text
where none follows, or where a sign between texts does. -/
def kind : List String → Kind
  | [] => .none
  | word :: rest =>
    if unarySigns.contains word then
      match rest with
      | [] => .operand
      | [_] => .unary
      | sign :: _ => if binarySigns.contains sign then .operand else .unary
    else if binarySigns.contains word then .binary
    else if word = "!" then .negation
    else if word = "-a" then .and
    else if word = "-o" then .or
    else if word = "(" then (if rest.isEmpty then .operand else .opening)
    else if word = ")" then .closing
    else .operand

/-- Reads words. The rest is what is left from the last word that was read on. -/
abbrev Reader := StateT (List String) (Except String)

mutual

/-- Reads alternatives, given what the first word is taken for. -/
def alternatives (s : Surroundings) : Nat → Kind → Reader Bool
  | 0, _ => throw "too deep"
  | n + 1, k => do
    let first ← together s n k
    if kind ((← get).drop 1) = .or then do
      modify (·.drop 2)
      let rest ← alternatives s n (kind (← get))
      return first || rest
    else return first

/-- Reads conditions that must hold together. -/
def together (s : Surroundings) : Nat → Kind → Reader Bool
  | 0, _ => throw "too deep"
  | n + 1, k => do
    let first ← maybeNegated s n k
    if kind ((← get).drop 1) = .and then do
      modify (·.drop 2)
      let rest ← together s n (kind (← get))
      return first && rest
    else return first

/-- Reads a condition behind any number of `!`. -/
def maybeNegated (s : Surroundings) : Nat → Kind → Reader Bool
  | 0, _ => throw "too deep"
  | n + 1, k => do
    if k = .negation then do
      let next := kind ((← get).drop 1)
      if next ≠ .none then modify (·.drop 1)
      return !(← maybeNegated s n next)
    else primary s n k

/-- Reads a single condition. -/
def primary (s : Surroundings) : Nat → Kind → Reader Bool
  | 0, _ => throw "too deep"
  | n + 1, k => do
    let words ← get
    match k, words with
    | .none, _ => return false
    | .opening, _ :: rest => do
      set rest
      if kind rest = .closing then return false
      else do
        let result ← alternatives s n (kind rest)
        modify (·.drop 1)
        if kind (← get) = .closing then return result else throw "closing paren expected"
    | .unary, sign :: text :: rest => do
      set (text :: rest)
      match holdsOf s sign text with
      | .ok b => return b
      | .error e => throw e
    | _, a :: sign :: rest =>
      if kind (sign :: rest) = .binary then
        match rest with
        | [] => throw (sign ++ ": argument expected")
        | b :: rest => do
          set (b :: rest)
          match holdsBetween s a sign b with
          | .ok b => return b
          | .error e => throw e
      else return a ≠ ""
    | _, a :: _ => return a ≠ ""
    | _, [] => return false

end

/-- Whether a condition holds whose first word is taken for something. -/
def whole (s : Surroundings) (k : Kind) (words : List String) : Except String Bool := do
  let (result, rest) ← (alternatives s (8 * (words.length + 2)) k).run words
  match rest with
  | last :: _ :: _ => throw (last ++ ": unexpected operator")
  | _ => return result

/-- Whether a condition holds. The number bounds the signs around it. -/
def holds (s : Surroundings) : Nat → List String → Except String Bool
  | 0, _ => .error "too deep"
  | n + 1, words =>
    let isBinary := words.length = 3 && (words[1]?).any binarySigns.contains
    if words.isEmpty then .ok false
    else if isBinary then whole s .operand words
    else if words.length = 3 || words.length = 4 then
      if words.head? = some "(" && words.getLast? = some ")" then
        holds s n (words.drop 1).dropLast
      else if words.head? = some "!" then (holds s n (words.drop 1)).map (!·)
      else whole s (kind words) words
    else whole s (kind words) words

end Condition

end ModuleBundler.Shell

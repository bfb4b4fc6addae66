/-
# ModuleBundler.Definition -- finding the definition call of a file

A file is a module when its first definition token (`define(` unless set
otherwise) is followed, in this order, by a dependency array `[`, the word
`function`, and that function's opening `{`. Nothing is parsed: the search does
not know comments or strings. A call whose first argument is quoted already
carries its name.

All offsets are UTF-8 byte offsets into the text that was searched.
-/

import ModuleBundler.Text.Search
import ModuleBundler.Text.Blank
import ModuleBundler.Text.Utf8

namespace ModuleBundler

/-- Where the parts of an anonymous definition call stand. -/
structure CallSpan where
  /-- Offset behind the definition token, where the name goes. -/
  afterToken : Nat
  /-- Offset of the `[` of the dependency array. -/
  dependencies : Nat
  /-- Offset of the word `function`. -/
  function : Nat
  /-- Offset behind the `{` that opens the function's body. -/
  bodyStart : Nat
  deriving DecidableEq, Repr

/-- Whether the parts of a call stand in order. -/
def CallSpan.isOrdered (s : CallSpan) : Bool :=
  s.bodyStart > s.afterToken && s.function > s.afterToken && s.bodyStart > s.function &&
    s.dependencies ≥ s.afterToken && s.function > s.dependencies

/-- Why a file is not a module. -/
inductive Rejection where
  | tokenMissing
  | dependenciesMissing
  | functionMissing
  | bodyMissing
  | outOfOrder
  deriving DecidableEq, Repr

/-- What the search for a definition call found. -/
inductive Detection where
  /-- A call without a name. -/
  | anonymous (span : CallSpan)
  /-- A call whose first argument is quoted. -/
  | named (afterToken : Nat)
  | notAModule (reason : Rejection)
  deriving DecidableEq, Repr

namespace Rejection

/-- The reason as one word, as log lines and answers write it. -/
def word : Rejection → String
  | tokenMissing => "TokenMissing"
  | dependenciesMissing => "DependenciesMissing"
  | functionMissing => "FunctionMissing"
  | bodyMissing => "BodyMissing"
  | outOfOrder => "OutOfOrder"

end Rejection

namespace Definition

/-- The word that starts the module's function. -/
def functionWord : List Char := ['f', 'u', 'n', 'c', 't', 'i', 'o', 'n']

/-- Whether the arguments of a call start, white space aside, with a quote. -/
def startsQuoted (arguments : List Char) : Bool :=
  match Text.trimStart arguments with
  | c :: _ => c == '\'' || c == '"'
  | [] => false

/-- Judges a call by its arguments, the text behind the token; `afterToken` is
the offset at which they start. -/
def detectArguments (afterToken : Nat) (arguments : List Char) : Detection :=
  if startsQuoted arguments then .named afterToken
  else match Text.splitFirst? ['['] arguments with
    | none => .notAModule .dependenciesMissing
    | some (toBracket, _) =>
      match Text.splitFirst? functionWord arguments with
      | none => .notAModule .functionMissing
      | some (toFunction, afterFunction) =>
        match Text.splitFirst? ['{'] afterFunction with
        | none => .notAModule .bodyMissing
        | some (toBrace, _) =>
          let function := afterToken + Text.byteLength toFunction
          let span : CallSpan :=
            { afterToken
              dependencies := afterToken + Text.byteLength toBracket
              function
              bodyStart :=
                function + Text.byteLength functionWord + Text.byteLength toBrace + 1 }
          if span.isOrdered then .anonymous span else .notAModule .outOfOrder

/-- Looks for the first definition call of a text. The empty token never occurs. -/
def detect (token text : List Char) : Detection :=
  if token.isEmpty then .notAModule .tokenMissing
  else match Text.splitFirst? token text with
    | none => .notAModule .tokenMissing
    | some (before, arguments) =>
      detectArguments (Text.byteLength before + Text.byteLength token) arguments

end Definition

end ModuleBundler

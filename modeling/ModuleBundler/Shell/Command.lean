/-
# ModuleBundler.Shell.Command -- what a shell script says

Words, redirections and commands, as they are once a script is read and before
anything in it is put in. A word is a row of parts: plain text, values of
parameters, the output of a script, or the value of an expression; each part knows
whether it stands in quotes, where it is neither split nor taken for a pattern.
-/

namespace ModuleBundler.Shell

mutual

/-- A part of a word. -/
inductive Part where
  | text (text : List Char) (quoted : Bool)
  | parameter (name : String) (use : Use) (quoted : Bool)
  /-- What a script writes, in its place. -/
  | output (script : Command) (quoted : Bool)
  /-- The value of an arithmetic expression. -/
  | arithmetic (expression : List Part) (quoted : Bool)

/-- What the value of a parameter is used for. With `orEmpty` an empty value counts
as none. -/
inductive Use where
  | value
  | length
  /-- The word stands in for a value that is missing. -/
  | orElse (orEmpty : Bool) (word : List Part)
  /-- The word becomes the value, if it is missing. -/
  | orSet (orEmpty : Bool) (word : List Part)
  /-- The script ends with the word as its message, if the value is missing. -/
  | orFail (orEmpty : Bool) (word : List Part)
  /-- The word stands for a value that is not missing. -/
  | whenSet (orEmpty : Bool) (word : List Part)
  /-- The value without what a pattern matches at its front or its back. -/
  | trimmed (front longest : Bool) (pattern : List Part)
  /-- No known use. -/
  | unknown

/-- What a descriptor of a command is bound to. -/
inductive Binding where
  | input (file : List Part)
  /-- A file that is emptied; `anyway` if also one that must be kept. -/
  | output (file : List Part) (anyway : Bool)
  | append (file : List Part)
  /-- A file that is read and written. -/
  | inputOutput (file : List Part)
  /-- Another descriptor, or none for `-`. -/
  | descriptor (number : List Part)
  /-- A text in the script, by its number there. -/
  | document (number : Nat)

/-- A redirection. -/
inductive Redirection where
  | mk (descriptor : Nat) (binding : Binding)

/-- A branch of a choice by patterns. -/
inductive Branch where
  | mk (patterns : List (List Part)) (body : Command)

/-- A command. -/
inductive Command where
  /-- Settings of variables, a program with its arguments, and redirections; the
  line is where the command begins. -/
  | simple (line : Nat) (settings : List (String × List Part)) (words : List (List Part))
      (redirections : List Redirection)
  /-- Commands in order. -/
  | sequence (commands : List Command)
  /-- The second command runs if the first one ends well. -/
  | both (first second : Command)
  /-- The second command runs if the first one does not end well. -/
  | either (first second : Command)
  | negation (command : Command)
  /-- Commands, each of which reads what the one before it writes. -/
  | pipeline (commands : List Command)
  /-- A command that is not waited for. -/
  | background (command : Command)
  /-- A command in a shell of its own. -/
  | subshell (command : Command)
  | redirected (line : Nat) (command : Command) (redirections : List Redirection)
  | conditional (test yes no : Command)
  /-- A command that is repeated while a test ends well, or until it does. -/
  | loop (until_ : Bool) (test body : Command)
  /-- A command that is run for each word, or for each argument if none are given. -/
  | forEach (line : Nat) (variable_ : String) (words : Option (List (List Part))) (body : Command)
  | choice (line : Nat) (subject : List Part) (branches : List Branch)
  | function (name : String) (line : Nat) (body : Command)

end

/-- A word of a script. -/
abbrev Word := List Part

instance : Inhabited Command := ⟨.sequence []⟩

namespace Command

/-- The command that does nothing. -/
def nothing : Command := .sequence []

/-- Commands in order, as one. -/
def inOrder : List Command → Command
  | [command] => command
  | commands => .sequence commands

/-- The command in a shell of its own that a command is. -/
def subshell? : Command → Option Command
  | .subshell command => some command
  | .redirected _ (.subshell command) _ => some command
  | _ => none

end Command

/-- A whole command of a script, with the texts that its redirections name. -/
structure Line where
  command : Command
  /-- The texts by their numbers. -/
  documents : List (Nat × Word) := []

/-- Whether a character may begin the name of a variable. -/
def isNameStart (c : Char) : Bool :=
  c.isAlpha || c == '_'

/-- Whether a character may stand in the name of a variable. -/
def isNameChar (c : Char) : Bool :=
  c.isAlphanum || c == '_'

/-- Whether a text is the name of a variable. -/
def isName (text : List Char) : Bool :=
  match text with
  | [] => false
  | c :: rest => isNameStart c && rest.all isNameChar

/-- The name of a variable and what stands behind the sign after it, if a text sets
a variable. -/
def setting? (text : List Char) : Option (String × List Char) :=
  match text.dropWhile isNameChar with
  | '=' :: value =>
    let name := text.takeWhile isNameChar
    if isName name then some (String.ofList name, value) else none
  | _ => none

/-- The builtins that a function cannot be named for, and whose failure ends a
script. -/
def specialBuiltins : List String :=
  [".", ":", "break", "continue", "eval", "exec", "exit", "export", "local", "readonly",
    "return", "set", "shift", "times", "trap", "unset"]

end ModuleBundler.Shell

/-
# ModuleBundler.Shell.Tool.Switch -- the options of programs

A program knows its options by letters behind one dash, of which several may stand
together, and by words behind two, of which a beginning suffices that fits no other.
An option may take a value: behind its letter, behind `=`, or as the next argument.
What is no option is an operand. Options may stand behind operands unless a program
wants its options first; behind `--`, everything is an operand.
-/

import ModuleBundler.Text.Octets
import ModuleBundler.Text.Search

namespace ModuleBundler.Shell

/-- Whether an option takes a value. -/
inductive Arity where
  | none
  | required
  /-- A value stands behind `=`, or there is none. -/
  | optional
  deriving DecidableEq, Repr

/-- An option of a program. -/
structure Switch where
  /-- What the option asks for. -/
  key : String
  letter : Option Char := none
  word : Option String := none
  /-- Whether the word takes a value. -/
  arity : Arity := .none
  /-- Whether the letter takes a value. -/
  letterTakes : Bool := arity == .required
  deriving DecidableEq, Repr

/-- Why arguments cannot be read. -/
inductive SwitchFault where
  | unknownLetter (letter : Char)
  | unknownWord (word : String)
  | ambiguous (word : String) (candidates : List String)
  | letterWithoutValue (letter : Char)
  | wordWithoutValue (word : String)
  | excessValue (word : String)
  deriving DecidableEq, Repr

/-- The fault in words. Letters are single bytes. -/
def SwitchFault.message : SwitchFault → String
  | unknownLetter letter =>
    "invalid option -- '" ++ Text.ofOctets ((Text.octetsOf letter).take 1) ++ "'"
  | unknownWord word => "unrecognized option '--" ++ word ++ "'"
  | ambiguous word candidates =>
    "option '--" ++ word ++ "' is ambiguous; possibilities:" ++
      String.join (candidates.map fun w => " '--" ++ w ++ "'")
  | letterWithoutValue letter => "option requires an argument -- '" ++ letter.toString ++ "'"
  | wordWithoutValue word => "option '--" ++ word ++ "' requires an argument"
  | excessValue word => "option '--" ++ word ++ "' doesn't allow an argument"

/-- What arguments ask for: options in order, with their values, and operands. Behind a
fault, nothing more is read. -/
structure Given where
  options : List (String × Option String) := []
  operands : List String := []
  fault : Option SwitchFault := none
  deriving DecidableEq, Repr

namespace Given

/-- Whether an option was given. -/
def has (g : Given) (key : String) : Bool :=
  g.options.any fun entry => entry.1 == key

/-- The last value that an option was given. -/
def value? (g : Given) (key : String) : Option String :=
  g.options.reverse.findSome? fun entry => if entry.1 == key then entry.2 else none

/-- Puts options in front. -/
def behind (front : List (String × Option String)) (g : Given) : Given :=
  { g with options := front ++ g.options }

/-- Puts an operand in front. -/
def behindOperand (operand : String) (g : Given) : Given :=
  { g with operands := operand :: g.operands }

end Given

namespace Switch

/-- The option that a word or its beginning stands for. -/
def named (switches : List Switch) (word : String) : Except SwitchFault Switch :=
  match switches.find? fun s => s.word == some word with
  | some s => .ok s
  | none =>
    let fitting := switches.filter fun s => s.word.any fun w => w.startsWith word
    match fitting with
    | [] => .error (.unknownWord word)
    | first :: rest =>
      if rest.all fun s => s.key == first.key && s.arity == first.arity then .ok first
      else .error (.ambiguous word (fitting.filterMap Switch.word))

/-- What comes behind the options of one argument. -/
inductive Sequel where
  | more
  /-- The value of an option, which is a word or a letter. -/
  | value (of : Switch) (isWord : Bool)
  | fault (fault : SwitchFault)

/-- Reads letters that stand together. -/
def readLetters (switches : List Switch) : List Char → List (String × Option String) × Sequel
  | [] => ([], .more)
  | c :: rest =>
    match switches.find? fun s => s.letter == some c with
    | none => ([], .fault (.unknownLetter c))
    | some s =>
      if !s.letterTakes then
        let (options, sequel) := readLetters switches rest
        ((s.key, none) :: options, sequel)
      else if rest.isEmpty then ([], .value s false)
      else ([(s.key, some (String.ofList rest))], .more)

/-- Reads a word behind two dashes. -/
def readWord (switches : List Switch) (text : List Char) :
    List (String × Option String) × Sequel :=
  let name := text.takeWhile (· ≠ '=')
  let value := match text.drop name.length with
    | [] => none
    | _ :: value => some (String.ofList value)
  match named switches (String.ofList name) with
  | .error (.unknownWord _) => ([], .fault (.unknownWord (String.ofList text)))
  | .error (.ambiguous _ candidates) => ([], .fault (.ambiguous (String.ofList text) candidates))
  | .error fault => ([], .fault fault)
  | .ok s =>
    match s.arity, value with
    | .none, some _ => ([], .fault (.excessValue (s.word.getD "")))
    | .required, none => ([], .value s true)
    | _, value => ([(s.key, value)], .more)

/-- The error of an option whose value is missing. -/
def lacking (s : Switch) (isWord : Bool) : SwitchFault :=
  if isWord then .wordWithoutValue (s.word.getD "") else .letterWithoutValue (s.letter.getD ' ')

/-- Reads arguments behind what comes first. -/
def readFrom (switches : List Switch) (optionsFirst : Bool) : Sequel → List String → Given
  | .fault fault, _ => { fault := some fault }
  | .value s isWord, [] => { fault := some (s.lacking isWord) }
  | .value s _, value :: rest =>
    (readFrom switches optionsFirst .more rest).behind [(s.key, some value)]
  | .more, [] => {}
  | .more, argument :: rest =>
    match argument.toList with
    | ['-', '-'] => { operands := rest }
    | '-' :: '-' :: text =>
      let (options, sequel) := readWord switches text
      (readFrom switches optionsFirst sequel rest).behind options
    | '-' :: c :: letters =>
      let (options, sequel) := readLetters switches (c :: letters)
      (readFrom switches optionsFirst sequel rest).behind options
    | _ =>
      if optionsFirst then { operands := argument :: rest }
      else (readFrom switches optionsFirst .more rest).behindOperand argument

/-- Reads the arguments of a program. -/
def read (switches : List Switch) (optionsFirst : Bool) (arguments : List String) : Given :=
  readFrom switches optionsFirst .more arguments

end Switch

end ModuleBundler.Shell

/-
# ModuleBundler.Shell.OptionSetting -- turning the options of a shell on and off

The options of a shell have names, and most of them letters. Arguments turn them on behind
`-` and off behind `+`; with the letter `o` an option is named by the next argument. What
arguments say is read before anything of it is done (`read`). The arguments behind it are
left over, with nothing lost (`suffix_rest`).
-/

namespace ModuleBundler.Shell.OptionSetting

/-- The options by their names and letters. Two have letters that cannot be written. -/
def names : List (String × Char) :=
  [ ("errexit", 'e'), ("noglob", 'f'), ("ignoreeof", 'I'), ("interactive", 'i'), ("monitor", 'm'),
    ("noexec", 'n'), ("stdin", 's'), ("xtrace", 'x'), ("verbose", 'v'), ("vi", 'V'),
    ("emacs", 'E'), ("noclobber", 'C'), ("allexport", 'a'), ("notify", 'b'), ("nounset", 'u'),
    ("privileged", 'p'), ("nolog", '\x00'), ("debug", '\x01') ]

/-- The letters that options are written with, in the order of the options. -/
def letters : List Char :=
  (names.map Prod.snd).filter Char.isAlpha

/-- The letters of the options that are on, as a shell gives them. -/
def shown (options : List Char) : String :=
  String.ofList (letters.filter options.contains).reverse

/-- The list of all options, as commands that set them or for people to read. -/
def listing (asCommands : Bool) (options : List Char) : String :=
  let line (entry : String × Char) : String :=
    let isOn := options.contains entry.2
    if asCommands then "set " ++ (if isOn then "-o " else "+o ") ++ entry.1 ++ "\n"
    else entry.1 ++ "".pushn ' ' (16 - entry.1.length) ++ (if isOn then "on\n" else "off\n")
  (if asCommands then "" else "Current option settings\n") ++ String.join (names.map line)

/-- What an argument asks for. -/
inductive Change where
  | turn (option : Char) (on : Bool)
  | list (asCommands : Bool)
  /-- The first argument behind the options is a script. -/
  | takeScript
  deriving DecidableEq, Repr

/-- What arguments ask for. -/
structure Reading where
  changes : List Change := []
  /-- What is no option, if there is such a thing. -/
  fault : Option String := none
  /-- The arguments behind the options. -/
  rest : List String := []
  /-- Whether the options end in a sign that the arguments are to be replaced. -/
  replaces : Bool := false
  deriving DecidableEq, Repr

/-- Puts changes in front. -/
def Reading.behind (changes : List Change) (r : Reading) : Reading :=
  { r with changes := changes ++ r.changes }

/-- What a letter asks for: of two ways to edit lines, one is on. -/
def changesOf (c : Char) (on : Bool) : List Change :=
  .turn c on ::
    (if c = 'V' && on then [.turn 'E' false] else if c = 'E' && on then [.turn 'V' false] else [])

/-- Reads letters behind a sign, with the arguments that follow. Some letters have a
meaning only where a shell is started. -/
def readLetters (isStart on : Bool) : List Char → List String → Reading
  | [], rest => { rest := rest }
  | c :: more, rest =>
    if isStart && c = 'c' then (readLetters isStart on more rest).behind [.takeScript]
    else if isStart && c = 'l' then readLetters isStart on more rest
    else if c = 'o' then
      match rest with
      | [] => (readLetters isStart on more []).behind [.list !on]
      | name :: rest =>
        match names.find? fun entry => entry.1 == name with
        | some entry => (readLetters isStart on more rest).behind [.turn entry.2 on]
        | none => { fault := some ("-o " ++ name), rest := rest }
    else if letters.contains c then (readLetters isStart on more rest).behind (changesOf c on)
    else { fault := some ("-" ++ c.toString), rest := rest }

theorem suffix_readLetters (isStart on : Bool) (cs : List Char) (rest : List String) :
    (readLetters isStart on cs rest).rest <:+ rest := by
  fun_induction readLetters isStart on cs rest with
  | case1 => exact List.suffix_refl _
  | case5 _ name rest _ _ _ _ ih => exact ih.trans (List.suffix_cons name rest)
  | case6 _ name rest _ _ _ => exact List.suffix_cons name rest
  | case8 => exact List.suffix_refl _
  | _ => assumption

/-- Reads the options in front of arguments. -/
def read (isStart : Bool) (arguments : List String) : Reading :=
  match arguments with
  | [] => {}
  | first :: rest =>
    match first.toList with
    | ['-'] =>
      { changes := if isStart then [] else [.turn 'x' false, .turn 'v' false], rest := rest }
    | ['-', '-'] => { rest := rest, replaces := !isStart }
    | sign :: cs =>
      if sign = '-' || sign = '+' then
        let r := readLetters isStart (sign == '-') cs rest
        if r.fault.isSome then r else (read isStart r.rest).behind r.changes
      else { rest := first :: rest }
    | [] => { rest := first :: rest }
termination_by arguments.length
decreasing_by
  have := (suffix_readLetters isStart (sign == '-') cs rest).length_le
  simp only [List.length_cons]
  omega

theorem suffix_rest (isStart : Bool) (arguments : List String) :
    (read isStart arguments).rest <:+ arguments := by
  fun_induction read isStart arguments with
  | case1 => exact List.suffix_refl _
  | case2 first rest => exact List.suffix_cons first rest
  | case3 first rest => exact List.suffix_cons first rest
  | case4 first rest sign cs _ _ _ _ r _ =>
    exact (suffix_readLetters isStart (sign == '-') cs rest).trans (List.suffix_cons first rest)
  | case5 first rest sign cs _ _ _ _ r _ ih =>
    exact ih.trans
      ((suffix_readLetters isStart (sign == '-') cs rest).trans (List.suffix_cons first rest))
  | case6 => exact List.suffix_refl _
  | case7 => exact List.suffix_refl _

end ModuleBundler.Shell.OptionSetting

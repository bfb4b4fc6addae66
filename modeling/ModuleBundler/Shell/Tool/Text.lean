/-
# ModuleBundler.Shell.Tool.Text -- programs that read and write texts

Programs that put texts together, count, cut and sort them, and programs that write
what their arguments say.
-/

import ModuleBundler.Shell.CharacterMap
import ModuleBundler.Shell.Condition
import ModuleBundler.Shell.Tool.Basic
import ModuleBundler.Shell.Tool.Concatenate

namespace ModuleBundler.Shell.Tool

/-- Does nothing, and ends with a status. -/
def constant (status : Nat) : Tool := fun c => { c.start with status := status }

/-- Waits, which takes no time here. -/
def sleep : Tool := fun c =>
  if c.arguments.isEmpty then c.misused "missing operand" else c.start

/-- Writes its arguments on a line. -/
def echo : Tool := fun c =>
  let isOption (arg : String) : Bool :=
    Call.isOption arg && (arg.toList.drop 1).all fun o => ['n', 'e', 'E'].contains o
  let options := c.arguments.takeWhile isOption
  let letters := options.flatMap fun arg => arg.toList.drop 1
  let text := " ".intercalate (c.arguments.drop options.length)
  let escapes := (letters.filter (· ≠ 'n')).getLast? = some 'e'
  let (bytes, ended) := if escapes then Format.textBytes text else (Text.toOctets text, false)
  c.start.put (bytes ++ if letters.contains 'n' || ended then [] else [0x0A])

/-- What is wrong with an argument of a format, in words. -/
def complaintMessage : Format.Complaint → String
  | .noNumber text => escapedQuote text ++ ": expected a numeric value"
  | .textBehind text => escapedQuote text ++ ": value not completely converted"
  | .outOfRange text => escapedQuote text ++ ": Numerical result out of range"

/-- What is wrong with a format, in words. -/
def formatMessage : Format.Fault → String
  | .invalid directive => directive ++ ": invalid conversion specification"
  | .unfinished directive => directive ++ ": invalid conversion specification"

/-- Writes a format with its arguments put in. -/
def printFormat : Tool := fun c =>
  match c.arguments with
  | [] => c.misused "missing operand"
  | format :: arguments =>
    let (format, arguments) := match format, arguments with
      | "--", format :: arguments => (format, arguments)
      | format, arguments => (format, arguments)
    let done := Format.filled .extended format arguments
    let messages := done.complaints.map complaintMessage ++ done.fault.toList.map formatMessage
    let e := messages.foldl (fun e message => e.complain c message) (c.start.put done.output)
    match done.arguments.head? with
    | some argument =>
      if done.ended || done.fault.isSome then e
      else { e.complain c ("warning: ignoring excess arguments, starting with " ++
        escapedQuote argument) with status := e.status }
    | none => e

/-- Maps, deletes or squeezes the bytes of its input. -/
def mapCharacters : Tool := fun c =>
  let (remarks, result) := CharacterMap.ofArguments c.arguments
  let e := remarks.foldl (fun e remark => { e.complain c remark.message with status := 0 }) c.start
  match result, c.input with
  | .error fault, _ =>
    e.complain c (if fault.isMisuse then c.helpHint fault.message else fault.message)
  | .ok _, .error fault => e.complain c ("read error: " ++ fault.reason)
  | .ok make, .ok input => { e.put (make input) with readsInput := true }

/-- Writes the directory it runs in. -/
def workingDirectory : Tool := fun c =>
  c.start.put (Text.toOctets ((FileTree.pathOf c.dir).text ++ "\n"))

/-- Ends well if the condition in its arguments holds. -/
def test : Tool := fun c =>
  match Condition.holds ⟨c.tree, c.dir⟩ (c.arguments.length + 1) c.arguments with
  | .ok holds => { c.start with status := if holds then 0 else 1 }
  | .error message => { c.fails message with status := 2 }

/-- `test` with a bracket behind its arguments. -/
def bracket : Tool := fun c =>
  if c.arguments.getLast? = some "]" then test { c with arguments := c.arguments.dropLast }
  else { c.fails "missing ']'" with status := 2 }

/-- A number in a column of some width. -/
def column (width n : Nat) : String :=
  let digits := Nat.repr n
  "".pushn ' ' (width - digits.length) ++ digits

/-- How many words a text holds. -/
def wordsIn (bytes : Bytes) : Nat :=
  let isBlank (b : UInt8) : Bool := b == 0x20 || 9 ≤ b && b ≤ 13
  ((bytes.splitBy fun a b => isBlank a == isBlank b).filter fun run =>
    run.head?.any (!isBlank ·)).length

/-- Counts the lines, words and bytes of files. -/
def wordCount : Tool := withOptions ['c', 'l', 'm', 'w'] fun c =>
  let wanted := if c.options.isEmpty then ['l', 'w', 'c'] else c.options
  let counts (bytes : Bytes) : List Nat :=
    (if wanted.contains 'l' then [bytes.count 0x0A] else []) ++
      (if wanted.contains 'w' then [wordsIn bytes] else []) ++
      (if wanted.contains 'm' then [(Text.ofOctets bytes).length] else []) ++
      (if wanted.contains 'c' then [bytes.length] else [])
  let sizes := c.operands.filterMap fun file => (bytesOf c.tree c.dir file).toOption
  let total := sizes.flatten.length
  let width :=
    if c.operands.isEmpty then (if (counts []).length = 1 then 1 else 7)
    else if c.operands.length = 1 && (counts []).length = 1 then 1
    else (Nat.repr total).length
  let row (ns : List Nat) (name : String) : Bytes :=
    (" ".intercalate (ns.map (column width)) ++ (if name = "" then "" else " " ++ name) ++
      "\n").toUTF8.toList
  let e := onFiles c.operands plainly (fun e file bytes =>
    e.put (row (counts bytes) (if file = "-" && c.operands.isEmpty then "" else file))) c
  if c.operands.length < 2 then e
  else
    let sums := (sizes.map counts).foldl (fun sums ns =>
      if sums.isEmpty then ns else List.zipWith (· + ·) sums ns) []
    e.put (row sums "total")

/-- How much of a text is asked for. -/
structure Extent where
  count : Nat := 10
  inBytes : Bool := false
  /-- Whether the count is from the other end. -/
  fromStart : Bool := false

/-- Reads how much of a text is asked for, and the files. -/
def extentOf : Extent → List String → Extent × List String
  | e, [] => (e, [])
  | e, "--" :: files => (e, files)
  | e, flag :: value :: rest =>
    if flag = "-n" || flag = "-c" then
      extentOf (number { e with inBytes := flag == "-c" } value) rest
    else
      match short e flag with
      | some e => extentOf e (value :: rest)
      | none =>
        let (e, files) := extentOf e (value :: rest)
        (e, flag :: files)
  | e, [flag] =>
    match short e flag with
    | some e => (e, [])
    | none => (e, [flag])
where
  /-- A count, from the start if it has a sign for that. -/
  number (e : Extent) (value : String) : Extent :=
    let digits := value.toList.filter Char.isDigit
    { e with
      count := (String.ofList digits).toNat?.getD 0
      fromStart := value.startsWith "+" || value.startsWith "-" }
  /-- An option that holds its count. -/
  short (e : Extent) (flag : String) : Option Extent :=
    match flag.toList with
    | '-' :: 'n' :: c :: rest => some (number e (String.ofList (c :: rest)))
    | '-' :: 'c' :: c :: rest => some (number { e with inBytes := true } (String.ofList (c :: rest)))
    | '-' :: c :: rest =>
      if c.isDigit then some { e with count := (String.ofList (c :: rest)).toNat?.getD 0 } else none
    | _ => none

/-- Bytes as the units that an extent counts. -/
def unitsOf (e : Extent) (bytes : Bytes) : List Bytes :=
  if e.inBytes then bytes.map ([·])
  else
    let ls := lines bytes
    if bytes.getLast? = some 0x0A then ls.map (· ++ [0x0A])
    else (ls.dropLast.map (· ++ [0x0A])) ++ ls.getLast?.toList

/-- A program that writes a part of each file, with the names of several ones. -/
def partly (select : Extent → List Bytes → List Bytes) : Tool := fun c =>
  let (extent, files) := extentOf {} c.arguments
  onFiles files (fun file r => "cannot open '" ++ file ++ "' for reading: " ++ r)
    (fun e file bytes =>
      let heading :=
        if files.length < 2 then ""
        else (if e.written.isEmpty then "" else "\n") ++ "==> " ++ file ++ " <==\n"
      e.put (heading.toUTF8.toList ++ (select extent (unitsOf extent bytes)).flatten)) c

/-- The first lines or bytes of files. -/
def head : Tool := partly fun e units =>
  units.take (if e.fromStart then units.length - e.count else e.count)

/-- The last lines or bytes of files. -/
def tail : Tool := partly fun e units =>
  units.drop (if e.fromStart then e.count - 1 else units.length - e.count)

/-- All lines of the files that are named, or of the input. -/
def allLines (c : Call) : Effect × List Bytes :=
  let e := onFiles c.operands plainly (fun e _ bytes =>
    e.put (joined (lines bytes))) c
  let read := (e.written.filter fun w => !w.1).flatMap Prod.snd
  ({ e with written := e.written.filter Prod.fst }, lines read)

/-- The number at the front of a line. -/
def leadingNumber (line : Bytes) : Int :=
  let chars := (line.map fun b => Char.ofNat b.toNat).dropWhile Arithmetic.isBlank
  let negative := chars.head? = some '-'
  let digits := (if negative then chars.drop 1 else chars).takeWhile Char.isDigit
  let n : Int := ((String.ofList digits).toNat?.getD 0 : Nat)
  if negative then -n else n

/-- Sorts lines. -/
def sort : Tool := fun c =>
  let (e, ls) := allLines c
  let before (a b : Bytes) : Bool :=
    if c.options.contains 'n' && leadingNumber a ≠ leadingNumber b then
      leadingNumber a < leadingNumber b
    else a ≤ b
  let sorted := ls.mergeSort before
  let sorted := if c.options.contains 'r' then sorted.reverse else sorted
  e.put (joined (if c.options.contains 'u' then sorted.eraseDups else sorted))

/-- Runs of equal lines, each once. -/
def unique : Tool := fun c =>
  let (e, ls) := allLines c
  let runs := ls.splitBy (· == ·)
  let runs :=
    if c.options.contains 'd' then runs.filter fun run => 1 < run.length
    else if c.options.contains 'u' then runs.filter fun run => run.length == 1
    else runs
  e.put (joined (runs.map fun run =>
    (if c.options.contains 'c' then (column 7 run.length ++ " ").toUTF8.toList else []) ++
      run.headD []))

/-- Writes its input to files, and to its output. -/
def tee : Tool := fun c =>
  let input := c.input.toOption.getD []
  c.operands.foldl (fun e file =>
    let before := if c.options.contains 'a' then (bytesOf e.tree c.dir file).toOption.getD [] else []
    match e.tree.writeFile c.dir ⟨file⟩ (.ofBytes (before ++ input)) with
    | .ok t => { e with tree := t }
    | .error error => e.complain c (plainly file (reason error)))
    { c.start.put input with readsInput := true }

/-- Turns every line around. -/
def reverseLines : Tool := fun c =>
  let (e, ls) := allLines c
  e.put (joined (ls.map fun line => (Text.ofOctets line).toList.reverse |> Format.bytesOf))

/-- The last lines first. -/
def lastFirst : Tool := fun c =>
  let (e, ls) := allLines c
  e.put (joined ls.reverse)

/-- The numbers between two, one on each line. -/
def sequence : Tool := fun c =>
  let numbers := c.arguments.map fun a => (Condition.number a).toOption
  match numbers.mapM id with
  | none => c.misused "invalid floating point argument"
  | some ns =>
    let (first, step, last) : Int × Int × Int := match ns with
      | [last] => (1, 1, last)
      | [first, last] => (first, 1, last)
      | first :: step :: last :: _ => (first, step, last)
      | [] => (1, 1, 0)
    if ns.isEmpty then c.misused "missing operand"
    else if step = 0 then c.misused "invalid Zero increment value: '0'"
    else
      let count := if (last - first) * step < 0 then 0 else (last - first).natAbs / step.natAbs + 1
      c.start.put ((List.range count).flatMap fun (n : Nat) =>
        (toString (first + step * (n : Int)) ++ "\n").toUTF8.toList)

/-- The last name of a path, without an ending. -/
def baseName : Tool := fun c =>
  match c.operands with
  | [] => c.misused "missing operand"
  | path :: rest =>
    let pieces := (Text.splitOn '/' path.toList).filter (· ≠ [])
    let name := pieces.getLastD (if path = "" then [] else ['/'])
    let ending := (rest.head?.getD "").toList
    let name :=
      if ending.isSuffixOf name && ending ≠ name then name.take (name.length - ending.length)
      else name
    c.start.put (Format.bytesOf (name ++ ['\n']))

/-- A path without its last name. -/
def directoryName : Tool := fun c =>
  if c.operands.isEmpty then c.misused "missing operand"
  else c.operands.foldl (fun e path =>
    let trimmed := (path.toList.reverse.dropWhile (· == '/'))
    let front := (trimmed.dropWhile (· ≠ '/')).dropWhile (· == '/')
    let name :=
      if front ≠ [] then front.reverse
      else if path.startsWith "/" then ['/'] else ['.']
    e.put (Format.bytesOf (name ++ ['\n']))) c.start

/-- The names in directories, sorted. -/
def list : Tool := fun c =>
  let hidden := c.options.contains 'a' || c.options.contains 'A'
  let sorted := c.operands.mergeSort (· ≤ ·)
  let (directories, others) := sorted.partition fun path =>
    (c.tree.directory? c.dir ⟨path⟩).isSome
  (if c.operands.isEmpty then ["."] else others ++ directories).foldl (fun e path =>
    match e.tree.find c.dir ⟨path⟩ with
    | .ok (location, .directory) =>
      let names := e.tree.entries.filterMap fun entry =>
        if entry.1.dropLast = location then entry.1.getLast? else none
      let own := if c.options.contains 'a' then [".", ".."] else []
      let names := own ++ (names.filter fun name => hidden || !name.startsWith ".").mergeSort (· ≤ ·)
      let heading := if c.operands.length < 2 then "" else path ++ ":\n"
      e.put (Text.toOctets (heading ++ String.join (names.map (· ++ "\n"))))
    | .ok _ => e.put (Text.toOctets (path ++ "\n"))
    | .error error =>
      { e.complain c ("cannot access '" ++ path ++ "': " ++ reason error) with status := 2 }) c.start

/-- Writes variables of its environment. -/
def printEnvironment : Tool := fun c =>
  let line (name value : String) := Text.toOctets (name ++ "=" ++ value ++ "\n")
  match c.operands with
  | [] => c.start.put (c.environment.flatMap fun entry => line entry.1 entry.2)
  | names => names.foldl (fun e name =>
      match c.environment.find? fun entry => entry.1 == name with
      | some entry => e.put (Text.toOctets (entry.2 ++ "\n"))
      | none => { e with status := 1 }) c.start

/-- The programs that read and write texts, by name. -/
def texts : List (String × Tool) :=
  [ ("true", constant 0), ("false", constant 1), ("sleep", sleep), ("sync", constant 0),
    ("echo", echo), ("printf", printFormat), ("cat", concatenate), ("tr", mapCharacters),
    ("pwd", workingDirectory), ("test", test), ("[", bracket), ("wc", wordCount), ("head", head),
    ("tail", tail), ("sort", sort), ("uniq", unique), ("tee", tee), ("rev", reverseLines),
    ("tac", lastFirst), ("seq", sequence), ("basename", baseName), ("dirname", directoryName),
    ("ls", list), ("printenv", printEnvironment) ]

end ModuleBundler.Shell.Tool

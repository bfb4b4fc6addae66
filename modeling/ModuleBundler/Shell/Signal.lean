/-
# ModuleBundler.Shell.Signal -- signals, and how a program ends

A program ends with a code, or because a signal was sent to it. Signals have
numbers, and most of them names; what a signal does to a program that says nothing
about it is `Signal.ends`.
-/

namespace ModuleBundler.Shell

/-- A signal, by its number. -/
structure Signal where
  number : Nat
  deriving DecidableEq, Repr

namespace Signal

/-- The number of signals, the 0 that is none of them included. -/
def count : Nat := 65

/-- The name, the wording in messages, and the number of each named signal; the
first of two names of one number is the one in messages. -/
def named : List (String × String × Nat) :=
  [ ("HUP", "Hangup", 1), ("INT", "Interrupt", 2), ("QUIT", "Quit", 3),
    ("ILL", "Illegal instruction", 4), ("TRAP", "Trace/breakpoint trap", 5),
    ("ABRT", "Aborted", 6), ("BUS", "Bus error", 7), ("FPE", "Floating point exception", 8),
    ("KILL", "Killed", 9), ("USR1", "User defined signal 1", 10),
    ("SEGV", "Segmentation fault", 11), ("USR2", "User defined signal 2", 12),
    ("PIPE", "Broken pipe", 13), ("ALRM", "Alarm clock", 14), ("TERM", "Terminated", 15),
    ("STKFLT", "Stack fault", 16), ("CHLD", "Child exited", 17), ("CONT", "Continued", 18),
    ("STOP", "Stopped (signal)", 19), ("TSTP", "Stopped", 20), ("TTIN", "Stopped (tty input)", 21),
    ("TTOU", "Stopped (tty output)", 22), ("URG", "Urgent I/O condition", 23),
    ("XCPU", "CPU time limit exceeded", 24), ("XFSZ", "File size limit exceeded", 25),
    ("VTALRM", "Virtual timer expired", 26), ("PROF", "Profiling timer expired", 27),
    ("WINCH", "Window changed", 28), ("IO", "I/O possible", 29), ("PWR", "Power failure", 30),
    ("SYS", "Bad system call", 31) ]

/-- The least number of a signal that programs may use as they like. -/
def firstFree : Nat := 34

/-- The name of a signal, if it has one. -/
def name? (s : Signal) : Option String :=
  (named.find? fun entry => entry.2.2 == s.number).map Prod.fst

/-- What is said of a program that a signal ended. -/
def wording (s : Signal) : String :=
  match named.find? fun entry => entry.2.2 == s.number with
  | some entry => entry.2.1
  | none =>
    if firstFree ≤ s.number then "Real-time signal " ++ Nat.repr (s.number - firstFree)
    else "Unknown signal " ++ Nat.repr s.number

/-- The name under which a shell lists a signal. It has none for the stack fault. -/
def listedName (s : Signal) : String :=
  if s.number = firstFree then "RTMIN"
  else if s.number + 1 = count then "RTMAX"
  else if firstFree < s.number then
    if s.number < firstFree + 16 then "RTMIN+" ++ Nat.repr (s.number - firstFree)
    else "RTMAX-" ++ Nat.repr (count - 1 - s.number)
  else match s.name? with
    | some name => if s.number = 16 then Nat.repr 16 else name
    | none => Nat.repr s.number

/-- The signal of a number or a listed name, in any case of letters; 0 is taken for
a signal that does nothing. -/
def ofText? (text : String) : Option Signal :=
  if text ≠ "" && text.toList.all Char.isDigit then
    match text.toNat? with
    | some n => if n < count then some ⟨n⟩ else none
    | none => none
  else
    ((List.range (count - 1)).map fun n => (⟨n + 1⟩ : Signal)).find? fun s =>
      s.listedName.toUpper == text.toUpper

/-- Whether a signal ends a program that says nothing about it. -/
def ends (s : Signal) : Bool :=
  s.number ≠ 0 && !([17, 18, 19, 20, 21, 22, 23, 28].contains s.number)

end Signal

/-- How a program ended. -/
inductive ExitStatus where
  | code (n : Nat)
  | signal (s : Signal)
  deriving DecidableEq, Repr

namespace ExitStatus

/-- Whether a program ended well. -/
def isSuccess (s : ExitStatus) : Bool :=
  s == .code 0

/-- The wording of the status. -/
def message : ExitStatus → String
  | code n => "exit status: " ++ Nat.repr n
  | signal s =>
    "signal: " ++ Nat.repr s.number ++
      match s.name? with
      | some name => " (SIG" ++ name ++ ")"
      | none => ""

/-- The status as the one number that a shell sees. -/
def number : ExitStatus → Nat
  | code n => n
  | signal s => 128 + s.number

end ExitStatus

end ModuleBundler.Shell

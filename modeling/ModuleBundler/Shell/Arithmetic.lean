/-
# ModuleBundler.Shell.Arithmetic -- expressions in whole numbers

Expressions are over signed numbers of 64 bits, which wrap around; variables stand
for the numbers that their values write, and can be set. What `&&`, `||` and `?`
leave aside is not computed, but it has to be an expression. Reading always gives an
expression: where the text could not be read on, it holds the reason, which is met
when what stands before has been computed.
-/

import ModuleBundler.Shell.Command

namespace ModuleBundler.Shell.Arithmetic

/-- What combines two numbers. -/
inductive Operation where
  | times | over | rest | plus | minus | left | right
  | less | atMost | greater | atLeast | equal | unequal | bitAnd | bitXor | bitOr
  deriving DecidableEq, Repr

/-- What changes one number. -/
inductive Sign where
  | minus | isZero | complement
  deriving DecidableEq, Repr

/-- An expression. -/
inductive Expression where
  | number (n : Int64)
  | variable (name : String)
  | sign (s : Sign) (e : Expression)
  | binary (op : Operation) (a b : Expression)
  | both (a b : Expression)
  | either (a b : Expression)
  | choice (test yes no : Expression)
  /-- Sets a variable, to what an operation makes of its value if there is one. -/
  | set (name : String) (op : Option Operation) (e : Expression)
  /-- Stands where the text could not be read on. -/
  | unread (reason : String)
  /-- Computes one expression, and then another for its value. -/
  | followed (e next : Expression)
  deriving Repr

/-- Why an expression has no value. -/
inductive Fault where
  | malformed (reason : String)
  | divisionByZero
  /-- The value of a variable is no number. -/
  | notANumber (value : String)
  deriving DecidableEq, Repr

/-- The fault of an expression in words. -/
def Fault.message (expression : String) : Fault → String
  | malformed reason => "arithmetic expression: " ++ reason ++ ": \"" ++ expression ++ "\""
  | divisionByZero => "arithmetic expression: division by zero: \"" ++ expression ++ "\""
  | notANumber value => "Illegal number: " ++ value

/-! ## Numbers -/

/-- The value of a digit in a base of up to sixteen. -/
def digitValue? (base : Nat) (c : Char) : Option Nat :=
  let value :=
    if c.isDigit then c.toNat - '0'.toNat
    else if 'a' ≤ c && c ≤ 'f' then c.toNat - 'a'.toNat + 10
    else if 'A' ≤ c && c ≤ 'F' then c.toNat - 'A'.toNat + 10
    else 16
  if value < base then some value else none

/-- Reads digits in front of a text. -/
def digits (base : Nat) (soFar : Nat) : List Char → Nat × List Char
  | [] => (soFar, [])
  | c :: rest =>
    match digitValue? base c with
    | some d => digits base (soFar * base + d) rest
    | none => (soFar, c :: rest)

/-- The greatest number. -/
def greatest : Nat := Int64.maxValue.toInt.toNat

/-- Reads a number without sign in front of a text: octal behind a `0`, hexadecimal
behind `0x`. -/
def unsigned : List Char → Nat × List Char
  | '0' :: x :: c :: rest =>
    if (x = 'x' || x = 'X') && (digitValue? 16 c).isSome then digits 16 0 (c :: rest)
    else digits 8 0 (x :: c :: rest)
  | '0' :: rest => digits 8 0 rest
  | text => digits 10 0 text

/-- A number of 64 bits that is as close as can be. -/
def clamped (negative : Bool) (n : Nat) : Int64 :=
  if negative then Int64.ofInt (-(min n (greatest + 1) : Nat)) else Int64.ofNat (min n greatest)

/-- Whether a character is a blank in a number's text. -/
def isBlank (c : Char) : Bool :=
  [' ', '\t', '\n', '\x0b', '\x0c', '\r'].contains c

/-- The number that a text writes, which is 0 for an empty one. -/
def number? (text : List Char) : Option Int64 :=
  let text := text.dropWhile isBlank
  let negative := text.head? = some '-'
  let body := if negative || text.head? = some '+' then text.drop 1 else text
  if body.head?.any Char.isDigit then
    let (n, rest) := unsigned body
    if rest.all isBlank then some (clamped negative n) else none
  else if text.isEmpty then some 0
  else none

/-! ## Reading -/

/-- A token of an expression. -/
inductive Token where
  | number (n : Int64)
  | name (name : String)
  | sign (text : String)
  deriving DecidableEq, Repr

/-- The signs, the longer ones first. -/
def signs : List String :=
  ["<<=", ">>=", "<<", ">>", "<=", ">=", "==", "!=", "&&", "||", "+=", "-=", "*=", "/=", "%=", "&=",
    "^=", "|=", "+", "-", "*", "/", "%", "<", ">", "=", "!", "~", "&", "^", "|", "(", ")", "?", ":"]

/-- Splits an expression into tokens; a character that begins none is a sign of its
own, which nothing expects. The number bounds the characters. -/
def tokens : Nat → List Char → List Token
  | 0, _ => []
  | _ + 1, [] => []
  | n + 1, c :: rest =>
    if isBlank c then tokens n rest
    else if c.isDigit then
      let (value, rest) := unsigned (c :: rest)
      .number (clamped false value) :: tokens n rest
    else if isNameStart c then
      .name (String.ofList ((c :: rest).takeWhile isNameChar)) ::
        tokens n ((c :: rest).dropWhile isNameChar)
    else match signs.find? fun s => s.toList.isPrefixOf (c :: rest) with
      | some s => .sign s :: tokens n ((c :: rest).drop s.length)
      | none => .sign c.toString :: tokens n rest

/-- Reads tokens. -/
abbrev Reader := StateM (List Token)

/-- The operations by how close they bind, the closest first. -/
def levels : List (List (String × Operation)) :=
  [ [("*", .times), ("/", .over), ("%", .rest)], [("+", .plus), ("-", .minus)],
    [("<<", .left), (">>", .right)],
    [("<", .less), ("<=", .atMost), (">", .greater), (">=", .atLeast)],
    [("==", .equal), ("!=", .unequal)], [("&", .bitAnd)], [("^", .bitXor)], [("|", .bitOr)] ]

/-- The operation of a sign that sets a variable; none for the plain one. -/
def setter? (sign : String) : Option (Option Operation) :=
  if sign = "=" then some none
  else if sign.endsWith "=" then
    let sign := (sign.dropEnd 1).toString
    (levels.flatten.find? fun entry => entry.1 == sign && sign != "<" && sign != ">").map
      fun entry => some entry.2
  else none

/-- Reads no further. -/
def refuse (reason : String) : Reader Expression := do
  set ([] : List Token)
  return .unread reason

mutual

/-- Reads an expression that may set a variable. -/
def assignment : Nat → Reader Expression
  | 0 => refuse "expecting primary"
  | n + 1 => do
    match ← get with
    | .name name :: .sign s :: rest =>
      match setter? s with
      | some op => do
        set rest
        return .set name op (← assignment n)
      | none => conditional n
    | _ => conditional n

/-- Reads a choice between two expressions, or what stands in its place. -/
def conditional : Nat → Reader Expression
  | 0 => refuse "expecting primary"
  | n + 1 => do
    let test ← disjunction n
    match ← get with
    | .sign "?" :: rest => do
      set rest
      let yes ← assignment n
      match ← get with
      | .sign ":" :: rest => do
        set rest
        return .choice test yes (← conditional n)
      | _ => return .choice test yes (← refuse "expecting ':'")
    | _ => return test

/-- Reads alternatives. -/
def disjunction : Nat → Reader Expression
  | 0 => refuse "expecting primary"
  | n + 1 => do
    let a ← conjunction n
    match ← get with
    | .sign "||" :: rest => do
      set rest
      return .either a (← disjunction n)
    | _ => return a

/-- Reads conditions that hold together. -/
def conjunction : Nat → Reader Expression
  | 0 => refuse "expecting primary"
  | n + 1 => do
    let a ← operations n levels.reverse
    match ← get with
    | .sign "&&" :: rest => do
      set rest
      return .both a (← conjunction n)
    | _ => return a

/-- Reads operations of the given levels, the loosest first. -/
def operations : Nat → List (List (String × Operation)) → Reader Expression
  | 0, _ => refuse "expecting primary"
  | n + 1, [] => primary n
  | n + 1, level :: closer => do
    operationsFrom n level closer (← operations n closer)

/-- Reads the operations of one level behind an expression. -/
def operationsFrom : Nat → List (String × Operation) → List (List (String × Operation)) →
    Expression → Reader Expression
  | 0, _, _, _ => refuse "expecting primary"
  | n + 1, level, closer, a => do
    match ← get with
    | .sign s :: rest =>
      match level.find? fun entry => entry.1 == s with
      | some (_, op) => do
        set rest
        operationsFrom n level closer (.binary op a (← operations n closer))
      | none => return a
    | _ => return a

/-- Reads a number, a variable, or a part in parentheses, and the signs in front. -/
def primary : Nat → Reader Expression
  | 0 => refuse "expecting primary"
  | n + 1 => do
    match ← get with
    | .number k :: rest => do
      set rest
      return .number k
    | .name name :: rest => do
      set rest
      return .variable name
    | .sign "(" :: rest => do
      set rest
      let e ← assignment n
      match ← get with
      | .sign ")" :: rest => do
        set rest
        return e
      | _ => return .followed e (← refuse "expecting ')'")
    | .sign "+" :: rest => do
      set rest
      primary n
    | .sign "-" :: rest => do
      set rest
      return .sign .minus (← primary n)
    | .sign "!" :: rest => do
      set rest
      return .sign .isZero (← primary n)
    | .sign "~" :: rest => do
      set rest
      return .sign .complement (← primary n)
    | _ => refuse "expecting primary"

end

/-- Reads a whole expression. -/
def read (text : List Char) : Expression :=
  let all := tokens (text.length + 1) text
  let (e, rest) := (assignment (16 * (all.length + 2))).run all
  if rest.isEmpty then e else .followed e (.unread "expecting EOF")

/-! ## Values -/

/-- A truth value as a number. -/
def ofBool (b : Bool) : Int64 := if b then 1 else 0

/-- The number that an operation gives. -/
def Operation.apply (op : Operation) (a b : Int64) : Except Fault Int64 :=
  match op with
  | .times => .ok (a * b)
  | .over => if b = 0 then .error .divisionByZero else .ok (a / b)
  | .rest => if b = 0 then .error .divisionByZero else .ok (a % b)
  | .plus => .ok (a + b)
  | .minus => .ok (a - b)
  | .left => .ok (a <<< b)
  | .right => .ok (a >>> b)
  | .less => .ok (ofBool (a < b))
  | .atMost => .ok (ofBool (a ≤ b))
  | .greater => .ok (ofBool (b < a))
  | .atLeast => .ok (ofBool (b ≤ a))
  | .equal => .ok (ofBool (a == b))
  | .unequal => .ok (ofBool (a != b))
  | .bitAnd => .ok (a &&& b)
  | .bitXor => .ok (a ^^^ b)
  | .bitOr => .ok (a ||| b)

/-- The number that a sign makes of one. -/
def Sign.apply (s : Sign) (a : Int64) : Int64 :=
  match s with
  | .minus => -a
  | .isZero => ofBool (a == 0)
  | .complement => ~~~a

/-- Why an expression that is left aside could not be read to its end, if so. -/
def Expression.unreadPart? : Expression → Option String
  | .number _ | .variable _ => none
  | .unread reason => some reason
  | .sign _ e | .set _ _ e => e.unreadPart?
  | .binary _ a b | .both a b | .either a b | .followed a b =>
    a.unreadPart? <|> b.unreadPart?
  | .choice test yes no => test.unreadPart? <|> yes.unreadPart? <|> no.unreadPart?

section Computing

variable {m : Type → Type} [Monad m]

/-- Leaves an expression aside. -/
def Expression.pass (e : Expression) : ExceptT Fault m Unit :=
  match e.unreadPart? with
  | some reason => throw (.malformed reason)
  | none => pure ()

/-- The number that a variable stands for. -/
def valueOf (look : String → m String) (name : String) : ExceptT Fault m Int64 := do
  let text ← look name
  match number? text.toList with
  | some n => return n
  | none => throw (.notANumber text)

/-- The value of an expression, given how the text of a variable is had and how a
variable is set. -/
def Expression.value (look : String → m String) (put : String → Int64 → m Unit) :
    Expression → ExceptT Fault m Int64
  | .number n => return n
  | .variable name => valueOf look name
  | .unread reason => throw (.malformed reason)
  | .sign s e => return s.apply (← e.value look put)
  | .binary op a b => do
    let x ← a.value look put
    let y ← b.value look put
    ExceptT.mk (pure (op.apply x y))
  | .both a b => do
    let x ← a.value look put
    if x = 0 then
      b.pass
      return 0
    else return ofBool ((← b.value look put) != 0)
  | .either a b => do
    let x ← a.value look put
    if x = 0 then return ofBool ((← b.value look put) != 0)
    else
      b.pass
      return 1
  | .choice test yes no => do
    let x ← test.value look put
    if x = 0 then
      yes.pass
      no.value look put
    else
      let y ← yes.value look put
      no.pass
      return y
  | .set name op e => do
    let new ← e.value look put
    let result ← match op with
      | none => pure new
      | some op => do
        let old ← valueOf look name
        ExceptT.mk (pure (op.apply old new))
    put name result
    return result
  | .followed e next => do
    let _ ← e.value look put
    next.value look put

/-- The value of the expression that a text writes, or its first fault. -/
def evaluate (look : String → m String) (put : String → Int64 → m Unit) (text : List Char) :
    m (Except Fault Int64) :=
  ((read text).value look put).run

end Computing

end ModuleBundler.Shell.Arithmetic

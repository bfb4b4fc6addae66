/-
# ModuleBundler.Proofs.Json.Reader -- JSON texts read back

A reader for JSON texts of strings and objects, written against the format and not against the
printer: blanks may stand between any two tokens, a character of a string may be written as it
is, with a short escape, or by its code in hexadecimal digits of either case, and characters
outside of the basic plane by a surrogate pair. It refuses what the format refuses: a control
character that stands as it is, half a surrogate pair, a comma that nothing follows. Numbers,
arrays and literals are no values here, and are refused as well. Members are kept in order, as
they stand.

The text of every value is read back as the value (`read_pretty_append`), so that no two values
have the same text.
-/

import Mathlib.Tactic.SplitIfs
import ModuleBundler.Json

namespace ModuleBundler.Json

/-! ## Strings -/

/-- The value of a hexadecimal digit of either case. -/
def hexValue? (c : Char) : Option Nat :=
  if '0' ≤ c ∧ c ≤ '9' then some (c.toNat - '0'.toNat)
  else if 'a' ≤ c ∧ c ≤ 'f' then some (c.toNat - 'a'.toNat + 10)
  else if 'A' ≤ c ∧ c ≤ 'F' then some (c.toNat - 'A'.toNat + 10)
  else none

/-- The code that four hexadecimal digits stand for. -/
def unit? (a b c d : Char) : Option Nat := do
  let a ← hexValue? a
  let b ← hexValue? b
  let c ← hexValue? c
  let d ← hexValue? d
  return ((a * 16 + b) * 16 + c) * 16 + d

/-- Whether a code is the first half of a surrogate pair. -/
def isHigh (unit : Nat) : Bool :=
  0xD800 ≤ unit && unit < 0xDC00

/-- Whether a code is the second half of a surrogate pair. -/
def isLow (unit : Nat) : Bool :=
  0xDC00 ≤ unit && unit < 0xE000

/-- The character of a surrogate pair. -/
def ofPair (high low : Nat) : Char :=
  Char.ofNat (0x10000 + (high - 0xD800) * 0x400 + (low - 0xDC00))

/-- The character that a letter behind a backslash stands for. -/
def unescaped? (c : Char) : Option Char :=
  if c = '"' ∨ c = '\\' ∨ c = '/' then some c
  else if c = 'b' then some '\x08'
  else if c = 'f' then some '\x0c'
  else if c = 'n' then some '\n'
  else if c = 'r' then some '\r'
  else if c = 't' then some '\t'
  else none

/-- Reads a string from behind its first quote: its characters, and the text behind it. -/
def readString : List Char → Option (List Char × List Char)
  | [] => none
  | '"' :: rest => some ([], rest)
  | '\\' :: 'u' :: a :: b :: c :: d :: rest => do
    let unit ← unit? a b c d
    if isHigh unit then
      match rest with
      | '\\' :: 'u' :: a :: b :: c :: d :: rest => do
        let low ← unit? a b c d
        if isLow low then (readString rest).map fun read => (ofPair unit low :: read.1, read.2)
        else none
      | _ => none
    else if isLow unit then none
    else (readString rest).map fun read => (Char.ofNat unit :: read.1, read.2)
  | '\\' :: c :: rest => do
    let c ← unescaped? c
    (readString rest).map fun read => (c :: read.1, read.2)
  | c :: rest =>
    if c.toNat < 0x20 || c == '\\' then none
    else (readString rest).map fun read => (c :: read.1, read.2)

theorem hexValue?_hexDigit (n : Nat) : hexValue? (hexDigit n) = some (n % 16) := by
  have hdigits : ∀ d < 16, hexValue? (Nat.digitChar d) = some d := by decide
  exact hdigits (n % 16) (Nat.mod_lt n (by decide))

/-- The code of a control character is read back from its digits. -/
theorem unit?_hexDigit {n : Nat} (h : n < 0x20) :
    unit? '0' '0' (hexDigit (n / 16)) (hexDigit n) = some n := by
  have hzero : hexValue? '0' = some 0 := rfl
  simp [unit?, hzero, hexValue?_hexDigit]
  omega

/-- How a character stands in a string: behind a backslash as a letter, by its code, or as it is. -/
theorem escape_cases (c : Char) :
    (∃ letter, escape c = ['\\', letter] ∧ unescaped? letter = some c) ∨
    (c.toNat < 0x20 ∧
      escape c = ['\\', 'u', '0', '0', hexDigit (c.toNat / 16), hexDigit c.toNat]) ∨
    (0x20 ≤ c.toNat ∧ c ≠ '"' ∧ c ≠ '\\' ∧ escape c = [c]) := by
  unfold escape
  split_ifs with hquote hback h h h h h hcontrol
  · exact .inl ⟨'"', rfl, by rw [hquote]; rfl⟩
  · exact .inl ⟨'\\', rfl, by rw [hback]; rfl⟩
  · exact .inl ⟨'b', rfl, by rw [h]; rfl⟩
  · exact .inl ⟨'f', rfl, by rw [h]; rfl⟩
  · exact .inl ⟨'n', rfl, by rw [h]; rfl⟩
  · exact .inl ⟨'r', rfl, by rw [h]; rfl⟩
  · exact .inl ⟨'t', rfl, by rw [h]; rfl⟩
  · exact .inr (.inl ⟨hcontrol, rfl⟩)
  · exact .inr (.inr ⟨Nat.le_of_not_lt hcontrol, hquote, hback, rfl⟩)

/-- A string that goes on behind a character. -/
def readOn (c : Char) (rest : List Char) : Option (List Char × List Char) :=
  (readString rest).map fun read => (c :: read.1, read.2)

theorem readString_letter {c letter : Char} (h : unescaped? letter = some c) (rest : List Char) :
    readString ('\\' :: letter :: rest) = readOn c rest := by
  have hletter : letter ≠ 'u' := by
    rintro rfl
    cases h
  rw [readString]
  · simp [h, readOn]
  · intro a b c d rest' hu
    exact absurd hu hletter

theorem readString_unit {a b c d : Char} {unit : Nat} (h : unit? a b c d = some unit)
    (hplain : unit < 0xD800) (rest : List Char) :
    readString ('\\' :: 'u' :: a :: b :: c :: d :: rest) = readOn (Char.ofNat unit) rest := by
  have hhigh : isHigh unit = false := by
    simp only [isHigh, Bool.and_eq_false_iff, decide_eq_false_iff_not]
    omega
  have hlow : isLow unit = false := by
    simp only [isLow, Bool.and_eq_false_iff, decide_eq_false_iff_not]
    omega
  rw [readString]
  simp [h, hhigh, hlow, readOn]

theorem readString_plain {c : Char} (hcontrol : 0x20 ≤ c.toNat) (hquote : c ≠ '"')
    (hback : c ≠ '\\') (rest : List Char) : readString (c :: rest) = readOn c rest := by
  have hshown : ¬ c.toNat < 0x20 := Nat.not_lt.mpr hcontrol
  rw [readString]
  · simp [hshown, hback, readOn]
  · exact hquote
  · exact fun _ _ _ _ _ hc _ => hback hc
  · exact fun _ _ hc _ => hback hc

/-- A character is read back from the way it stands in a string. -/
theorem readString_escape (c : Char) (rest : List Char) :
    readString (escape c ++ rest) = readOn c rest := by
  obtain ⟨letter, hescape, hletter⟩ | ⟨hcontrol, hescape⟩ | ⟨hcontrol, hquote, hback, hescape⟩ :=
    escape_cases c
  · rw [hescape]
    exact readString_letter hletter rest
  · have hunit := readString_unit (unit?_hexDigit hcontrol) (by omega) rest
    rw [Char.ofNat_toNat] at hunit
    rw [hescape]
    exact hunit
  · rw [hescape]
    exact readString_plain hcontrol hquote hback rest

/-- A string is read back from its text between quotes, whatever stands behind. -/
theorem readString_quote (text rest : List Char) :
    readString (text.flatMap escape ++ '"' :: rest) = some (text, rest) := by
  induction text with
  | nil => rfl
  | cons c more ih =>
    rw [List.flatMap_cons, List.append_assoc, readString_escape, readOn, ih]
    rfl

/-- What is read of a string is taken away from the text. -/
theorem length_lt_of_readString {text read after : List Char}
    (h : readString text = some (read, after)) : after.length < text.length := by
  have hmore {c : Char} {rest read : List Char} (hread : readOn c rest = some (read, after)) :
      ∃ more, readString rest = some (more, after) := by
    obtain ⟨⟨more, after'⟩, hrest, hpair⟩ := Option.map_eq_some_iff.mp hread
    cases hpair
    exact ⟨more, hrest⟩
  fun_induction readString text generalizing read with
  | case1 => cases h
  | case2 rest =>
    cases h
    exact Nat.lt_succ_self _
  | case3 a b c d rest ihPair ih =>
    obtain ⟨unit, -, h⟩ := Option.bind_eq_some_iff.mp h
    split at h
    · split at h
      · obtain ⟨low, -, h⟩ := Option.bind_eq_some_iff.mp h
        split at h
        · obtain ⟨more, hrest⟩ := hmore h
          have hlt := ihPair hrest
          simp only [List.length_cons]
          omega
        · cases h
      · cases h
    · split at h
      · cases h
      · obtain ⟨more, hrest⟩ := hmore h
        have hlt := ih hrest
        simp only [List.length_cons]
        omega
  | case4 letter rest _ ih =>
    obtain ⟨c, -, h⟩ := Option.bind_eq_some_iff.mp h
    obtain ⟨more, hrest⟩ := hmore h
    have hlt := ih hrest
    simp only [List.length_cons]
    omega
  | case5 => cases h
  | case6 c rest _ _ _ _ ih =>
    obtain ⟨more, hrest⟩ := hmore h
    exact Nat.lt_succ_of_lt (ih hrest)

/-! ## Values -/

/-- The parts that a text is made of beside blanks. -/
inductive Token where
  | opening
  | closing
  | colon
  | comma
  | text (text : String)
  deriving DecidableEq, Repr

/-- Whether a character may stand between any two tokens. -/
def isBlank (c : Char) : Bool :=
  c == ' ' || c == '\t' || c == '\n' || c == '\r'

/-- The token that a single character is. -/
def punctuation? (c : Char) : Option Token :=
  if c = '\x7b' then some .opening
  else if c = '\x7d' then some .closing
  else if c = ':' then some .colon
  else if c = ',' then some .comma
  else none

/-- An object around what is being read: the members before, and the key of the next one. -/
abbrev Enclosing := List (String × Json) × String

/-- What a reader has read, by what may follow. The objects around it come innermost first. -/
inductive Reader where
  /-- A value. -/
  | value (around : List Enclosing)
  /-- A key, behind the members of an object; its end, where there are none. -/
  | key (members : List (String × Json)) (around : List Enclosing)
  /-- A colon. -/
  | colon (members : List (String × Json)) (name : String) (around : List Enclosing)
  /-- A comma, or the end of the object. -/
  | behind (members : List (String × Json)) (around : List Enclosing)
  /-- Nothing. -/
  | done (v : Json)

namespace Reader

/-- A value has been read. -/
def put : List Enclosing → Json → Reader
  | [], v => .done v
  | (members, name) :: around, v => .behind (members ++ [(name, v)]) around

/-- Reads one more token, where it may stand. -/
def step : Reader → Token → Option Reader
  | .value around, .text text => some (put around (.string text))
  | .value around, .opening => some (.key [] around)
  | .key members around, .text name => some (.colon members name around)
  | .key [] around, .closing => some (put around (.object []))
  | .colon members name around, .colon => some (.value ((members, name) :: around))
  | .behind members around, .comma => some (.key members around)
  | .behind members around, .closing => some (put around (.object members))
  | _, _ => none

/-- Reads a text to its end. -/
def feed (r : Reader) (text : List Char) : Option Reader :=
  match text with
  | [] => some r
  | c :: rest =>
    if isBlank c then feed r rest
    else if c = '"' then
      match _hread : readString rest with
      | some (text, after) => (r.step (.text (String.ofList text))).bind fun r => feed r after
      | none => none
    else (punctuation? c).bind fun token => (r.step token).bind fun r => feed r rest
termination_by text.length
decreasing_by
  · exact Nat.lt_succ_self _
  · exact Nat.lt_succ_of_lt (length_lt_of_readString _hread)
  · exact Nat.lt_succ_self _

end Reader

/-- The value that a text is. -/
def read (text : String) : Option Json :=
  match Reader.feed (.value []) text.toList with
  | some (.done v) => some v
  | _ => none

namespace Reader

variable (r : Reader) (rest : List Char)

theorem feed_blank {c : Char} (h : isBlank c = true) : r.feed (c :: rest) = r.feed rest := by
  rw [feed.eq_def]
  dsimp only
  rw [if_pos h]

theorem feed_blanks {blanks : List Char} (h : ∀ c ∈ blanks, isBlank c = true) :
    r.feed (blanks ++ rest) = r.feed rest := by
  induction blanks with
  | nil => rfl
  | cons c more ih =>
    rw [List.cons_append, feed_blank r _ (h c List.mem_cons_self)]
    exact ih fun d hd => h d (List.mem_cons_of_mem c hd)

theorem feed_newLine (level : Nat) : r.feed (newLine level ++ rest) = r.feed rest := by
  apply feed_blanks
  intro c hc
  rcases List.mem_cons.mp hc with rfl | hspace
  · rfl
  · rw [List.eq_of_mem_replicate hspace]
    rfl

theorem feed_quote {r' : Reader} {text : List Char}
    (h : r.step (.text (String.ofList text)) = some r') :
    r.feed (quote text ++ rest) = r'.feed rest := by
  have hquote : quote text ++ rest = '"' :: (text.flatMap escape ++ '"' :: rest) := by
    simp [quote]
  rw [hquote, feed.eq_def]
  dsimp only
  rw [if_neg (by decide), if_pos rfl]
  split
  · next hread =>
    rw [readString_quote] at hread
    cases hread
    rw [h, Option.bind_some]
  · next hread =>
    rw [readString_quote] at hread
    cases hread

theorem feed_punctuation {r' : Reader} {c : Char} {token : Token} (hc : punctuation? c = some token)
    (h : r.step token = some r') : r.feed (c :: rest) = r'.feed rest := by
  have hquote : c ≠ '"' := by
    rintro rfl
    cases hc
  have hblank : ¬ isBlank c = true := by
    intro hblank
    simp only [isBlank, Bool.or_eq_true, beq_iff_eq] at hblank
    rcases hblank with ((rfl | rfl) | rfl) | rfl <;> cases hc
  rw [feed.eq_def]
  dsimp only
  rw [if_neg hblank, if_neg hquote, hc, Option.bind_some, h, Option.bind_some]

end Reader

mutual

/-- The text of a value is read as the value, whatever is being read around it. -/
theorem feed_render (v : Json) (level : Nat) (around : List Enclosing) (rest : List Char) :
    Reader.feed (.value around) (render level v ++ rest) = (Reader.put around v).feed rest := by
  match v with
  | .string text =>
    rw [render]
    exact Reader.feed_quote _ _ (by rw [String.ofList_toList, Reader.step])
  | .object [] =>
    show Reader.feed (.value around) ('\x7b' :: '\x7d' :: rest) = _
    rw [Reader.feed_punctuation _ _ rfl rfl,
      Reader.feed_punctuation _ _ rfl rfl]
  | .object (first :: others) =>
    have htext : render level (.object (first :: others)) ++ rest =
        '\x7b' :: (renderMember (level + 1) first ++ (renderRest (level + 1) others ++
          (newLine level ++ '\x7d' :: rest))) := by
      simp [render]
    rw [htext, Reader.feed_punctuation _ _ rfl rfl,
      feed_renderMember first, feed_renderRest others, Reader.feed_newLine,
      Reader.feed_punctuation _ _ rfl rfl]
    rfl

theorem feed_renderMember (member : String × Json) (level : Nat) (members : List (String × Json))
    (around : List Enclosing) (rest : List Char) :
    Reader.feed (.key members around) (renderMember level member ++ rest) =
      Reader.feed (.behind (members ++ [member]) around) rest := by
  match member with
  | (name, v) =>
    have htext : renderMember level (name, v) ++ rest =
        newLine level ++ (quote name.toList ++ (':' :: ' ' :: (render level v ++ rest))) := by
      simp [renderMember]
    have hname : Reader.step (.key members around) (.text (String.ofList name.toList)) =
        some (.colon members name around) := by
      rw [String.ofList_toList, Reader.step]
    rw [htext, Reader.feed_newLine, Reader.feed_quote _ _ hname,
      Reader.feed_punctuation _ _ rfl rfl, Reader.feed_blank _ _ rfl,
      feed_render v]
    rfl

theorem feed_renderRest (others : List (String × Json)) (level : Nat)
    (members : List (String × Json)) (around : List Enclosing) (rest : List Char) :
    Reader.feed (.behind members around) (renderRest level others ++ rest) =
      Reader.feed (.behind (members ++ others) around) rest := by
  match others with
  | [] => simp [renderRest]
  | first :: others =>
    have htext : renderRest level (first :: others) ++ rest =
        ',' :: (renderMember level first ++ (renderRest level others ++ rest)) := by
      simp [renderRest]
    rw [htext, Reader.feed_punctuation _ _ rfl rfl, feed_renderMember first,
      feed_renderRest others, List.append_assoc, List.singleton_append]

end

/-- The text of a value is read back as the value, also with blanks behind it. -/
theorem read_pretty_append (v : Json) (ending : String)
    (h : ∀ c ∈ ending.toList, isBlank c = true) : read (pretty v ++ ending) = some v := by
  have hblanks := Reader.feed_blanks (.done v) [] h
  rw [List.append_nil, Reader.feed] at hblanks
  have hfeed : Reader.feed (.value []) (pretty v ++ ending).toList = some (.done v) := by
    rw [String.toList_append, pretty, String.toList_ofList, feed_render, ← hblanks]
    rfl
  rw [read, hfeed]

example : read "\x7b \"a\" : \x7b\x7d , \"a\":\"\\u0041\\ud83d\\uDE00\" \x7d" =
    some (.object [("a", .object []), ("a", .string "A😀")]) := by cbv

example : read "\x7b\"a\": \"b\",\x7d" = none := by cbv

/-! ## Objects made of entries -/

/-- Entries with keys of their own are the members of the object that they give. -/
theorem ofEntries_of_nodup {entries : List (String × Json)} (h : (entries.map Prod.fst).Nodup) :
    ofEntries entries = .object entries :=
  congrArg Json.object (Keyed.putAll_of_nodup h)

end ModuleBundler.Json

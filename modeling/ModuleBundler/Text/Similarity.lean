/-
# ModuleBundler.Text.Similarity -- words that are close to a misspelt one

Two words are the more similar the more characters they share at about the same
places, and the fewer of these stand in another order (`similarity`, a fraction from
zero to one). A word of a vocabulary is close to one that is not in it if the two are
more similar than seven tenths.
-/

namespace ModuleBundler.Text

/-- A fraction of two numbers. -/
structure Fraction where
  numerator : Nat
  denominator : Nat
  deriving DecidableEq, Repr

/-- Whether a fraction is less than another. -/
def Fraction.isLess (a b : Fraction) : Bool :=
  a.numerator * b.denominator < b.numerator * a.denominator

/-- The characters of a text that stand again in another one, at most so far from
their own place, and the places where they stand there. Each place is taken once. -/
def shared (reach : Nat) (a b : List Char) : List Char × List Nat :=
  a.zipIdx.foldl (fun (found : List Char × List Nat) entry =>
    let place := (List.range b.length).find? fun j =>
      entry.2 - reach ≤ j && j ≤ entry.2 + reach && b[j]? == some entry.1 && !found.2.contains j
    match place with
    | some j => (found.1 ++ [entry.1], j :: found.2)
    | none => found) ([], [])

/-- How similar two texts are. -/
def similarity (a b : List Char) : Fraction :=
  let (chars, places) := shared (max a.length b.length / 2 - 1) a b
  let others := (b.zipIdx.filter fun entry => places.contains entry.2).map Prod.fst
  let swaps := ((chars.zip others).filter fun pair => pair.1 != pair.2).length / 2
  let n := chars.length
  if a.isEmpty && b.isEmpty then ⟨1, 1⟩
  else if n = 0 then ⟨0, 1⟩
  else ⟨n * n * (a.length + b.length) + (n - swaps) * (a.length * b.length),
    3 * n * (a.length * b.length)⟩

/-- How similar words have to be. -/
def closeness : Fraction := ⟨7, 10⟩

/-- The words of a vocabulary that are close to a word, the most similar last. -/
def closeTo (word : String) (vocabulary : List String) : List String :=
  let scored := vocabulary.map fun other => (similarity word.toList other.toList, other)
  let close := scored.filter fun entry => closeness.isLess entry.1
  (close.foldl (fun (sorted : List (Fraction × String)) entry =>
    sorted.takeWhile (fun other => !entry.1.isLess other.1) ++ entry ::
      sorted.dropWhile fun other => !entry.1.isLess other.1) []).map Prod.snd

end ModuleBundler.Text

import Supergraph.Text.Integer

/-!
# Suggestions for unknown names

A message about an unknown name lists known names that are written alike. How far two names are
apart is the least number of insertions, deletions, replacements and swaps of neighbours that turn
one into the other; a difference in case alone counts as one.

## Main definitions

* `editDistance` — how far two words are apart
* `suggestions` — the known names close to a name, nearest first
* `didYouMeanA`, `didYouMean` — the sentence that lists them
-/

namespace Supergraph.Sdl

/-- The next row of the table of distances. `above` is the previous row and `beforeAbove` the row
before it; `c` and `previous` are the characters of this row and of the previous one. -/
def nextRow (b : List Char) (above beforeAbove : Array Nat) (c : Char) (previous : Option Char)
    (row : Nat) : Array Nat :=
  (b.zip (none :: b.map some)).zipIdx.foldl (fun current ((d, beforeD), j) =>
    let cost := if c == d then 0 else 1
    let cell := min (min (above.getD (j + 1) 0 + 1) (current.getD j 0 + 1)) (above.getD j 0 + cost)
    let swapped := beforeD == some c && previous == some d
    current.push (if swapped then min cell (beforeAbove.getD (j - 1) 0 + 1) else cell))
    #[row]

/-- The last row of the table of distances from the words that begin with `a` to those that begin
with `b`. -/
def lastRow (b : List Char) : Nat → Option Char → Array Nat → Array Nat → List Char → Array Nat
  | _, _, _, above, [] => above
  | row, previous, beforeAbove, above, c :: rest =>
    lastRow b (row + 1) (some c) above (nextRow b above beforeAbove c previous row) rest

/-- How many insertions, deletions, replacements and swaps of neighbours turn one word into the
other. -/
def editDistance (a b : List Char) : Nat :=
  (lastRow b 1 none #[] (Array.range (b.length + 1)) a).back?.getD 0

/-- How far a known name is from the given one, if that is not too far. -/
def distanceWithin (threshold : Nat) (name option : String) : Option Nat :=
  let a := name.toList.map Char.toLower
  let b := option.toList.map Char.toLower
  if name = option then some 0
  else if a = b then some 1
  else
    let distance := editDistance a b
    if distance ≤ threshold then some distance else none

/-- A part of a name for sorting: numbers by their value, other parts by their characters. -/
inductive NamePart where
  | word (cs : List Char)
  | number (value : Nat) (cs : List Char)

/-- The parts of a name: words, which may be empty, with numbers between them. -/
def nameParts (cs : List Char) : List NamePart :=
  let groups := cs.splitBy fun a b => a.isDigit == b.isDigit
  let parts := groups.map fun g =>
    if g.all Char.isDigit then NamePart.number (Text.numberOfDigits g) g else .word g
  let parts := if cs.head?.any Char.isDigit then .word [] :: parts else parts
  if cs.getLast?.any Char.isDigit then parts ++ [.word []] else parts

/-- Compares lists of characters by code points. -/
def compareChars : List Char → List Char → Ordering
  | [], [] => .eq
  | [], _ :: _ => .lt
  | _ :: _, [] => .gt
  | a :: as, b :: bs => (compare a.toNat b.toNat).then (compareChars as bs)

/-- Compares names part by part. -/
def compareParts : List NamePart → List NamePart → Ordering
  | [], [] => .eq
  | [], _ :: _ => .lt
  | _ :: _, [] => .gt
  | .word a :: as, .word b :: bs => (compareChars a b).then (compareParts as bs)
  | .number m a :: as, .number n b :: bs =>
    ((compare m n).then (compareChars a b)).then (compareParts as bs)
  | .word _ :: _, .number .. :: _ => .lt
  | .number .. :: _, .word _ :: _ => .gt

/-- The known names that are written like the given one, nearest first. -/
def suggestions (name : String) (known : List String) : List String :=
  let threshold := name.length * 2 / 5 + 1
  let near := known.eraseDups.filterMap fun option =>
    (distanceWithin threshold name option).map fun d => (d, option)
  let sorted := near.mergeSort fun x y =>
    ((compare x.1 y.1).then (compareParts (nameParts x.2.toList) (nameParts y.2.toList))).isLE
  sorted.map Prod.snd

/-- The sentence that asks whether one of the names was meant, nothing when there is none. At most
five are listed, after a word for what they are. -/
def didYouMeanA (kind : String) (names : List String) : String :=
  let quoted := (names.take 5).map fun n => "'" ++ n ++ "'"
  match quoted with
  | [] => ""
  | [a] => " Did you mean " ++ kind ++ a ++ "?"
  | [a, b] => " Did you mean " ++ kind ++ a ++ " or " ++ b ++ "?"
  | many => " Did you mean " ++ kind ++ String.intercalate ", " many.dropLast ++ ", or "
      ++ many.getLastD "" ++ "?"

/-- The sentence without a word for what the names are. -/
def didYouMean (names : List String) : String :=
  didYouMeanA "" names

end Supergraph.Sdl

import ImageLaunch.Binary64

/-!
# ImageLaunch.Text.Similarity

How alike two words are, by the Jaro measure: the mean of the share of matching
characters in the one word, in the other, and of the matches that stand in the
same order.  A character matches an equal one that is not further away than half
the longer word, less one.

The measure is a binary floating-point number, rounded after every step: words
that are equally alike by the rule may differ in their last bit, and then the larger
one counts as more alike.
-/

namespace ImageLaunch.Text

/-- Strikes out the first free occurrence of `c` among the characters from
position `low` up to, not including, `high`; `position` is where the list
starts. -/
def strike (c : Char) (low high position : Nat) : List (Char × Bool) → Option (List (Char × Bool))
  | [] => none
  | (d, struck) :: rest =>
    if high ≤ position then none
    else if low ≤ position ∧ d = c ∧ struck = false then some ((d, true) :: rest)
    else (strike c low high (position + 1) rest).map ((d, struck) :: ·)

/-- Matches the characters of the first word, from position `position` on, with
those of the second; gives the matched characters of the first and the second
word with its matches struck out. -/
def matchings (range position : Nat) :
    List Char → List (Char × Bool) → List Char × List (Char × Bool)
  | [], second => ([], second)
  | c :: rest, second =>
    match strike c (position - range) (position + range + 1) 0 second with
    | some second =>
      let (found, second) := matchings range (position + 1) rest second
      (c :: found, second)
    | none => matchings range (position + 1) rest second

/-- The Jaro similarity of two words, in units of `Binary64`. -/
def similarity (first second : String) : Nat :=
  let a := first.toList
  let b := second.toList
  if a = [] ∧ b = [] then Binary64.one
  else
    let range := max a.length b.length / 2 - 1
    let (found, struck) := matchings range 0 a (b.map (·, false))
    let partners := (struck.filter (·.2)).map (·.1)
    let moved := ((found.zip partners).filter fun (c, d) => c ≠ d).length / 2
    let matched := found.length
    if matched = 0 then 0
    else
      let shares := Binary64.sum (Binary64.quotient matched a.length)
        (Binary64.quotient matched b.length)
      Binary64.nearest (Binary64.sum shares (Binary64.quotient (matched - moved) matched)) 3

/-- Words more alike than this are worth suggesting. -/
def likeness : Nat := Binary64.quotient 7 10

/-- Puts a word in its place in an ascending list, after its equals. -/
def insertBy (score : Nat) (word : String) : List (Nat × String) → List (Nat × String)
  | [] => [(score, word)]
  | (other, kept) :: rest =>
    if other ≤ score then (other, kept) :: insertBy score word rest
    else (score, word) :: (other, kept) :: rest

/-- The candidates that are like a word, the most alike last; of equals, the one
named later. -/
def alike (word : String) (candidates : List String) : List String :=
  let scored := candidates.filterMap fun candidate =>
    let score := similarity word candidate
    if likeness < score then some (score, candidate) else none
  (scored.foldl (fun sorted (score, candidate) => insertBy score candidate sorted) []).map (·.2)

end ImageLaunch.Text

/-!
# Similarity of names

`jaroWinkler` is the Jaro–Winkler similarity of two texts, counted in characters: 1 for equal texts
and 0 for texts that share nothing. Each character of the first text, in order, takes the first free
place of the second text that holds the same character and lies within a window around its own
position; the similarity weighs how many characters found a place and how many of them are out of
order, and texts that start alike get a bonus.

The result is a double, so the order of the operations is part of the definition.

`closest` picks from a list of names the one with the greatest score above a floor. It asks of the
scores only an order, so that what it picks can be told for every way of scoring.
-/

namespace Callsite.Text

/-! ## Matching the characters of two texts -/

namespace Jaro

/-- A place of the second text: its character, and whether it is taken. -/
structure Place where
  char : Char
  taken : Bool
deriving DecidableEq

/-- Takes the first free place that holds `c` at a position from `low` up to `high`, where
`position` is the position of the first of the places; `none` if there is no such place. -/
def take? (c : Char) (low high : Nat) : Nat → List Place → Option (List Place)
  | _, [] => none
  | position, place :: rest =>
    if low ≤ position && position ≤ high && place.char == c && !place.taken then
      some ({ place with taken := true } :: rest)
    else
      (take? c low high (position + 1) rest).map (place :: ·)

/-- The characters of the first text that find a place, in order, with the places then taken.
`reach` is the half width of the window and `position` the position of the first character. -/
def matching (reach : Nat) : Nat → List Char → List Place → List Char × List Place
  | _, [], places => ([], places)
  | position, c :: rest, places =>
    match take? c (position - reach) (position + reach) 0 places with
    | none => matching reach (position + 1) rest places
    | some places =>
      let (found, places) := matching reach (position + 1) rest places
      (c :: found, places)

end Jaro

/-- The Jaro similarity of two texts. -/
def jaro (first second : String) : Float :=
  let a := first.toList
  let b := second.toList
  if a.isEmpty && b.isEmpty then 1
  else if a.isEmpty || b.isEmpty then 0
  else
    let reach := max a.length b.length / 2 - 1
    let (found, places) := Jaro.matching reach 0 a (b.map (⟨·, false⟩))
    let taken := (places.filter (·.taken)).map (·.char)
    let matched := Float.ofNat found.length
    let outOfOrder := ((found.zip taken).filter fun pair => pair.1 != pair.2).length / 2
    if found.isEmpty then 0
    else
      (matched / Float.ofNat a.length + matched / Float.ofNat b.length
        + (matched - Float.ofNat outOfOrder) / matched) / 3

/-- The number of characters, at most four, that two texts have in common at their start. -/
def commonStart (first second : String) : Nat :=
  (((first.toList.take 4).zip second.toList).takeWhile fun pair => pair.1 == pair.2).length

/-- The Jaro–Winkler similarity: the Jaro similarity, raised for a common start once it is above
0.7. -/
def jaroWinkler (first second : String) : Float :=
  let similarity := jaro first second
  if 0.7 < similarity then
    similarity + (0.1 * Float.ofNat (commonStart first second)) * (1 - similarity)
  else similarity

/-! ## The closest of several names -/

section Closest

variable {σ : Type} [LT σ] [DecidableLT σ]

/-- Whether `name` goes before `other`: its score is greater, or neither score is greater and
`name` is the smaller text. -/
def precedes (score : String → σ) (name other : String) : Bool :=
  score other < score name || (!decide (score name < score other) && name < other)

/-- The better of a name and the best name so far. -/
def better (score : String → σ) (best : Option String) (name : String) : Option String :=
  match best with
  | none => some name
  | some other => if precedes score name other then some name else some other

/-- The name with the greatest score above `floor`; of names with equal scores, the smallest. -/
def closest (score : String → σ) (floor : σ) (names : List String) : Option String :=
  (names.filter fun name => floor < score name).foldl (better score) none

end Closest

end Callsite.Text

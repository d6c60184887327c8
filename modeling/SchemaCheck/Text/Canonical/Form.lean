import SchemaCheck.Text.Canonical.Class
import SchemaCheck.Text.Canonical.Composition

/-! The composed form of a text, the same for all texts that are canonically equivalent: characters
are taken apart, their marks are put in order, and what can be joined is joined again. -/
namespace SchemaCheck.Canonical

/-- The first Hangul syllable. -/
def syllables : Nat := 0xAC00

/-- The first letter that starts a syllable. -/
def firstLetters : Nat := 0x1100

/-- The first vowel. -/
def vowels : Nat := 0x1161

/-- Stands for no last letter; those that end a syllable follow. -/
def lastLetters : Nat := 0x11A7

def firstLetterCount : Nat := 19
def vowelCount : Nat := 21
def lastLetterCount : Nat := 28

def syllableCount : Nat := firstLetterCount * vowelCount * lastLetterCount

def isSyllable (point : Nat) : Bool := syllables ≤ point && point < syllables + syllableCount

/-- The letters of a syllable. -/
def letters (syllable : Nat) : List Nat :=
  let index := syllable - syllables
  let last := index % lastLetterCount
  let vowel := index / lastLetterCount % vowelCount
  let first := index / lastLetterCount / vowelCount
  let stem := [firstLetters + first, vowels + vowel]
  if last = 0 then stem else stem ++ [lastLetters + last]

/-- The syllable that two characters make: a first letter and a vowel, or a syllable without a
last letter and that letter. -/
def syllable? (a b : Nat) : Option Nat :=
  if firstLetters ≤ a && a < firstLetters + firstLetterCount &&
      vowels ≤ b && b < vowels + vowelCount then
    some (syllables + ((a - firstLetters) * vowelCount + (b - vowels)) * lastLetterCount)
  else if isSyllable a && (a - syllables) % lastLetterCount == 0 &&
      lastLetters < b && b < lastLetters + lastLetterCount then
    some (a + (b - lastLetters))
  else none

/-- How deep composites nest. -/
def compositeDepth : Nat := 3

/-- A composite taken apart from its end, so many times at most. -/
def takeApart : Nat → Nat → List Nat
  | 0, point => [point]
  | depth + 1, point =>
    match composites.find? point with
    | some (first :: marks) => takeApart depth first ++ marks
    | _ => [point]

def decompose (point : Nat) : List Nat :=
  if isSyllable point then letters point
  else
    match replacements.find? point with
    | some points => points
    | none => takeApart compositeDepth point

/-- Moves a mark behind the marks of lower classes that follow it. -/
def insertMark (mark : Nat) : List Nat → List Nat
  | [] => [mark]
  | next :: rest =>
    if 0 < combiningClass next && combiningClass next < combiningClass mark then
      next :: insertMark mark rest
    else mark :: next :: rest

/-- Marks between two other characters in the order of their classes; those of one class stay in
the order in which they are written. -/
def reorder (points : List Nat) : List Nat := points.foldr insertMark []

/-- The character that two make. The second one is a mark or a letter beyond Latin. -/
def pair? (a b : Nat) : Option Nat :=
  if b < 0x300 then none
  else (syllable? a b).orElse fun _ => (composites.sources [a, b]).head?

/-- A mark is kept from the character before by one of no lower class in between. -/
def isBlocked (between : List Nat) (point : Nat) : Bool :=
  match between with
  | [] => false
  | last :: _ => combiningClass point ≤ combiningClass last

/-- Joins to a starter what follows; `between` is what stayed apart from it, last first. -/
def joinFrom (starter : Nat) (between : List Nat) : List Nat → List Nat
  | [] => starter :: between.reverse
  | point :: rest =>
    match if isBlocked between point then none else pair? starter point with
    | some joined => joinFrom joined between rest
    | none =>
      if combiningClass point = 0 then starter :: (between.reverse ++ joinFrom point [] rest)
      else joinFrom starter (point :: between) rest

/-- Marks before the first starter stay as they are. -/
def join : List Nat → List Nat
  | [] => []
  | point :: rest =>
    if combiningClass point = 0 then joinFrom point [] rest else point :: join rest

/-- The composed form of a text. -/
def compose (points : List Nat) : List Nat := join (reorder (points.flatMap decompose))

end SchemaCheck.Canonical

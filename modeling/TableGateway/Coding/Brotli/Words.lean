import TableGateway.Coding.Brotli.WordList
import TableGateway.Coding.Output

-- Words of a list that a stream refers to, each in many forms: cut at one end, with
-- capital letters, and with texts around it.

namespace TableGateway.Coding.Brotli

/-! ## Forms -/

/-- What is done to the word itself. -/
inductive Change where
  | same
  | withoutStart (count : Nat)
  | withoutEnd (count : Nat)
  | firstRaised
  | raised
deriving Repr, DecidableEq

/-- A form of words: what is in front, what is done to the word, and what follows. -/
structure WordForm where
  before : String
  change : Change
  after : String
deriving Repr, DecidableEq

/-- The forms of words, in order. -/
def wordForms : List WordForm :=
  [⟨"", .same, ""⟩, ⟨"", .same, " "⟩, ⟨" ", .same, " "⟩, ⟨"", .withoutStart 1, ""⟩,
    ⟨"", .firstRaised, " "⟩, ⟨"", .same, " the "⟩, ⟨" ", .same, ""⟩, ⟨"s ", .same, " "⟩,
    ⟨"", .same, " of "⟩, ⟨"", .firstRaised, ""⟩, ⟨"", .same, " and "⟩, ⟨"", .withoutStart 2, ""⟩,
    ⟨"", .withoutEnd 1, ""⟩, ⟨", ", .same, " "⟩, ⟨"", .same, ", "⟩, ⟨" ", .firstRaised, " "⟩,
    ⟨"", .same, " in "⟩, ⟨"", .same, " to "⟩, ⟨"e ", .same, " "⟩, ⟨"", .same, "\""⟩,
    ⟨"", .same, "."⟩, ⟨"", .same, "\">"⟩, ⟨"", .same, "\n"⟩, ⟨"", .withoutEnd 3, ""⟩,
    ⟨"", .same, "]"⟩, ⟨"", .same, " for "⟩, ⟨"", .withoutStart 3, ""⟩, ⟨"", .withoutEnd 2, ""⟩,
    ⟨"", .same, " a "⟩, ⟨"", .same, " that "⟩, ⟨" ", .firstRaised, ""⟩, ⟨"", .same, ". "⟩,
    ⟨".", .same, ""⟩, ⟨" ", .same, ", "⟩, ⟨"", .withoutStart 4, ""⟩, ⟨"", .same, " with "⟩,
    ⟨"", .same, "'"⟩, ⟨"", .same, " from "⟩, ⟨"", .same, " by "⟩, ⟨"", .withoutStart 5, ""⟩,
    ⟨"", .withoutStart 6, ""⟩, ⟨" the ", .same, ""⟩, ⟨"", .withoutEnd 4, ""⟩,
    ⟨"", .same, ". The "⟩, ⟨"", .raised, ""⟩, ⟨"", .same, " on "⟩, ⟨"", .same, " as "⟩,
    ⟨"", .same, " is "⟩, ⟨"", .withoutEnd 7, ""⟩, ⟨"", .withoutEnd 1, "ing "⟩,
    ⟨"", .same, "\n\t"⟩, ⟨"", .same, ":"⟩, ⟨" ", .same, ". "⟩, ⟨"", .same, "ed "⟩,
    ⟨"", .withoutStart 9, ""⟩, ⟨"", .withoutStart 7, ""⟩, ⟨"", .withoutEnd 6, ""⟩,
    ⟨"", .same, "("⟩, ⟨"", .firstRaised, ", "⟩, ⟨"", .withoutEnd 8, ""⟩, ⟨"", .same, " at "⟩,
    ⟨"", .same, "ly "⟩, ⟨" the ", .same, " of "⟩, ⟨"", .withoutEnd 5, ""⟩,
    ⟨"", .withoutEnd 9, ""⟩, ⟨" ", .firstRaised, ", "⟩, ⟨"", .firstRaised, "\""⟩,
    ⟨".", .same, "("⟩, ⟨"", .raised, " "⟩, ⟨"", .firstRaised, "\">"⟩, ⟨"", .same, "=\""⟩,
    ⟨" ", .same, "."⟩, ⟨".com/", .same, ""⟩, ⟨" the ", .same, " of the "⟩,
    ⟨"", .firstRaised, "'"⟩, ⟨"", .same, ". This "⟩, ⟨"", .same, ","⟩, ⟨".", .same, " "⟩,
    ⟨"", .firstRaised, "("⟩, ⟨"", .firstRaised, "."⟩, ⟨"", .same, " not "⟩, ⟨" ", .same, "=\""⟩,
    ⟨"", .same, "er "⟩, ⟨" ", .raised, " "⟩, ⟨"", .same, "al "⟩, ⟨" ", .raised, ""⟩,
    ⟨"", .same, "='"⟩, ⟨"", .raised, "\""⟩, ⟨"", .firstRaised, ". "⟩, ⟨" ", .same, "("⟩,
    ⟨"", .same, "ful "⟩, ⟨" ", .firstRaised, ". "⟩, ⟨"", .same, "ive "⟩, ⟨"", .same, "less "⟩,
    ⟨"", .raised, "'"⟩, ⟨"", .same, "est "⟩, ⟨" ", .firstRaised, "."⟩, ⟨"", .raised, "\">"⟩,
    ⟨" ", .same, "='"⟩, ⟨"", .firstRaised, ","⟩, ⟨"", .same, "ize "⟩, ⟨"", .raised, "."⟩,
    ⟨"\u00a0", .same, ""⟩, ⟨" ", .same, ","⟩, ⟨"", .firstRaised, "=\""⟩, ⟨"", .raised, "=\""⟩,
    ⟨"", .same, "ous "⟩, ⟨"", .raised, ", "⟩, ⟨"", .firstRaised, "='"⟩, ⟨" ", .firstRaised, ","⟩,
    ⟨" ", .raised, "=\""⟩, ⟨" ", .raised, ", "⟩, ⟨"", .raised, ","⟩, ⟨"", .raised, "("⟩,
    ⟨"", .raised, ". "⟩, ⟨" ", .raised, "."⟩, ⟨"", .raised, "='"⟩, ⟨" ", .raised, ". "⟩,
    ⟨" ", .firstRaised, "=\""⟩, ⟨" ", .raised, "='"⟩, ⟨" ", .firstRaised, "='"⟩]

/-! ## Capital letters -/

/-- The byte with some bits turned. -/
def turned (mask : UInt8) : List UInt8 → List UInt8
  | [] => []
  | b :: rest => (b ^^^ mask) :: rest

/-- The letter at the start raised, and the bytes after it. The first byte tells how
many bytes a letter has, and the last of them is changed in the same way for all
letters, whatever comes of that. -/
def raisedLetter : List UInt8 → List UInt8 × List UInt8
  | [] => ([], [])
  | b :: rest =>
    if b < 0xC0 then
      (if Text.byte 'a' ≤ b ∧ b ≤ Text.byte 'z' then turned 32 [b] else [b], rest)
    else if b < 0xE0 then (b :: turned 32 (rest.take 1), rest.drop 1)
    else (b :: (rest.take 1 ++ turned 5 ((rest.drop 1).take 1)), rest.drop 2)

/-- So many letters raised. -/
def raisedLetters : Nat → List UInt8 → List UInt8
  | 0, word => word
  | count + 1, word =>
    let (letter, rest) := raisedLetter word
    letter ++ raisedLetters count rest

/-- The word after a change. -/
def Change.apply (change : Change) (word : List UInt8) : List UInt8 :=
  match change with
  | same => word
  | withoutStart count => word.drop count
  | withoutEnd count => word.take (word.length - count)
  | firstRaised => raisedLetters 1 word
  | raised => raisedLetters word.length word

/-- A word in a form. -/
def WordForm.apply (form : WordForm) (word : List UInt8) : List UInt8 :=
  Text.bytes form.before ++ form.change.apply word ++ Text.bytes form.after

/-! ## Words -/

/-- The fewest bytes of a word. -/
def minWord : Nat := 4

/-- How many bits number the words of a length, from the least length on. -/
def wordBits : List Nat :=
  [10, 10, 11, 11, 10, 10, 10, 10, 10, 9, 9, 8, 7, 7, 8, 7, 7, 6, 6, 5, 5]

/-- Where the words of a length begin. -/
def wordsStart (length : Nat) : Nat :=
  (((wordBits.take (length - minWord)).zipIdx).map
    fun (bits, i) => Nat.pow 2 bits * (i + minWord)).foldl (· + ·) 0

/-- The word with a number among those of a length, in the form that the number tells as
well. -/
def word? (length number : Nat) : Option (List UInt8) :=
  if length < minWord then none
  else
    match wordBits[length - minWord]? with
    | none => none
    | some bits =>
      let start := wordsStart length + number % Nat.pow 2 bits * length
      let word := (WordList.bytes.extract start (start + length)).toList
      (wordForms[number / Nat.pow 2 bits]?).map fun form => form.apply word

end TableGateway.Coding.Brotli

/-!
# Reading texts

A reader takes something from the front of a text and leaves the rest, or fails. Readers are
sequenced as a monad. Repetition goes through `repeatUntil`, which stops at the latest when it has
taken more steps than the text has characters: a step that reads at least one character each time
is never cut short.
-/

namespace RasterGpu

/-- Takes something from the front of a text, or fails. -/
abbrev Reader (α : Type) : Type := StateT (List Char) Option α

namespace Reader

/-- Takes one character. -/
def next : Reader Char := fun
  | [] => none
  | c :: rest => some (c, rest)

/-- The next character, which stays. -/
def peek? : Reader (Option Char) := fun text => some (text.head?, text)

/-- Whether the text is used up. -/
def atEnd : Reader Bool := fun text => some (text.isEmpty, text)

/-- Takes the longest run of characters that satisfy `p`. -/
def takeWhile (p : Char → Bool) : Reader (List Char) := fun text => some (text.span p)

/-- Takes the longest run of characters that satisfy `p`, which must not be empty. -/
def takeSome (p : Char → Bool) : Reader (List Char) := do
  let run ← takeWhile p
  guard !run.isEmpty
  return run

/-- Drops the longest run of characters that satisfy `p`. -/
def skipWhile (p : Char → Bool) : Reader Unit := modify (List.dropWhile p)

/-- Takes a word if the text starts with it, and tells whether it did. -/
def accept (word : String) : Reader Bool := fun text =>
  let word := word.toList
  if word.isPrefixOf text then some (true, text.drop word.length) else some (false, text)

/-- Takes one character if it satisfies `p`, and tells whether it did. -/
def acceptIf (p : Char → Bool) : Reader Bool := fun
  | [] => some (false, [])
  | c :: rest => if p c then some (true, rest) else some (false, c :: rest)

/-- Takes a word that the text must start with. -/
def expect (word : String) : Reader Unit := do
  guard (← accept word)

/-- Repeats a step from a state to the next one until it gives a result, `limit` times at most. -/
@[specialize] def repeatAtMost {σ α : Type} (step : σ → Reader (σ ⊕ α)) :
    (limit : Nat) → σ → Reader α
  | 0, _ => failure
  | limit + 1, s => do
    match ← step s with
    | .inl s => repeatAtMost step limit s
    | .inr a => return a

/-- Repeats a step from a state to the next one until it gives a result. Fails if there are more
steps than characters, and one. -/
@[inline] def repeatUntil {σ α : Type} (step : σ → Reader (σ ⊕ α)) (s : σ) : Reader α := do
  repeatAtMost step ((← get).length + 1) s

/-- Reads a whole text. -/
def readAll {α : Type} (r : Reader α) (text : List Char) : Option α :=
  match r text with
  | some (a, []) => some a
  | _ => none

end Reader

end RasterGpu

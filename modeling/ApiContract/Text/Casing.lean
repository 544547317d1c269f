import ApiContract.Text.CharClass

/-!
Identifier casing. A text is cut into words at every character that is neither letter nor number,
after a lower-case character that a capital follows, and before the last capital of a run of
capitals that a lower-case character follows. Digits never end a word.
-/

namespace ApiContract.Text

/-- What the current word last showed: nothing yet, a lower-case or an upper-case character. -/
inductive WordMode where
  | boundary
  | lowercase
  | uppercase
  deriving DecidableEq, Repr

def WordMode.after (mode : WordMode) (c : Char) : WordMode :=
  if isLowercase c then .lowercase
  else if isUppercase c then .uppercase
  else mode

/-- Cuts a run of letters and numbers into words; `word` holds the current word in reverse. -/
def wordsOfRun (mode : WordMode) (word : List Char) : List Char → List (List Char)
  | [] => if word.isEmpty then [] else [word.reverse]
  | [c] => [(c :: word).reverse]
  | c :: next :: rest =>
      let shown := mode.after c
      if shown = .lowercase ∧ isUppercase next then
        (c :: word).reverse :: wordsOfRun .boundary [] (next :: rest)
      else if mode = .uppercase ∧ isUppercase c ∧ isLowercase next then
        word.reverse :: wordsOfRun .boundary [c] (next :: rest)
      else
        wordsOfRun shown (c :: word) (next :: rest)

/-- Maximal runs of characters that satisfy the test, empty runs left out. -/
def runsOf (keep : Char → Bool) (run : List Char) : List Char → List (List Char)
  | [] => if run.isEmpty then [] else [run.reverse]
  | c :: rest =>
      if keep c then runsOf keep (c :: run) rest
      else if run.isEmpty then runsOf keep [] rest
      else run.reverse :: runsOf keep [] rest

def wordsOf (s : String) : List (List Char) :=
  (runsOf isAlphanumeric [] s.toList).flatMap (wordsOfRun .boundary [])

/-- Lower case of one word: its last character, if a capital sigma, becomes a final sigma. -/
def lowerWord : List Char → List Char
  | [] => []
  | ['Σ'] => ['ς']
  | c :: rest => lower c ++ lowerWord rest

def capitalWord : List Char → List Char
  | [] => []
  | c :: rest => upper c ++ lowerWord rest

def upperCamel (s : String) : String :=
  String.ofList ((wordsOf s).flatMap capitalWord)

def snake (s : String) : String :=
  String.intercalate "_" ((wordsOf s).map fun word => String.ofList (lowerWord word))

end ApiContract.Text

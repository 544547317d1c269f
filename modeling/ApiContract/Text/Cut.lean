/-!
Cutting texts at a character, and trimming a character off their ends.
-/

namespace ApiContract.Text

/-- What stands before the first occurrence of a character, and what after it. -/
def cutChars (mark : Char) : List Char → Option (List Char × List Char)
  | [] => none
  | c :: rest =>
      if c = mark then some ([], rest)
      else (cutChars mark rest).map fun (before, after) => (c :: before, after)

def cut? (mark : Char) (text : String) : Option (String × String) :=
  (cutChars mark text.toList).map fun (before, after) => (String.ofList before, String.ofList after)

/-- The parts between the occurrences of a character; one part where there is none. -/
def splitChars (mark : Char) : List Char → List (List Char)
  | [] => [[]]
  | c :: rest =>
      if c = mark then [] :: splitChars mark rest
      else
        match splitChars mark rest with
        | [] => [[c]]
        | part :: parts => (c :: part) :: parts

def split (mark : Char) (text : String) : List String :=
  (splitChars mark text.toList).map String.ofList

def dropLeading (mark : Char) (text : String) : String :=
  String.ofList (text.toList.dropWhile (· == mark))

def dropTrailing (mark : Char) (text : String) : String :=
  String.ofList (text.toList.reverse.dropWhile (· == mark)).reverse

def startsWith (mark : Char) (text : String) : Bool := text.toList.head? == some mark

def endsWith (mark : Char) (text : String) : Bool := text.toList.getLast? == some mark

/-- Joins two pieces of a path; of two slashes that would meet one is kept. -/
def joinPath (path piece : String) : String :=
  if endsWith '/' path && startsWith '/' piece then path ++ String.ofList (piece.toList.drop 1)
  else path ++ piece

end ApiContract.Text

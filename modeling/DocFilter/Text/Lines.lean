/-!
# Lines and pieces

Cutting a text at a character, joining pieces, padding, and the reading of line ends.
-/

namespace DocFilter

/-- The pieces of a list between the occurrences of `sep`; never empty. -/
def splitChars (sep : Char) : List Char → List (List Char)
  | [] => [[]]
  | c :: cs =>
    if c = sep then [] :: splitChars sep cs
    else match splitChars sep cs with
      | [] => [[c]]
      | p :: ps => (c :: p) :: ps

/-- The pieces of a text between the occurrences of `sep`. -/
def splitAtChar (sep : Char) (s : String) : List String :=
  (splitChars sep s.toList).map String.ofList

/-- Texts with `sep` between each two. -/
def joinWith (sep : String) : List String → String
  | [] => ""
  | [s] => s
  | s :: rest => s ++ sep ++ joinWith sep rest

/-- Every end of line (CR LF, CR alone, LF alone) as a single LF. -/
def unifyLineEnds : List Char → List Char
  | [] => []
  | '\r' :: '\n' :: cs => '\n' :: unifyLineEnds cs
  | '\r' :: cs => '\n' :: unifyLineEnds cs
  | c :: cs => c :: unifyLineEnds cs

/-- `n` copies of a character. -/
def repeatChar (c : Char) (n : Nat) : String := String.ofList (List.replicate n c)

/-- A text filled up with spaces on the right to `width` characters. -/
def padRight (s : String) (width : Nat) : String := s ++ repeatChar ' ' (width - s.length)

end DocFilter

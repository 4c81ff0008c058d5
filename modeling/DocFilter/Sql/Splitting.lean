import DocFilter.Sql.Completion
import DocFilter.Text.Blank

/-!
# Splitting SQL text into statements

A text is cut after every semicolon at which what has been read since the last cut is complete.
-/

namespace DocFilter

namespace Sql

/-- A statement without the blanks around it, unless nothing else is left. -/
def trimmed (cs : List Char) : List String :=
  let s := String.ofList (stripChars cs)
  if s = "" then [] else [s]

/-- The statements of the remaining text; `buffer` holds, newest first, what has been read since the
last cut. There is no answer if a buffer with a NUL has to be judged. -/
def splitFrom (buffer : List Char) : List Char → Option (List String)
  | [] => some (trimmed buffer.reverse)
  | c :: cs =>
    let buffer := c :: buffer
    if c = ';' then
      if buffer.contains '\x00' then none
      else if isComplete buffer.reverse then
        (splitFrom [] cs).map (trimmed buffer.reverse ++ ·)
      else splitFrom buffer cs
    else splitFrom buffer cs

/-- The statements of a text, each without the blanks around it. -/
def statements? (sql : String) : Option (List String) := splitFrom [] sql.toList

end Sql

end DocFilter

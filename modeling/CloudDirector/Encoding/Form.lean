import CloudDirector.Encoding.Percent
import CloudDirector.Text.Cut

/-!
# Form encoding

A list of names and values is written as `name=value` parts joined by `&`. Letters, digits and
`*-._` stay, a space is `+`, all other bytes are percent-encoded. Reading undoes it.
-/
namespace CloudDirector.Encoding
open Text

/-- Characters that stay as they are. -/
def isFormSafe (c : Char) : Bool := c.isAlphanum || c == '*' || c == '-' || c == '.' || c == '_'

/-- A character of a name or a value. -/
def formChar (c : Char) : List Char :=
  if isFormSafe c then [c] else if c = ' ' then ['+'] else percentChar c

/-- A name or a value. -/
def formText (cs : List Char) : List Char := cs.flatMap formChar

/-- A name with its value. -/
def formPair (pair : String × String) : List Char :=
  formText pair.1.toList ++ '=' :: formText pair.2.toList

/-- `pair` added to the text of a query. -/
def appendFormPair (query : List Char) (pair : String × String) : List Char :=
  (if query = [] then [] else query ++ ['&']) ++ formPair pair

def unformText (cs : List Char) : String :=
  String.ofList (ofUtf8 (percentDecode (cs.map fun c => if c = '+' then ' ' else c)))

/-- The pairs that the text of a query stands for; empty parts stand for nothing. -/
def unformPairs (query : List Char) : List (String × String) :=
  ((pieces (· == '&') query).filter (· ≠ [])).map fun part =>
    match cutFirst (· == '=') part with
    | some (name, value) => (unformText name, unformText value)
    | none => (unformText part, "")

end CloudDirector.Encoding

import CloudDirector.Resource.Link
import CloudDirector.Text.Blank
import CloudDirector.Text.Cut

/-!
# Link headers

The value of a `Link` header is a list of entries such as `<http://vcd/x>;rel="remove"`. Each
entry begins at a `<`; an entry without a closing `>` or without a relation is passed over.
-/
namespace CloudDirector.Link
open Text

def parameterValue (raw : List Char) : String :=
  String.ofList (trimBoth (·.toNat == 0x22) (trimBlank raw))

/-- Reads one parameter into a link; unknown ones and those without a value do not count. -/
def readParameter (l : Link) (parameter : List Char) : Link :=
  match cutFirst (· == '=') parameter with
  | none => l
  | some (key, raw) =>
    let key := trimBlank key
    let value := parameterValue raw
    if key = ['r', 'e', 'l'] then { l with rel := value }
    else if key = ['t', 'y', 'p', 'e'] then { l with mediaType := some value }
    else if key = ['t', 'i', 't', 'l', 'e'] ∨ key = ['n', 'a', 'm', 'e'] then
      { l with name := some value }
    else l

/-- The link of an entry, which begins after its `<`. -/
def ofHeaderEntry (entry : List Char) : Option Link :=
  match cutFirst (· == '>') entry with
  | none => none
  | some (href, parameters) =>
    let bare : Link := ⟨"", String.ofList (trimBlank href), none, none⟩
    let parameters := pieces (· == ';') (trimEnd (· == ',') (trimBlank parameters))
    let l := parameters.foldl readParameter bare
    if l.rel = "" then none else some l

def ofHeader (value : String) : List Link :=
  ((pieces (· == '<') value.toList).drop 1).filterMap ofHeaderEntry

end CloudDirector.Link

import CloudDirector.Encoding.Percent
import CloudDirector.Text.Cut
import CloudDirector.Url.Address
import CloudDirector.Url.Domain.Label

/-!
# Domain names

A domain name is shown in ASCII. Its characters are read in their plain forms, the text is put
into normal form, and each label between two dots is shown by itself. A name that has a label
written leftward keeps to one direction in each label.
-/
namespace CloudDirector.Url
open Text Encoding

/-- The characters of a domain name in their plain forms; none if one of them is in no name. -/
def readDomain? (cs : List Char) : Option (List Char) := do
  let plain := normalForm (← cs.mapM readDomainChar?).flatten
  guard (!plain.any isForbiddenInDomain)
  some plain

def domain? (host : List Char) : Option (List Char) := do
  let plain ← readDomain? (ofUtf8 (percentDecode host))
  let labels ← (pieces (· == '.') plain).mapM Label.ofChars?
  guard (labels.all (isAsciiLabel ·.written) ||
    !labels.any (fun l => l.written.any fun c => (Direction.ofChar c).turns) ||
    labels.all (keepsDirection ·.written))
  some (joinWith ['.'] (labels.map Label.shown))

end CloudDirector.Url

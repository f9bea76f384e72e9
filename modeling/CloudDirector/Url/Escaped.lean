/-!
# What is escaped where in a URL

Each place of a URL has a class of characters that are percent-encoded there. Every class holds
the control characters and all characters beyond ASCII.
-/
namespace CloudDirector.Url

/-- Control characters and characters beyond ASCII. -/
def escapedAlways (c : Char) : Bool := c.toNat < 0x20 || 0x7e < c.toNat

/-- Characters of `extra` and those that are always escaped. -/
def withExtra (extra : List Char) (c : Char) : Bool := escapedAlways c || extra.contains c

def escapedInFragment : Char → Bool := withExtra [' ', Char.ofNat 0x22, '<', '>', Char.ofNat 0x60]

def escapedInPath (c : Char) : Bool :=
  escapedInFragment c || ['#', '?', Char.ofNat 0x7b, Char.ofNat 0x7d].contains c

def escapedInUser (c : Char) : Bool :=
  escapedInPath c || ['/', ':', ';', '=', '@', '[', '\\', ']', '^', '|'].contains c

/-- What is escaped in a query; a scheme of the web escapes the single quote too. -/
def escapedInQuery (web : Bool) (c : Char) : Bool :=
  withExtra [' ', Char.ofNat 0x22, '#', '<', '>'] c || (web && c.toNat == 0x27)

end CloudDirector.Url

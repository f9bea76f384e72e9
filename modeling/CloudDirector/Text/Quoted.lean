import CloudDirector.Text.Unshown

/-!
# Quoted text

Texts inside a description stand between double quotes. A quote, a backslash and the common
control characters are written with a backslash, a character that cannot be seen by its
number. An optional text is written `None` or `Some("…")`.
-/
namespace CloudDirector.Text

/-- The digits of `n` in base sixteen, lower case, without leading zeros. -/
def hexDigits (n : Nat) : List Char := Nat.toDigits 16 n

def quoteChar (c : Char) : List Char :=
  if c.toNat = 0x22 then ['\\', c]
  else if c.toNat = 0x5c then ['\\', c]
  else if c.toNat = 0 then ['\\', '0']
  else if c.toNat = 9 then ['\\', 't']
  else if c.toNat = 10 then ['\\', 'n']
  else if c.toNat = 13 then ['\\', 'r']
  else if isUnshown c then ['\\', 'u', Char.ofNat 0x7b] ++ hexDigits c.toNat ++ [Char.ofNat 0x7d]
  else [c]

def quoted (s : String) : String :=
  String.ofList ([Char.ofNat 0x22] ++ s.toList.flatMap quoteChar ++ [Char.ofNat 0x22])

def quotedOption : Option String → String
  | none => "None"
  | some s => "Some(" ++ quoted s ++ ")"

end CloudDirector.Text

/-!
# Hexadecimal numbers

The digits of base sixteen, of either case, and the numbers that they spell.
-/
namespace CloudDirector.Encoding

def hexDigitValue (c : Char) : Option Nat :=
  if '0' ≤ c ∧ c ≤ '9' then some (c.toNat - 48)
  else if 'a' ≤ c ∧ c ≤ 'f' then some (c.toNat - 87)
  else if 'A' ≤ c ∧ c ≤ 'F' then some (c.toNat - 55)
  else none

/-- The number that hexadecimal digits spell; other characters count as zero. -/
def hexNumber (cs : List Char) : Nat :=
  cs.foldl (fun n c => n * 16 + (hexDigitValue c).getD 0) 0

@[simp] theorem hexNumber_nil : hexNumber [] = 0 := rfl

end CloudDirector.Encoding

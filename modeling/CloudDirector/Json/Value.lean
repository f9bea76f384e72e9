import CloudDirector.Keyed
import CloudDirector.Number.Binary64

/-!
# JSON values

A number is a whole number of 64 bits, with or without a sign, or a double. The members of an
object stand in ascending order of their keys, each key once; `Value.Ordered` says so.
-/
namespace CloudDirector.Json
open Number

inductive Numeric where
  | whole (n : Int)
  | real (x : Binary64)
  deriving DecidableEq, Repr, Inhabited

inductive Value where
  | null
  | bool (b : Bool)
  | number (n : Numeric)
  | string (s : String)
  | array (items : List Value)
  | object (members : List (String × Value))
  deriving Repr, Inhabited

namespace Value

def ofMembers (members : List (String × Value)) : Value := .object (Keyed.ofList members)

def member? (key : String) : Value → Option Value
  | .object members => members.lookup key
  | _ => none

/-- A text, or null. -/
def ofOption (s : Option String) : Value := s.elim .null .string

/-- A whole number. -/
def ofInt (n : Int) : Value := .number (.whole n)

/-- A natural number. -/
def ofNat (n : Nat) : Value := .number (.whole n)

end Value

mutual
def Value.Ordered : Value → Prop
  | .array items => AllOrdered items
  | .object members => Keyed.Ascending members ∧ MembersOrdered members
  | _ => True

/-- `Value.Ordered` for each item. -/
def AllOrdered : List Value → Prop
  | [] => True
  | v :: vs => v.Ordered ∧ AllOrdered vs

/-- `Value.Ordered` for the value of each member. -/
def MembersOrdered : List (String × Value) → Prop
  | [] => True
  | (_, v) :: ms => v.Ordered ∧ MembersOrdered ms
end

end CloudDirector.Json

import CloudDirector.Json.Value

/-!
# JSON documents

A document is what a JSON text says: object members as they are written, in order and possibly
repeated, and `unreadable` where the text has the form of a value that cannot be held. Such are
a number out of range, a text with half a surrogate pair, and a container too deeply nested.
What is unreadable does no harm where nothing looks at it.
-/
namespace CloudDirector.Json

/-- The parsed form of a JSON text. -/
inductive Document where
  | unreadable
  | null
  | bool (b : Bool)
  | number (n : Numeric)
  | string (s : String)
  | array (items : List Document)
  | object (members : List (String × Document))
  deriving Repr, Inhabited

/-- Containers nested deeper than this cannot be held. -/
def deepest : Nat := 127

mutual
def Value.toDocument : Value → Document
  | .null => .null
  | .bool b => .bool b
  | .number n => .number n
  | .string s => .string s
  | .array items => .array (documentsOf items)
  | .object members => .object (memberDocuments members)

/-- `Value.toDocument` of each item. -/
def documentsOf : List Value → List Document
  | [] => []
  | v :: vs => v.toDocument :: documentsOf vs

/-- `Value.toDocument` of the value of each member. -/
def memberDocuments : List (String × Value) → List (String × Document)
  | [] => []
  | (k, v) :: ms => (k, v.toDocument) :: memberDocuments ms
end

mutual
/-- The value that a document holds, none if some part of it is unreadable. -/
def Document.value? : Document → Option Value
  | .unreadable => none
  | .null => some .null
  | .bool b => some (.bool b)
  | .number n => some (.number n)
  | .string s => some (.string s)
  | .array items => (valuesOf? items).map .array
  | .object members => (memberValues? members).map .ofMembers

/-- `Document.value?` of each item. -/
def valuesOf? : List Document → Option (List Value)
  | [] => some []
  | d :: ds => do
    let v ← d.value?
    let vs ← valuesOf? ds
    some (v :: vs)

/-- `Document.value?` of the value of each member. -/
def memberValues? : List (String × Document) → Option (List (String × Value))
  | [] => some []
  | (k, d) :: ms => do
    let v ← d.value?
    let vs ← memberValues? ms
    some ((k, v) :: vs)
end

end CloudDirector.Json

import CloudDirector.Json.Document

/-!
# Records in JSON

A record is an object with declared members, or an array of their values in the order of
declaration. A declared member may stand in it once; what is not declared is passed over. A
record with a rest is an object only and keeps what is not declared.
-/
namespace CloudDirector.Json

/-- A way to read a value of type `α` from a document. -/
abbrev Decoder (α : Type) := Document → Option α

namespace Decoder

def text : Decoder String
  | .string s => some s
  | _ => none

/-- A truth value. -/
def flag : Decoder Bool
  | .bool b => some b
  | _ => none

/-- A whole number of the range, written without fraction and exponent. -/
def whole (least most : Int) : Decoder Int
  | .number (.whole n) => if least ≤ n ∧ n ≤ most then some n else none
  | _ => none

def natural (limit : Nat) : Decoder Nat := fun d => (whole 0 ((limit : Int) - 1) d).map Int.toNat

def list {α : Type} (item : Decoder α) : Decoder (List α)
  | .array items => items.mapM item
  | _ => none

/-- A value, or null. -/
def nullable {α : Type} (value : Decoder α) : Decoder (Option α)
  | .null => some none
  | d => (value d).map some

/-- One of some labels: a text, or an object whose only member is the label with null. -/
def label {α : Type} (ofLabel : String → Option α) : Decoder α
  | .string s => ofLabel s
  | .object [(s, .null)] => ofLabel s
  | _ => none

def value : Decoder Value := Document.value?

end Decoder

abbrev Record := String → Option Document

/-- The declared members of a record, none if one of them is repeated. -/
def declared (names : List String) (members : List (String × Document)) : Option Record :=
  if names.all fun name => members.countP (fun m => m.1 == name) ≤ 1 then
    some fun name => members.lookup name
  else none

def Document.record? (names : List String) : Document → Option Record
  | .object members => declared names members
  | .array items =>
    if items.length ≤ names.length then some fun name => (names.zip items).lookup name else none
  | _ => none

def Document.renamed (old new : String) : Document → Document
  | .object members => .object (members.map fun (k, d) => (if k = old then new else k, d))
  | d => d

/-- The declared members of a record that is an object, and its rest. -/
def Document.recordWithRest? (names : List String) :
    Document → Option (Record × List (String × Value))
  | .object members => do
    let record ← declared names members
    let rest ← memberValues? (members.filter fun m => !names.contains m.1)
    some (record, Keyed.ofList rest)
  | _ => none

namespace Record

/-- A member that has to be there. -/
def required {α : Type} (r : Record) (name : String) (value : Decoder α) : Option α :=
  (r name).bind value

/-- A member that may be absent or null. -/
def optional {α : Type} (r : Record) (name : String) (value : Decoder α) : Option (Option α) :=
  match r name with
  | none => some none
  | some d => Decoder.nullable value d

def orElse {α : Type} (r : Record) (name : String) (absent : α) (value : Decoder α) : Option α :=
  match r name with
  | none => some absent
  | some d => value d

end Record

/-- The object of those members that are there. -/
def Value.ofFields (fields : List (String × Option Value)) : Value :=
  .ofMembers (fields.filterMap fun (name, v) => v.map (name, ·))

end CloudDirector.Json

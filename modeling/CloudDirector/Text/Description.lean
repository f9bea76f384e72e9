import CloudDirector.Text.Quoted

/-!
# Descriptions of values

A value is described by its name and its fields, as in `Name { a: 1, b: None }`. A description
that leaves fields out ends in two points.
-/
namespace CloudDirector.Text

private def describedField (field : String × String) : String := field.1 ++ ": " ++ field.2

private def braced (inside : String) : String :=
  String.singleton (Char.ofNat 0x7b) ++ " " ++ inside ++ " " ++ String.singleton (Char.ofNat 0x7d)

def described (name : String) (fields : List (String × String)) : String :=
  name ++ " " ++ braced (String.intercalate ", " (fields.map describedField))

def describedPartly (name : String) (fields : List (String × String)) : String :=
  name ++ " " ++ braced (String.intercalate ", " (fields.map describedField ++ [".."]))

def describedOption (d : Option String) : String := d.elim "None" fun s => "Some(" ++ s ++ ")"

def describedTexts (texts : List String) : String :=
  "[" ++ String.intercalate ", " (texts.map quoted) ++ "]"

def describedBool (b : Bool) : String := if b then "true" else "false"

end CloudDirector.Text

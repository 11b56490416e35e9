import BucketReplication.Text.Quoted

/-! # Display of structured values

One-line texts of values for logs: a structure with the names of its fields, an
optional value, a list, a map. -/

namespace BucketReplication.Text

def displayFields (fields : List (String × String)) : String :=
  ", ".intercalate (fields.map fun (name, shown) => name ++ ": " ++ shown)

def displayStructure (name : String) (fields : List (String × String)) : String :=
  name ++ " \x7b " ++ displayFields fields ++ " \x7d"

def displayPartly (name : String) (fields : List (String × String)) : String :=
  name ++ " \x7b " ++ displayFields fields ++ ", .. \x7d"

def displayOption : Option String → String
  | none => "None"
  | some shown => "Some(" ++ shown ++ ")"

def displayList (items : List String) : String :=
  "[" ++ ", ".intercalate items ++ "]"

def displayMap (entries : List (String × String)) : String :=
  "\x7b" ++ displayFields entries ++ "\x7d"

def displayFlag (value : Bool) : String :=
  if value then "true" else "false"

end BucketReplication.Text

import BucketReplication.Toml.Quotation

/-! # TOML keys -/

namespace BucketReplication.Toml

def isKeyCharacter (c : Char) : Bool :=
  c.isAlphanum || c = '-' || c = '_'

def keyPart (text : List Char) : Option (String × List Char) :=
  match text with
  | '"' :: _ => Quotation.line text
  | '\'' :: _ => Quotation.line text
  | _ =>
    match text.takeWhile isKeyCharacter with
    | [] => none
    | part => some (String.ofList part, text.dropWhile isKeyCharacter)

/-- Arrays and inline tables may be nested this deep, and a key may have this
many parts. -/
def depthLimit : Nat := 79

def key : Scan (List String) :=
  parts depthLimit
where
  parts : Nat → Scan (List String)
    | 0, _ => none
    | limit + 1, text => do
      let (part, following) ← keyPart (skipBlanks text)
      match skipBlanks following with
      | '.' :: rest => do
        let (others, remaining) ← parts limit rest
        return (part :: others, remaining)
      | rest => return ([part], rest)

end BucketReplication.Toml

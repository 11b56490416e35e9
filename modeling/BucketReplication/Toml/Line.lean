/-! # TOML lines

White space, comments and line ends. A scanner takes the part of a document that
is still to be read and gives what it found together with what follows, or
nothing if the document is not well formed there. -/

namespace BucketReplication.Toml

abbrev Scan (α : Type) := List Char → Option (α × List Char)

def isBlank (c : Char) : Bool :=
  c = ' ' || c = '\t'

def skipBlanks (text : List Char) : List Char :=
  text.dropWhile isBlank

/-- Characters that may stand in comments and literal strings: no control
character but the tab. -/
def isVisible (c : Char) : Bool :=
  c = '\t' || (0x20 ≤ c.toNat && c.toNat ≠ 0x7f)

def lineEnd? : List Char → Option (List Char)
  | '\n' :: rest => some rest
  | '\r' :: '\n' :: rest => some rest
  | _ => none

def skipComment : List Char → List Char
  | '#' :: rest => rest.dropWhile isVisible
  | text => text

def skipLines (text : List Char) : List Char :=
  skipFrom text.length text
where
  skipFrom : Nat → List Char → List Char
    | 0, text => text
    | limit + 1, text =>
      let following := skipComment (skipBlanks text)
      match lineEnd? following with
      | some rest => skipFrom limit rest
      | none => following

end BucketReplication.Toml

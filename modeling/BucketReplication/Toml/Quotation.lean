import BucketReplication.Text.Alphanumeric
import BucketReplication.Toml.Line

/-! # TOML strings

A string stands between double quotes, with escapes, or between single quotes,
where every character stands for itself. Three quotes enclose a string of
several lines. -/

namespace BucketReplication.Toml.Quotation

def isHexadecimal (c : Char) : Bool :=
  (Text.digit? c).isSome

def codePoint (count : Nat) : Scan Char := fun text =>
  let digits := text.take count
  let value := Text.valueOfDigits 16 digits
  if digits.length = count ∧ digits.all isHexadecimal ∧ value.isValidChar then
    some (Char.ofNat value, text.drop count)
  else none

def escape : Scan Char
  | 'b' :: rest => some ('\x08', rest)
  | 'f' :: rest => some ('\x0c', rest)
  | 'n' :: rest => some ('\n', rest)
  | 'r' :: rest => some ('\r', rest)
  | 't' :: rest => some ('\t', rest)
  | '"' :: rest => some ('"', rest)
  | '\\' :: rest => some ('\\', rest)
  | 'u' :: rest => codePoint 4 rest
  | 'U' :: rest => codePoint 8 rest
  | _ => none

def basic : (limit : Nat) → Scan (List Char)
  | 0, _ => none
  | limit + 1, text =>
    match text with
    | '"' :: rest => some ([], rest)
    | '\\' :: rest => do
      let (c, following) ← escape rest
      let (content, remaining) ← basic limit following
      return (c :: content, remaining)
    | c :: rest =>
      if isVisible c then do
        let (content, remaining) ← basic limit rest
        return (c :: content, remaining)
      else none
    | [] => none

def literal (text : List Char) : Option (List Char × List Char) :=
  let content := text.takeWhile fun c => c ≠ '\'' && isVisible c
  match text.drop content.length with
  | '\'' :: rest => some (content, rest)
  | _ => none

/-- A run of quotes in a text of several lines. Three quotes close the text, and
up to two more in front of them belong to it. The first part is the quotes that
belong to the text, and the last one is what follows the text if it is closed. -/
def quoteRun (quote : Char) (text : List Char) : List Char × List Char × Bool :=
  let count := (text.takeWhile (· = quote)).length
  if count < 3 then (text.take count, text.drop count, false)
  else
    let kept := min (count - 3) 2
    (text.take kept, text.drop (kept + 3), true)

def skipWhite : List Char → List Char
  | ' ' :: rest => skipWhite rest
  | '\t' :: rest => skipWhite rest
  | '\n' :: rest => skipWhite rest
  | '\r' :: '\n' :: rest => skipWhite rest
  | text => text

/-- A backslash at the end of a line removes all white space up to the next
character. -/
def joinLines? (text : List Char) : Option (List Char) :=
  (lineEnd? (skipBlanks text)).map skipWhite

def basicLines : (limit : Nat) → Scan (List Char)
  | 0, _ => none
  | limit + 1, text =>
    match text with
    | [] => none
    | '"' :: _ => do
      let (content, following, closed) := quoteRun '"' text
      if closed then return (content, following)
      else
        let (others, remaining) ← basicLines limit following
        return (content ++ others, remaining)
    | '\\' :: rest =>
      match joinLines? rest with
      | some following => basicLines limit following
      | none => do
        let (c, following) ← escape rest
        let (content, remaining) ← basicLines limit following
        return (c :: content, remaining)
    | c :: rest =>
      match lineEnd? text with
      | some following => do
        let (content, remaining) ← basicLines limit following
        return ('\n' :: content, remaining)
      | none =>
        if isVisible c then do
          let (content, remaining) ← basicLines limit rest
          return (c :: content, remaining)
        else none

def literalLines : (limit : Nat) → Scan (List Char)
  | 0, _ => none
  | limit + 1, text =>
    match text with
    | [] => none
    | '\'' :: _ => do
      let (content, following, closed) := quoteRun '\'' text
      if closed then return (content, following)
      else
        let (others, remaining) ← literalLines limit following
        return (content ++ others, remaining)
    | c :: rest =>
      match lineEnd? text with
      | some following => do
        let (content, remaining) ← literalLines limit following
        return ('\n' :: content, remaining)
      | none =>
        if isVisible c then do
          let (content, remaining) ← literalLines limit rest
          return (c :: content, remaining)
        else none

def dropFirstLineEnd (text : List Char) : List Char :=
  (lineEnd? text).getD text

def line : Scan String
  | '"' :: rest => do
    let (content, following) ← basic (rest.length + 1) rest
    return (String.ofList content, following)
  | '\'' :: rest => do
    let (content, following) ← literal rest
    return (String.ofList content, following)
  | _ => none

def string : Scan String
  | '"' :: '"' :: '"' :: rest => do
    let (content, following) ← basicLines (rest.length + 1) (dropFirstLineEnd rest)
    return (String.ofList content, following)
  | '\'' :: '\'' :: '\'' :: rest => do
    let (content, following) ← literalLines (rest.length + 1) (dropFirstLineEnd rest)
    return (String.ofList content, following)
  | text => line text

end BucketReplication.Toml.Quotation

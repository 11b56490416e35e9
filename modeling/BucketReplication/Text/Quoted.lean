import BucketReplication.Text.Printable

/-! # Quoted text

Text between double quotes, for messages and for the display of values: what
cannot be seen on paper, or would end the quotation, is escaped. -/

namespace BucketReplication.Text

def hexadecimal (value : Nat) : String :=
  String.ofList (Nat.toDigits 16 value)

/-- How one character stands inside quotes. A single quote needs no escape;
a character that does not show, or that would attach to the one before it,
is written by its code point. -/
def quotedCharacter (c : Char) : String :=
  match c with
  | '"' => "\\\""
  | '\\' => "\\\\"
  | '\t' => "\\t"
  | '\n' => "\\n"
  | '\r' => "\\r"
  | '\x00' => "\\0"
  | c =>
    if isPrintable c && !isExtending c then c.toString
    else "\\u\x7b" ++ hexadecimal c.toNat ++ "\x7d"

def quoted (text : String) : String :=
  "\"" ++ String.join (text.toList.map quotedCharacter) ++ "\""

end BucketReplication.Text

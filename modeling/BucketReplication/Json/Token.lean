import BucketReplication.Json.Numeral
import BucketReplication.Json.Quotation

/-! # JSON tokens

A text is cut into tokens, white space between them set aside. The cutting ends
at the first character that begins no token, which the last token reports. -/

namespace BucketReplication.Json

open Document (Number Value)

inductive Token where
  | openRecord
  | closeRecord
  | openSequence
  | closeSequence
  | comma
  | colon
  | null
  | flag (value : Bool)
  | number (number : Option Number)
  | text (content : Option String)
  | broken
deriving DecidableEq, Repr

def isBlank (c : Char) : Bool :=
  c = ' ' || c = '\t' || c = '\n' || c = '\r'

namespace Numeral

theorem scanDigits_length {text digits rest : List Char}
    (scanned : scanDigits text = some (digits, rest)) : rest.length < text.length := by
  have parts := List.takeWhile_append_dropWhile (p := Char.isDigit) (l := text)
  unfold scanDigits spanDigits at scanned
  split at scanned
  · simp at scanned
  · rename_i found remaining notEmpty same
    simp only [Prod.mk.injEq] at same
    simp only [Option.some.injEq, Prod.mk.injEq] at scanned
    obtain ⟨sameDigits, sameRest⟩ := scanned
    rw [← sameRest, ← same.2]
    have total := congrArg List.length parts
    rw [List.length_append, same.1] at total
    have positive : 0 < found.length := by
      cases found with
      | nil => exact (notEmpty rfl).elim
      | cons => simp
    omega

theorem scanWhole_length {text digits rest : List Char}
    (scanned : scanWhole text = some (digits, rest)) : rest.length < text.length := by
  unfold scanWhole at scanned
  simp only [Option.bind_eq_bind, Option.bind_eq_some_iff] at scanned
  obtain ⟨⟨found, following⟩, scannedDigits, kept⟩ := scanned
  have shorter := scanDigits_length scannedDigits
  grind

theorem scanFraction_length {text rest : List Char} {fraction : Option (List Char)}
    (scanned : scanFraction text = some (fraction, rest)) : rest.length ≤ text.length := by
  unfold scanFraction at scanned
  split at scanned
  · simp only [Option.bind_eq_bind, Option.bind_eq_some_iff] at scanned
    obtain ⟨⟨found, following⟩, scannedDigits, kept⟩ := scanned
    have shorter := scanDigits_length scannedDigits
    grind
  · grind

theorem scanSign_length (text : List Char) : (scanSign text).2.length ≤ text.length := by
  unfold scanSign
  split <;> simp

theorem scanExponent_length {text rest : List Char} {exponent : Option (Bool × List Char)}
    (scanned : scanExponent text = some (exponent, rest)) : rest.length ≤ text.length := by
  unfold scanExponent at scanned
  split at scanned
  · rename_i c following
    split at scanned
    · simp only [Option.bind_eq_bind, Option.bind_eq_some_iff] at scanned
      obtain ⟨⟨found, remaining⟩, scannedDigits, kept⟩ := scanned
      have shorter := scanDigits_length scannedDigits
      have unsignedShorter := scanSign_length following
      grind
    · grind
  · grind

theorem scan_length {text rest : List Char} {numeral : Numeral}
    (scanned : scan text = some (numeral, rest)) : rest.length < text.length := by
  unfold scan at scanned
  simp only [Option.bind_eq_bind, Option.bind_eq_some_iff] at scanned
  obtain ⟨⟨whole, afterWhole⟩, scannedWhole, ⟨fraction, afterFraction⟩, scannedFraction,
    ⟨exponent, afterExponent⟩, scannedExponent, kept⟩ := scanned
  have wholeShorter := scanWhole_length scannedWhole
  have fractionShorter := scanFraction_length scannedFraction
  have exponentShorter := scanExponent_length scannedExponent
  simp only [Option.pure_def, Option.some.injEq, Prod.mk.injEq] at kept
  rw [← kept.2]
  split at wholeShorter <;> grind

end Numeral

def scanToken (c : Char) (rest : List Char) : Option (Token × List Char) :=
  match c, rest with
  | '{', rest => some (.openRecord, rest)
  | '}', rest => some (.closeRecord, rest)
  | '[', rest => some (.openSequence, rest)
  | ']', rest => some (.closeSequence, rest)
  | ',', rest => some (.comma, rest)
  | ':', rest => some (.colon, rest)
  | 'n', 'u' :: 'l' :: 'l' :: rest => some (.null, rest)
  | 't', 'r' :: 'u' :: 'e' :: rest => some (.flag true, rest)
  | 'f', 'a' :: 'l' :: 's' :: 'e' :: rest => some (.flag false, rest)
  | '"', rest => do
    let (pieces, following) ← Piece.scan rest
    return (.text (Piece.text? pieces), following)
  | c, rest => do
    let (numeral, following) ← Numeral.scan (c :: rest)
    return (.number numeral.number?, following)

theorem scanToken_length {c : Char} {rest following : List Char} {token : Token}
    (scanned : scanToken c rest = some (token, following)) :
    following.length ≤ rest.length := by
  unfold scanToken at scanned
  split at scanned <;> try grind
  · simp only [Option.bind_eq_bind, Option.bind_eq_some_iff] at scanned
    obtain ⟨⟨pieces, remaining⟩, scannedPieces, kept⟩ := scanned
    have shorter := Piece.scan_length scannedPieces
    grind
  · simp only [Option.bind_eq_bind, Option.bind_eq_some_iff] at scanned
    obtain ⟨⟨numeral, remaining⟩, scannedNumeral, kept⟩ := scanned
    have shorter := Numeral.scan_length scannedNumeral
    grind

def tokens : List Char → List Token
  | [] => []
  | c :: rest =>
    if isBlank c then tokens rest
    else
      match scanned : scanToken c rest with
      | none => [.broken]
      | some (token, following) =>
        have := scanToken_length scanned
        token :: tokens following
termination_by text => text.length

end BucketReplication.Json

import BucketReplication.Text.Alphanumeric

/-! # JSON strings

A string is read in two steps. The first finds its end and its pieces and
refuses raw control characters and unknown escapes. The second puts the pieces
together and refuses a surrogate without its partner. A string that nobody asks
for goes through the first step only. -/

namespace BucketReplication.Json

/-- A part of a string: a character, or a code unit of 16 bits written as four
hexadecimal digits. -/
inductive Piece where
  | character (c : Char)
  | unit (value : Nat)
deriving DecidableEq, Repr

namespace Piece

def unit? (first second third fourth : Char) : Option Piece := do
  let a ← Text.digit? first
  let b ← Text.digit? second
  let c ← Text.digit? third
  let d ← Text.digit? fourth
  return .unit (4096 * a + 256 * b + 16 * c + d)

def escape? (c : Char) : Option Piece :=
  match c with
  | '"' => some (.character '"')
  | '\\' => some (.character '\\')
  | '/' => some (.character '/')
  | 'b' => some (.character '\x08')
  | 'f' => some (.character '\x0c')
  | 'n' => some (.character '\n')
  | 'r' => some (.character '\r')
  | 't' => some (.character '\t')
  | _ => none

def scan : List Char → Option (List Piece × List Char)
  | [] => none
  | '"' :: rest => some ([], rest)
  | '\\' :: 'u' :: first :: second :: third :: fourth :: rest => do
    let piece ← unit? first second third fourth
    let (pieces, following) ← scan rest
    return (piece :: pieces, following)
  | '\\' :: c :: rest => do
    let piece ← escape? c
    let (pieces, following) ← scan rest
    return (piece :: pieces, following)
  | c :: rest =>
    if c.toNat < 0x20 then none
    else do
      let (pieces, following) ← scan rest
      return (.character c :: pieces, following)

theorem scan_length {text following : List Char} {pieces : List Piece}
    (scanned : scan text = some (pieces, following)) :
    following.length < text.length := by
  fun_induction scan text generalizing pieces following with
  | case1 => simp at scanned
  | case2 rest => simp at scanned; simp [scanned]
  | case3 first second third fourth rest induction =>
      simp only [Option.bind_eq_bind, Option.bind_eq_some_iff, Option.pure_def] at scanned
      obtain ⟨_, _, ⟨_, remaining⟩, found, same⟩ := scanned
      have shorter := induction found
      simp only [Option.some.injEq, Prod.mk.injEq] at same
      simp only [List.length_cons, ← same.2]
      omega
  | case4 c rest _ induction =>
      simp only [Option.bind_eq_bind, Option.bind_eq_some_iff, Option.pure_def] at scanned
      obtain ⟨_, _, ⟨_, remaining⟩, found, same⟩ := scanned
      have shorter := induction found
      simp only [Option.some.injEq, Prod.mk.injEq] at same
      simp only [List.length_cons, ← same.2]
      omega
  | case5 => simp at scanned
  | case6 c rest _ _ _ _ induction =>
      simp only [Option.bind_eq_bind, Option.bind_eq_some_iff, Option.pure_def] at scanned
      obtain ⟨⟨_, remaining⟩, found, same⟩ := scanned
      have shorter := induction found
      simp only [Option.some.injEq, Prod.mk.injEq] at same
      simp only [List.length_cons, ← same.2]
      omega

/-- The text of the pieces. Two units join to one character when they are the
halves of a surrogate pair; a half by itself has no meaning. -/
def join : List Piece → Option (List Char)
  | [] => some []
  | .character c :: rest => (join rest).map (c :: ·)
  | .unit high :: .unit low :: rest =>
    if 0xd800 ≤ high ∧ high < 0xdc00 then
      if 0xdc00 ≤ low ∧ low < 0xe000 then
        (join rest).map (Char.ofNat (0x10000 + 0x400 * (high - 0xd800) + (low - 0xdc00)) :: ·)
      else none
    else if 0xdc00 ≤ high ∧ high < 0xe000 then none
    else (join (.unit low :: rest)).map (Char.ofNat high :: ·)
  | .unit value :: rest =>
    if 0xd800 ≤ value ∧ value < 0xe000 then none
    else (join rest).map (Char.ofNat value :: ·)

def text? (pieces : List Piece) : Option String :=
  (join pieces).map String.ofList

end Piece

end BucketReplication.Json

import BucketReplication.Proofs.Json.Numeral
import BucketReplication.Proofs.Json.Quotation

/-! # Reading back the tokens of a printed value

What is printed for a value is cut into the tokens of the value again, whatever
follows it. -/

namespace BucketReplication.Json

open Document (Number Value Items Members)

mutual
/-- The tokens of a value. What is broken or no value of JSON has none. -/
def tokensOf : Value → List Token
  | .null => [.null]
  | .flag value => [.flag value]
  | .number number => [.number number]
  | .text content => [.text content]
  | .moment => []
  | .broken => []
  | .sequence items => .openSequence :: (tokensOfItems true items ++ [.closeSequence])
  | .record members => .openRecord :: (tokensOfMembers true members ++ [.closeRecord])

def tokensOfItems (isFirst : Bool) : Items → List Token
  | .item value rest =>
    (if isFirst then [] else [.comma]) ++ (tokensOf value ++ tokensOfItems false rest)
  | _ => []

def tokensOfMembers (isFirst : Bool) : Members → List Token
  | .member name value rest =>
    (if isFirst then [] else [.comma]) ++
      .text name :: .colon :: (tokensOf value ++ tokensOfMembers false rest)
  | _ => []
end

mutual
/-- A value that has a text of its own: it is whole, its texts are known, and its
numbers are natural ones of 64 bits. -/
def IsPlain : Value → Prop
  | .null => True
  | .flag _ => True
  | .number number =>
    ∃ value : Nat, number = some (.integer value) ∧ value < Numeral.significandLimit
  | .text content => ∃ known, content = some known
  | .moment => False
  | .broken => False
  | .sequence items => AreItemsPlain items
  | .record members => AreMembersPlain members

def AreItemsPlain : Items → Prop
  | .closed => True
  | .broken => False
  | .item value rest => IsPlain value ∧ AreItemsPlain rest

def AreMembersPlain : Members → Prop
  | .closed => True
  | .broken => False
  | .member name value rest =>
    (∃ known, name = some known) ∧ IsPlain value ∧ AreMembersPlain rest
end

theorem tokens_of_scan {c : Char} {rest following : List Char} {token : Token}
    (visible : isBlank c = false) (scanned : scanToken c rest = some (token, following)) :
    tokens (c :: rest) = token :: tokens following := by
  rw [tokens, if_neg (by simp [visible])]
  split
  · rename_i missing
    rw [scanned] at missing
    cases missing
  · rename_i found
    rw [scanned] at found
    cases found
    rfl

def marks : List (Char × Token) :=
  [('{', .openRecord), ('}', .closeRecord), ('[', .openSequence), (']', .closeSequence),
   (',', .comma), (':', .colon)]

theorem tokens_mark {c : Char} {token : Token} (isMark : (c, token) ∈ marks)
    (rest : List Char) : tokens (c :: rest) = token :: tokens rest := by
  simp only [marks, List.mem_cons, Prod.mk.injEq, List.not_mem_nil, or_false] at isMark
  rcases isMark with ⟨rfl, rfl⟩ | ⟨rfl, rfl⟩ | ⟨rfl, rfl⟩ | ⟨rfl, rfl⟩ | ⟨rfl, rfl⟩ | ⟨rfl, rfl⟩ <;>
    exact tokens_of_scan (by decide) rfl

theorem scanToken_quote (rest : List Char) :
    scanToken '"' rest =
      (Piece.scan rest).map fun scanned => (.text (Piece.text? scanned.1), scanned.2) := by
  rw [scanToken]
  cases Piece.scan rest <;> rfl

theorem scanToken_of_begins {c : Char} (begins : Numeral.begins c = true) (rest : List Char) :
    scanToken c rest =
      (Numeral.scan (c :: rest)).map fun scanned =>
        (.number scanned.1.number?, scanned.2) := by
  have noMark : c ≠ '{' ∧ c ≠ '}' ∧ c ≠ '[' ∧ c ≠ ']' ∧ c ≠ ',' ∧ c ≠ ':' ∧ c ≠ 'n' ∧ c ≠ 't' ∧
      c ≠ 'f' ∧ c ≠ '"' := by
    refine ⟨?_, ?_, ?_, ?_, ?_, ?_, ?_, ?_, ?_, ?_⟩ <;>
      (rintro rfl; exact absurd begins (by decide))
  rw [scanToken]
  · cases Numeral.scan (c :: rest) <;> rfl
  all_goals simp [noMark]

theorem isBlank_of_prolongs {c : Char} (prolongs : Numeral.prolongs c = true) :
    isBlank c = false := by
  cases blank : isBlank c with
  | false => rfl
  | true =>
      simp only [isBlank, Bool.or_eq_true, decide_eq_true_eq] at blank
      rcases blank with ((rfl | rfl) | rfl) | rfl <;> exact absurd prolongs (by decide)

theorem tokens_printText (content : String) (rest : List Char) :
    tokens ((printText content).toList ++ rest) = .text (some content) :: tokens rest := by
  have spelled : (printText content).toList ++ rest =
      '"' :: (content.toList.flatMap (fun c => (printCharacter c).toList) ++ '"' :: rest) := by
    simp [printText, String.toList_join, List.flatMap_map]
  rw [spelled]
  apply tokens_of_scan (by decide)
  simp [scanToken_quote, Piece.scan_printed, Piece.text?_printed]

theorem tokens_printNumber {value : Nat} (fits : value < Numeral.significandLimit)
    {rest : List Char} (ends : Numeral.EndsBefore rest) :
    tokens ((printNumber (.integer value)).toList ++ rest) =
      .number (some (.integer value)) :: tokens rest := by
  have spelled : (printNumber (.integer value)).toList = Nat.toDigits 10 value :=
    Nat.toList_repr
  rcases Numeral.toDigits_eq_cons value with ⟨first, others, digits, isDigit⟩
  have scanned := Numeral.scan_toDigits value ends
  rw [digits, List.cons_append] at scanned
  rw [spelled, digits, List.cons_append]
  have begins : Numeral.begins first = true := by simp [Numeral.begins, isDigit]
  apply tokens_of_scan (isBlank_of_prolongs (by simp [Numeral.prolongs, isDigit]))
  simp [scanToken_of_begins begins, scanned, Numeral.number?_ofNatural fits]

theorem Numeral.endsBefore_cons {c : Char} (stops : prolongs c = false) (rest : List Char) :
    EndsBefore (c :: rest) := by
  intro first same
  simp only [List.head?_cons, Option.some.injEq] at same
  exact same ▸ stops

theorem endsBefore_printItems (items : Items) {rest : List Char}
    (ends : Numeral.EndsBefore rest) :
    Numeral.EndsBefore ((printItems false items).toList ++ rest) := by
  cases items with
  | item value others =>
      simpa [printItems] using Numeral.endsBefore_cons (by decide) _
  | _ => simpa [printItems] using ends

theorem endsBefore_printMembers (members : Members) {rest : List Char}
    (ends : Numeral.EndsBefore rest) :
    Numeral.EndsBefore ((printMembers false members).toList ++ rest) := by
  cases members with
  | member name value others =>
      simpa [printMembers] using Numeral.endsBefore_cons (by decide) _
  | _ => simpa [printMembers] using ends

mutual
/-- The text of a value is cut into its tokens, unless it ends in a number that
goes on in what follows. -/
theorem tokens_print (value : Value) (plain : IsPlain value) (rest : List Char)
    (ends : Numeral.EndsBefore rest) :
    tokens ((print value).toList ++ rest) = tokensOf value ++ tokens rest := by
  cases value with
  | null => exact tokens_of_scan (by decide) rfl
  | flag isSet => cases isSet <;> exact tokens_of_scan (by decide) rfl
  | number number =>
      simp only [IsPlain] at plain
      rcases plain with ⟨value, rfl, fits⟩
      exact tokens_printNumber fits ends
  | text content =>
      simp only [IsPlain] at plain
      rcases plain with ⟨known, rfl⟩
      exact tokens_printText known rest
  | moment => exact plain.elim
  | broken => exact plain.elim
  | sequence items =>
      have opened : ∀ text, tokens ('[' :: text) = .openSequence :: tokens text :=
        tokens_mark (by decide)
      have closed : tokens (']' :: rest) = .closeSequence :: tokens rest :=
        tokens_mark (by decide) rest
      have inside := tokens_printItems items plain true (']' :: rest)
        (Numeral.endsBefore_cons (by decide) rest)
      simp [print, tokensOf, opened, inside, closed]
  | record members =>
      have opened : ∀ text, tokens ('{' :: text) = .openRecord :: tokens text :=
        tokens_mark (by decide)
      have closed : tokens ('}' :: rest) = .closeRecord :: tokens rest :=
        tokens_mark (by decide) rest
      have inside := tokens_printMembers members plain true ('}' :: rest)
        (Numeral.endsBefore_cons (by decide) rest)
      simp [print, tokensOf, opened, inside, closed]

theorem tokens_printItems (items : Items) (plain : AreItemsPlain items) (isFirst : Bool)
    (rest : List Char) (ends : Numeral.EndsBefore rest) :
    tokens ((printItems isFirst items).toList ++ rest) =
      tokensOfItems isFirst items ++ tokens rest := by
  cases items with
  | closed => simp [printItems, tokensOfItems]
  | broken => exact plain.elim
  | item value others =>
      simp only [AreItemsPlain] at plain
      have comma : ∀ text, tokens (',' :: text) = .comma :: tokens text :=
        tokens_mark (by decide)
      have following := tokens_printItems others plain.2 false rest ends
      have first := tokens_print value plain.1 _ (endsBefore_printItems others ends)
      cases isFirst <;> simp [printItems, tokensOfItems, comma, first, following]

theorem tokens_printMembers (members : Members) (plain : AreMembersPlain members)
    (isFirst : Bool) (rest : List Char) (ends : Numeral.EndsBefore rest) :
    tokens ((printMembers isFirst members).toList ++ rest) =
      tokensOfMembers isFirst members ++ tokens rest := by
  cases members with
  | closed => simp [printMembers, tokensOfMembers]
  | broken => exact plain.elim
  | member name value others =>
      simp only [AreMembersPlain] at plain
      rcases plain with ⟨⟨known, rfl⟩, plainValue, plainOthers⟩
      have comma : ∀ text, tokens (',' :: text) = .comma :: tokens text :=
        tokens_mark (by decide)
      have colon : ∀ text, tokens (':' :: text) = .colon :: tokens text :=
        tokens_mark (by decide)
      have following := tokens_printMembers others plainOthers false rest ends
      have first := tokens_print value plainValue _ (endsBefore_printMembers others ends)
      cases isFirst <;>
        simp [printMembers, tokensOfMembers, comma, colon, tokens_printText, first, following]
end

end BucketReplication.Json

import BucketReplication.Proofs.Json.Token

/-! # Texts that spell given tokens

A token is spelled by itself, and a text spells tokens when their spellings stand in
it one after the other with any white space between them. Where no two numbers stand
next to each other the tokens of the text are just those. -/

namespace BucketReplication.Json

open Document (Value Items Members)

namespace Token

def isNumber : Token → Bool
  | .number _ => true
  | _ => false

/-- A text of one token, with nothing around it. -/
inductive Spelled (token : Token) : List Char → Prop
  | scanned {c : Char} {rest : List Char} (visible : isBlank c = false)
      (scanned : scanToken c rest = some (token, [])) : token.Spelled (c :: rest)

def EndsBefore (token : Token) (rest : List Char) : Prop :=
  token.isNumber = true → Numeral.EndsBefore rest

end Token

theorem scanToken_split {c : Char} {text following : List Char} {token : Token}
    (scanned : scanToken c text = some (token, following)) :
    ∃ spelled, text = spelled ++ following ∧
      ∀ other, token.EndsBefore other → scanToken c (spelled ++ other) = some (token, other) := by
  unfold scanToken at scanned
  split at scanned
  case h_7 =>
    cases scanned
    exact ⟨['u', 'l', 'l'], rfl, fun _ _ => rfl⟩
  case h_8 =>
    cases scanned
    exact ⟨['r', 'u', 'e'], rfl, fun _ _ => rfl⟩
  case h_9 =>
    cases scanned
    exact ⟨['a', 'l', 's', 'e'], rfl, fun _ _ => rfl⟩
  case h_10 rest =>
    simp only [Option.bind_eq_bind, Option.bind_eq_some_iff] at scanned
    rcases scanned with ⟨⟨pieces, remaining⟩, scannedPieces, kept⟩
    cases kept
    rcases Piece.scan_split scannedPieces with ⟨spelled, rfl, again⟩
    refine ⟨spelled, rfl, fun other _ => ?_⟩
    rw [scanToken_quote, again]
    rfl
  case h_11 =>
    simp only [Option.bind_eq_bind, Option.bind_eq_some_iff] at scanned
    rcases scanned with ⟨⟨numeral, remaining⟩, scannedNumeral, kept⟩
    cases kept
    rcases Numeral.scan_split scannedNumeral with
      ⟨spelled, split, ⟨first, tail, rfl, begins⟩, again⟩
    cases split
    refine ⟨tail, rfl, fun other ends => ?_⟩
    have same := again other (ends rfl)
    rw [List.cons_append] at same
    rw [scanToken_of_begins begins, same]
    rfl
  all_goals
    cases scanned
    exact ⟨[], rfl, fun _ _ => rfl⟩

theorem isNumber_of_prolongs {c : Char} {text following : List Char} {token : Token}
    (scanned : scanToken c text = some (token, following))
    (prolongs : Numeral.prolongs c = true) : token.isNumber = true := by
  unfold scanToken at scanned
  split at scanned
  case h_11 =>
    simp only [Option.bind_eq_bind, Option.bind_eq_some_iff] at scanned
    rcases scanned with ⟨_, _, kept⟩
    cases kept
    rfl
  all_goals exact absurd prolongs (by decide)

/-- The text is the spellings of the tokens, one after the other, and white space. -/
inductive LaidOut : List Token → List Char → Prop
  | done : LaidOut [] []
  | blank {c : Char} {tokens : List Token} {text : List Char} (blank : isBlank c = true)
      (laidOut : LaidOut tokens text) : LaidOut tokens (c :: text)
  | token {token : Token} {tokens : List Token} {lexeme text : List Char}
      (spelled : token.Spelled lexeme) (laidOut : LaidOut tokens text) :
      LaidOut (token :: tokens) (lexeme ++ text)

def StartsApart (tokens : List Token) : Prop :=
  ∀ token, tokens.head? = some token → token.isNumber = false

/-- No two numbers stand next to each other. -/
inductive Apart : List Token → Prop
  | nil : Apart []
  | cons {token : Token} {tokens : List Token}
      (starts : token.isNumber = true → StartsApart tokens) (apart : Apart tokens) :
      Apart (token :: tokens)

theorem LaidOut.endsBefore {tokens : List Token} {text : List Char} (laidOut : LaidOut tokens text)
    (starts : StartsApart tokens) : Numeral.EndsBefore text := by
  cases laidOut with
  | done => nofun
  | blank blank _ =>
      refine Numeral.endsBefore_cons ?_ _
      rw [← Bool.not_eq_true]
      intro prolongs
      rw [isBlank_of_prolongs prolongs] at blank
      cases blank
  | token spelled _ =>
      rcases spelled with ⟨_, scanned⟩
      refine Numeral.endsBefore_cons ?_ _
      rw [← Bool.not_eq_true]
      intro prolongs
      exact absurd (isNumber_of_prolongs scanned prolongs) (by simp [starts _ rfl])

theorem tokens_blank {c : Char} (blank : isBlank c = true) (text : List Char) :
    tokens (c :: text) = tokens text := by
  rw [tokens, if_pos blank]

theorem LaidOut.tokens_eq {spelled : List Token} {text : List Char}
    (laidOut : LaidOut spelled text) (apart : Apart spelled) : tokens text = spelled := by
  induction laidOut with
  | done => rw [tokens]
  | blank blank _ induction => rw [tokens_blank blank, induction apart]
  | token spelled laidOut induction =>
      rcases apart with _ | ⟨starts, apart⟩
      rcases spelled with ⟨visible, scanned⟩
      rcases scanToken_split scanned with ⟨spelled, rfl, again⟩
      -- A number ends here, for what follows it does not begin with another one.
      have same := again _ fun isNumber => laidOut.endsBefore (starts isNumber)
      rw [List.append_nil, List.cons_append, tokens_of_scan visible same, induction apart]

theorem laidOut_tokens {text : List Char} (unbroken : .broken ∉ tokens text) :
    LaidOut (tokens text) text := by
  fun_induction tokens text with
  | case1 => exact .done
  | case2 c rest blank induction => exact .blank blank (induction unbroken)
  | case3 => simp at unbroken
  | case4 c rest visible token following scanned _ induction =>
      rcases scanToken_split scanned with ⟨spelled, rfl, again⟩
      -- What was scanned is a spelling by itself: it is scanned alike at the end of a text.
      have alone : token.Spelled (c :: spelled) := by
        refine .scanned (by simpa using visible) ?_
        simpa using again [] fun _ => nofun
      exact .token alone (induction fun listed => unbroken (List.mem_cons_of_mem token listed))

/-! ## The tokens of a value -/

theorem startsApart_nil : StartsApart [] := by
  intro token first
  cases first

theorem StartsApart.cons {token : Token} (other : token.isNumber = false) (tokens : List Token) :
    StartsApart (token :: tokens) := by
  rintro _ ⟨⟩
  exact other

theorem Apart.other {token : Token} (other : token.isNumber = false) {tokens : List Token}
    (apart : Apart tokens) : Apart (token :: tokens) :=
  .cons (fun isNumber => by simp [other] at isNumber) apart

theorem startsApart_items (items : Items) {rest : List Token} (starts : StartsApart rest) :
    StartsApart (tokensOfItems false items ++ rest) := by
  cases items with
  | item => exact .cons rfl _
  | _ => exact starts

theorem startsApart_members (members : Members) {rest : List Token} (starts : StartsApart rest) :
    StartsApart (tokensOfMembers false members ++ rest) := by
  cases members with
  | member => exact .cons rfl _
  | _ => exact starts

mutual
theorem apart_tokensOf (value : Value) {rest : List Token} (starts : StartsApart rest)
    (apart : Apart rest) : Apart (tokensOf value ++ rest) := by
  cases value with
  | number => exact .cons (fun _ => starts) apart
  | sequence items =>
      have inside : Apart (tokensOfItems true items ++ .closeSequence :: rest) :=
        apart_tokensOfItems items true (.cons rfl rest) (apart.other rfl)
      rw [tokensOf, List.cons_append, List.append_assoc]
      exact inside.other rfl
  | record members =>
      have inside : Apart (tokensOfMembers true members ++ .closeRecord :: rest) :=
        apart_tokensOfMembers members true (.cons rfl rest) (apart.other rfl)
      rw [tokensOf, List.cons_append, List.append_assoc]
      exact inside.other rfl
  | moment => exact apart
  | broken => exact apart
  | _ => exact apart.other rfl

theorem apart_tokensOfItems (items : Items) (isFirst : Bool) {rest : List Token}
    (starts : StartsApart rest) (apart : Apart rest) :
    Apart (tokensOfItems isFirst items ++ rest) := by
  cases items with
  | item value others =>
      have following := apart_tokensOfItems others false starts apart
      have first := apart_tokensOf value (startsApart_items others starts) following
      rw [tokensOfItems, List.append_assoc, List.append_assoc]
      cases isFirst with
      | true => exact first
      | false => exact first.other rfl
  | _ => exact apart

theorem apart_tokensOfMembers (members : Members) (isFirst : Bool) {rest : List Token}
    (starts : StartsApart rest) (apart : Apart rest) :
    Apart (tokensOfMembers isFirst members ++ rest) := by
  cases members with
  | member name value others =>
      have following := apart_tokensOfMembers others false starts apart
      have first := apart_tokensOf value (startsApart_members others starts) following
      have named : Apart
          (.text name :: .colon :: (tokensOf value ++ (tokensOfMembers false others ++ rest))) :=
        (first.other rfl).other rfl
      rw [tokensOfMembers, List.append_assoc, List.cons_append, List.cons_append, List.append_assoc]
      cases isFirst with
      | true => exact named
      | false => exact named.other rfl
  | _ => exact apart
end

end BucketReplication.Json

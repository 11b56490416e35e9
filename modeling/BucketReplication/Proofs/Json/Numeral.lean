import BucketReplication.Json.Record

/-! # Numerals in a text

A numeral is scanned alike whatever follows it, provided that what follows does not
prolong it. The decimal digits of a natural number are one numeral, and an integer
of 64 bits is read as itself. -/

namespace BucketReplication

theorem Text.digitValue_digitChar {value : Nat} (small : value < 10) :
    Text.digitValue (Nat.digitChar value) = value := by
  revert value
  decide

theorem Text.valueOfDigits_toDigits (value : Nat) :
    Text.valueOfDigits 10 (Nat.toDigits 10 value) = value := by
  induction value using Nat.strongRecOn with
  | _ value induction =>
      by_cases small : value < 10
      · rw [Nat.toDigits_of_lt_base small]
        simp [valueOfDigits, digitValue_digitChar small]
      · have shorter := induction (value / 10) (by omega)
        rw [Nat.toDigits_of_base_le (by decide) (by omega)]
        rw [valueOfDigits] at shorter ⊢
        rw [List.foldl_append, shorter]
        simp only [List.foldl_cons, List.foldl_nil, digitValue_digitChar (Nat.mod_lt value (by decide : 10 > 0))]
        omega

namespace Json.Numeral

def Stops (isPart : Char → Bool) (rest : List Char) : Prop :=
  ∀ c, rest.head? = some c → isPart c = false

def prolongs (c : Char) : Bool :=
  c.isDigit || c = '.' || c = 'e' || c = 'E'

/-- No numeral goes on into the text. -/
def EndsBefore (rest : List Char) : Prop :=
  ∀ c, rest.head? = some c → prolongs c = false

theorem EndsBefore.noDigit {rest : List Char} (ends : EndsBefore rest) :
    Stops Char.isDigit rest := by
  intro c first
  have noPart := ends c first
  simp only [prolongs, Bool.or_eq_false_iff] at noPart
  exact noPart.1.1.1

theorem spanDigits_append {digits rest : List Char} (areDigits : ∀ c ∈ digits, c.isDigit = true)
    (stops : Stops Char.isDigit rest) : spanDigits (digits ++ rest) = (digits, rest) := by
  have ends : rest.takeWhile Char.isDigit = [] ∧ rest.dropWhile Char.isDigit = rest := by
    cases rest with
    | nil => simp
    | cons c tail => simp [stops c rfl]
  rw [spanDigits, List.takeWhile_append_of_pos areDigits, List.dropWhile_append_of_pos areDigits,
    ends.1, ends.2, List.append_nil]

theorem scanDigits_append {digits rest : List Char} (nonempty : digits ≠ [])
    (areDigits : ∀ c ∈ digits, c.isDigit = true) (stops : Stops Char.isDigit rest) :
    scanDigits (digits ++ rest) = some (digits, rest) := by
  rw [scanDigits, spanDigits_append areDigits stops]
  cases digits with
  | nil => exact absurd rfl nonempty
  | cons => rfl

theorem scanFraction_of_endsBefore {rest : List Char} (ends : EndsBefore rest) :
    scanFraction rest = some (none, rest) := by
  unfold scanFraction
  split
  · exact absurd (ends '.' rfl) (by decide)
  · rfl

theorem scanExponent_of_endsBefore {rest : List Char} (ends : EndsBefore rest) :
    scanExponent rest = some (none, rest) := by
  cases rest with
  | nil => rfl
  | cons c tail =>
      have noMark : ¬ (c = 'e' ∨ c = 'E') := by
        have noPart := ends c rfl
        simp only [prolongs, Bool.or_eq_false_iff, decide_eq_false_iff_not] at noPart
        rintro (rfl | rfl)
        · exact noPart.1.2 rfl
        · exact noPart.2 rfl
      rw [scanExponent, if_neg noMark]

theorem toDigits_eq_zero_cons {value : Nat} {tail : List Char}
    (leading : Nat.toDigits 10 value = '0' :: tail) : tail = [] := by
  induction value using Nat.strongRecOn generalizing tail with
  | _ value induction =>
      by_cases small : value < 10
      · rw [Nat.toDigits_of_lt_base small, List.cons.injEq] at leading
        exact leading.2.symm
      · exfalso
        rw [Nat.toDigits_of_base_le (by decide) (by omega)] at leading
        cases shorter : Nat.toDigits 10 (value / 10) with
        | nil => exact Nat.toDigits_ne_nil shorter
        | cons first others =>
            rw [shorter, List.cons_append, List.cons.injEq] at leading
            rcases leading with ⟨rfl, -⟩
            have alone := induction (value / 10) (by omega) shorter
            have spelled := Text.valueOfDigits_toDigits (value / 10)
            rw [shorter, alone] at spelled
            have zero : Text.valueOfDigits 10 ['0'] = 0 := rfl
            omega

def ofNatural (value : Nat) : Numeral :=
  ⟨false, Nat.toDigits 10 value, none, none⟩

theorem scanWhole_toDigits (value : Nat) {rest : List Char} (ends : EndsBefore rest) :
    scanWhole (Nat.toDigits 10 value ++ rest) = some (Nat.toDigits 10 value, rest) := by
  have scanned : scanDigits (Nat.toDigits 10 value ++ rest) =
      some (Nat.toDigits 10 value, rest) :=
    scanDigits_append Nat.toDigits_ne_nil
      (fun _ inDigits => Nat.isDigit_of_mem_toDigits (by decide) (by decide) inDigits)
      ends.noDigit
  rw [scanWhole, scanned]
  simp only [Option.bind_eq_bind, Option.bind_some]
  split
  · rename_i second others leading
    exact absurd (toDigits_eq_zero_cons leading) (by simp)
  · rfl

theorem toDigits_eq_cons (value : Nat) :
    ∃ first others, Nat.toDigits 10 value = first :: others ∧ first.isDigit = true := by
  cases digits : Nat.toDigits 10 value with
  | nil => exact absurd digits Nat.toDigits_ne_nil
  | cons first others =>
      exact ⟨first, others, rfl,
        Nat.isDigit_of_mem_toDigits (by decide) (by decide) (digits ▸ List.mem_cons_self)⟩

def scanUnsigned (negative : Bool) (text : List Char) : Option (Numeral × List Char) := do
  let (whole, afterWhole) ← scanWhole text
  let (fraction, afterFraction) ← scanFraction afterWhole
  let (exponent, rest) ← scanExponent afterFraction
  return (⟨negative, whole, fraction, exponent⟩, rest)

theorem scan_of_unsigned {text : List Char} (unsigned : ∀ tail, text ≠ '-' :: tail) :
    scan text = scanUnsigned false text := by
  simp only [scan, scanUnsigned]

theorem scan_toDigits (value : Nat) {rest : List Char} (ends : EndsBefore rest) :
    scan (Nat.toDigits 10 value ++ rest) = some (ofNatural value, rest) := by
  have whole := scanWhole_toDigits value ends
  rcases toDigits_eq_cons value with ⟨first, others, digits, isDigit⟩
  have unsigned : ∀ tail, Nat.toDigits 10 value ++ rest ≠ '-' :: tail := by
    rw [digits]
    rintro tail ⟨⟩
    exact absurd isDigit (by decide)
  rw [scan_of_unsigned unsigned, scanUnsigned, whole]
  simp [scanFraction_of_endsBefore ends, scanExponent_of_endsBefore ends, ofNatural]

theorem number?_ofNatural {value : Nat} (fits : value < significandLimit) :
    (ofNatural value).number? = some (.integer value) := by
  have exact : (ofNatural value).integer? = some (.ofNat value) := by
    simp [integer?, ofNatural, Text.valueOfDigits_toDigits, fits]
  rw [number?, exact]
  rfl

/-! ## Numerals of any form -/

def prolongsFraction (c : Char) : Bool :=
  c.isDigit || c = '.'

theorem Stops.append {isPart : Char → Bool} {spelled rest : List Char}
    (apart : Stops isPart spelled) (stops : Stops isPart rest) :
    Stops isPart (spelled ++ rest) := by
  cases spelled with
  | nil => exact stops
  | cons c tail => exact apart

theorem Stops.noDigit {rest : List Char} (stops : Stops prolongsFraction rest) :
    Stops Char.isDigit rest := by
  intro c first
  have noPart := stops c first
  simp only [prolongsFraction, Bool.or_eq_false_iff] at noPart
  exact noPart.1

theorem EndsBefore.noFraction {rest : List Char} (ends : EndsBefore rest) :
    Stops prolongsFraction rest := by
  intro c first
  have noPart := ends c first
  simp only [prolongs, Bool.or_eq_false_iff] at noPart
  simp [prolongsFraction, noPart.1.1.1, noPart.1.1.2]

theorem scanDigits_split {text digits rest : List Char}
    (scanned : scanDigits text = some (digits, rest)) :
    text = digits ++ rest ∧ digits ≠ [] ∧ ∀ c ∈ digits, c.isDigit = true := by
  have parts : text.takeWhile Char.isDigit ++ text.dropWhile Char.isDigit = text :=
    List.takeWhile_append_dropWhile
  have digital : (text.takeWhile Char.isDigit).all Char.isDigit = true := List.all_takeWhile
  unfold scanDigits spanDigits at scanned
  split at scanned
  · cases scanned
  · rename_i nonempty same
    cases scanned
    rw [Prod.mk.injEq] at same
    rw [same.1, same.2] at parts
    rw [same.1, List.all_eq_true] at digital
    exact ⟨parts.symm, nonempty, digital⟩

theorem scanWhole_split {text digits rest : List Char}
    (scanned : scanWhole text = some (digits, rest)) :
    text = digits ++ rest ∧ (∃ c tail, digits = c :: tail ∧ c.isDigit = true) ∧
      ∀ other, Stops Char.isDigit other → scanWhole (digits ++ other) = some (digits, other) := by
  unfold scanWhole at scanned
  simp only [Option.bind_eq_bind, Option.bind_eq_some_iff] at scanned
  rcases scanned with ⟨⟨found, following⟩, scannedDigits, kept⟩
  rcases scanDigits_split scannedDigits with ⟨rfl, nonempty, digital⟩
  dsimp only at kept
  split at kept
  · cases kept
  · cases kept
    refine ⟨rfl, ?_, fun other stops => ?_⟩
    · rcases List.exists_cons_of_ne_nil nonempty with ⟨c, tail, rfl⟩
      exact ⟨c, tail, rfl, digital c List.mem_cons_self⟩
    · rw [scanWhole, scanDigits_append nonempty digital stops]
      simp only [Option.bind_eq_bind, Option.bind_some]

theorem scanFraction_split {text rest : List Char} {fraction : Option (List Char)}
    (scanned : scanFraction text = some (fraction, rest)) :
    ∃ spelled, text = spelled ++ rest ∧ Stops Char.isDigit spelled ∧
      ∀ other, Stops prolongsFraction other →
        scanFraction (spelled ++ other) = some (fraction, other) := by
  unfold scanFraction at scanned
  split at scanned
  · simp only [Option.bind_eq_bind, Option.bind_eq_some_iff] at scanned
    rcases scanned with ⟨⟨digits, following⟩, scannedDigits, kept⟩
    rcases scanDigits_split scannedDigits with ⟨rfl, nonempty, digital⟩
    cases kept
    refine ⟨'.' :: digits, rfl, ?_, fun other stops => ?_⟩
    · rintro _ ⟨⟩
      decide
    · rw [List.cons_append, scanFraction, scanDigits_append nonempty digital stops.noDigit]
      rfl
  · cases scanned
    refine ⟨[], rfl, nofun, fun other stops => ?_⟩
    rw [List.nil_append]
    unfold scanFraction
    split
    · exact absurd (stops '.' rfl) (by decide)
    · rfl

theorem scanSign_split (text : List Char) :
    ∃ sign, text = sign ++ (scanSign text).2 ∧
      ∀ other c tail, other = c :: tail → c.isDigit = true →
        scanSign (sign ++ other) = ((scanSign text).1, other) := by
  unfold scanSign
  split
  · exact ⟨['+'], rfl, fun _ _ _ _ _ => rfl⟩
  · exact ⟨['-'], rfl, fun _ _ _ _ _ => rfl⟩
  · refine ⟨[], rfl, ?_⟩
    rintro _ c tail rfl digit
    split
    · rename_i same
      cases same
      exact absurd digit (by decide)
    · rename_i same
      cases same
      exact absurd digit (by decide)
    · rfl

theorem scanExponent_split {text rest : List Char} {exponent : Option (Bool × List Char)}
    (scanned : scanExponent text = some (exponent, rest)) :
    ∃ spelled, text = spelled ++ rest ∧ Stops prolongsFraction spelled ∧
      ∀ other, EndsBefore other → scanExponent (spelled ++ other) = some (exponent, other) := by
  unfold scanExponent at scanned
  split at scanned
  · rename_i c unsigned
    split at scanned
    · rename_i isMark
      simp only [Option.bind_eq_bind, Option.bind_eq_some_iff] at scanned
      rcases scanned with ⟨⟨digits, following⟩, scannedDigits, kept⟩
      cases kept
      rcases scanSign_split unsigned with ⟨sign, signed, again⟩
      rcases scanDigits_split scannedDigits with ⟨parts, nonempty, digital⟩
      -- The digits begin behind the sign, so the sign is told from them again.
      rw [parts] at signed
      refine ⟨c :: (sign ++ digits), by simp [signed], ?_, fun other ends => ?_⟩
      · rintro _ ⟨⟩
        rcases isMark with rfl | rfl <;> decide
      · rcases List.exists_cons_of_ne_nil nonempty with ⟨first, tail, rfl⟩
        rw [List.cons_append, List.append_assoc, scanExponent, if_pos isMark,
          again (first :: tail ++ other) first (tail ++ other) rfl
            (digital first List.mem_cons_self)]
        simp only [scanDigits_append nonempty digital ends.noDigit]
        rfl
    · cases scanned
      exact ⟨[], rfl, nofun, fun other ends => scanExponent_of_endsBefore ends⟩
  · cases scanned
    exact ⟨[], rfl, nofun, fun other ends => scanExponent_of_endsBefore ends⟩

theorem scanUnsigned_split {negative : Bool} {text rest : List Char} {numeral : Numeral}
    (scanned : scanUnsigned negative text = some (numeral, rest)) :
    ∃ spelled, text = spelled ++ rest ∧ (∃ c tail, spelled = c :: tail ∧ c.isDigit = true) ∧
      ∀ other, EndsBefore other →
        scanUnsigned negative (spelled ++ other) = some (numeral, other) := by
  unfold scanUnsigned at scanned
  simp only [Option.bind_eq_bind, Option.bind_eq_some_iff] at scanned
  rcases scanned with ⟨⟨whole, afterWhole⟩, scannedWhole, ⟨fraction, afterFraction⟩,
    scannedFraction, ⟨exponent, following⟩, scannedExponent, kept⟩
  cases kept
  rcases scanWhole_split scannedWhole with ⟨rfl, ⟨c, tail, leading, digit⟩, wholeAgain⟩
  rcases scanFraction_split scannedFraction with
    ⟨fractionSpelled, rfl, fractionApart, fractionAgain⟩
  rcases scanExponent_split scannedExponent with
    ⟨exponentSpelled, rfl, exponentApart, exponentAgain⟩
  refine ⟨whole ++ (fractionSpelled ++ exponentSpelled), by simp, ?_, fun other ends => ?_⟩
  · exact ⟨c, tail ++ (fractionSpelled ++ exponentSpelled), by simp [leading], digit⟩
  · have afterFraction := exponentApart.append ends.noFraction
    have afterWhole := fractionApart.append afterFraction.noDigit
    simp only [scanUnsigned, List.append_assoc, wholeAgain _ afterWhole,
      fractionAgain _ afterFraction, exponentAgain _ ends, Option.bind_eq_bind, Option.bind_some,
      Option.pure_def]

def begins (c : Char) : Bool :=
  c.isDigit || c = '-'

/-- A numeral is scanned alike wherever it does not go on. -/
theorem scan_split {text rest : List Char} {numeral : Numeral}
    (scanned : scan text = some (numeral, rest)) :
    ∃ spelled, text = spelled ++ rest ∧ (∃ c tail, spelled = c :: tail ∧ begins c = true) ∧
      ∀ other, EndsBefore other → scan (spelled ++ other) = some (numeral, other) := by
  by_cases signed : ∃ tail, text = '-' :: tail
  · rcases signed with ⟨tail, rfl⟩
    change scanUnsigned true tail = some (numeral, rest) at scanned
    rcases scanUnsigned_split scanned with ⟨spelled, rfl, -, again⟩
    exact ⟨'-' :: spelled, rfl, ⟨'-', spelled, rfl, rfl⟩, again⟩
  · have unsigned : ∀ tail, text ≠ '-' :: tail := fun tail same => signed ⟨tail, same⟩
    rw [scan_of_unsigned unsigned] at scanned
    rcases scanUnsigned_split scanned with ⟨spelled, rfl, ⟨c, tail, rfl, digit⟩, again⟩
    refine ⟨c :: tail, rfl, ⟨c, tail, rfl, by simp [begins, digit]⟩, fun other ends => ?_⟩
    have unsignedAgain : ∀ following, c :: tail ++ other ≠ '-' :: following := by
      rintro following ⟨⟩
      exact absurd digit (by decide)
    rw [scan_of_unsigned unsignedAgain, again other ends]

end Json.Numeral

end BucketReplication

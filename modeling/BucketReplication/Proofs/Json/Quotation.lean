import BucketReplication.Json.Record

/-! # Reading back a printed text

Every character of a text survives its escape: what is printed for it is one
piece of a quotation, and the pieces join to the text again. -/

namespace BucketReplication

theorem Text.digit?_digitChar :
    ∀ value < 16, Text.digit? (Nat.digitChar value) = some value := by
  decide

namespace Json.Piece

/-- The piece that is printed for a character: a control character without a
short escape is a code unit. -/
def printed (c : Char) : Piece :=
  if c.toNat < 0x20 ∧ c ∉ ['\x08', '\x0c', '\n', '\r', '\t'] then .unit c.toNat
  else .character c

theorem unit?_twoHexadecimal {value : Nat} (small : value < 256) :
    unit? '0' '0' (Nat.digitChar (value / 16)) (Nat.digitChar (value % 16)) =
      some (.unit value) := by
  have zero : Text.digit? '0' = some 0 := rfl
  have high := Text.digit?_digitChar (value / 16) (by omega)
  have low := Text.digit?_digitChar (value % 16) (by omega)
  have total : 16 * (value / 16) + value % 16 = value := Nat.div_add_mod value 16
  simp [unit?, zero, high, low, total]

theorem scan_plain {c : Char} (notQuote : c ≠ '"') (notBackslash : c ≠ '\\')
    (visible : ¬ c.toNat < 0x20) (following : List Char) :
    scan (c :: following) =
      (scan following).map fun (pieces, rest) => (.character c :: pieces, rest) := by
  rw [scan]
  · rw [if_neg visible]
    cases scan following <;> rfl
  all_goals simp [notQuote, notBackslash]

theorem scan_unit (first second third fourth : Char) (following : List Char) :
    scan ('\\' :: 'u' :: first :: second :: third :: fourth :: following) =
      (unit? first second third fourth).bind fun piece =>
        (scan following).map fun (pieces, rest) => (piece :: pieces, rest) := by
  rw [scan]
  cases unit? first second third fourth <;> cases scan following <;> rfl

theorem scan_escape {c : Char} {piece : Piece} (escaped : escape? c = some piece)
    (following : List Char) :
    scan ('\\' :: c :: following) =
      (scan following).map fun (pieces, rest) => (piece :: pieces, rest) := by
  have notUnit : c ≠ 'u' := by rintro rfl; cases escaped
  rw [scan]
  · rw [escaped]
    cases scan following <;> rfl
  all_goals simp [notUnit]

theorem scan_split {text following : List Char} {pieces : List Piece}
    (scanned : scan text = some (pieces, following)) :
    ∃ spelled, text = spelled ++ following ∧
      ∀ other, scan (spelled ++ other) = some (pieces, other) := by
  fun_induction scan text generalizing pieces following with
  | case1 => cases scanned
  | case2 rest =>
      cases scanned
      exact ⟨['"'], rfl, fun other => rfl⟩
  | case3 first second third fourth rest induction =>
      simp only [Option.bind_eq_bind, Option.bind_eq_some_iff] at scanned
      rcases scanned with ⟨piece, isUnit, ⟨others, remaining⟩, found, kept⟩
      cases kept
      rcases induction found with ⟨spelled, rfl, again⟩
      refine ⟨'\\' :: 'u' :: first :: second :: third :: fourth :: spelled, rfl, fun other => ?_⟩
      refine (scan_unit first second third fourth (spelled ++ other)).trans ?_
      rw [isUnit, again other]
      rfl
  | case4 c rest _ induction =>
      simp only [Option.bind_eq_bind, Option.bind_eq_some_iff] at scanned
      rcases scanned with ⟨piece, escaped, ⟨others, remaining⟩, found, kept⟩
      cases kept
      rcases induction found with ⟨spelled, rfl, again⟩
      refine ⟨'\\' :: c :: spelled, rfl, fun other => ?_⟩
      refine (scan_escape escaped (spelled ++ other)).trans ?_
      rw [again other]
      rfl
  | case5 => cases scanned
  | case6 c rest notQuote notUnit notEscape visible induction =>
      simp only [Option.bind_eq_bind, Option.bind_eq_some_iff] at scanned
      rcases scanned with ⟨⟨others, remaining⟩, found, kept⟩
      cases kept
      -- A backslash at the very end has no closing quote behind it.
      have notBackslash : c ≠ '\\' := by
        rintro rfl
        cases rest with
        | nil => cases found
        | cons next rest => exact notEscape next rest rfl rfl
      rcases induction found with ⟨spelled, rfl, again⟩
      refine ⟨c :: spelled, rfl, fun other => ?_⟩
      refine (scan_plain notQuote notBackslash visible (spelled ++ other)).trans ?_
      rw [again other]
      rfl

theorem scan_printCharacter (c : Char) (following : List Char) :
    scan ((printCharacter c).toList ++ following) =
      (scan following).map fun (pieces, rest) => (printed c :: pieces, rest) := by
  unfold printCharacter
  split
  case h_8 _ notQuote notBackslash notBackspace notFeed notLine notReturn notTab =>
    by_cases control : c.toNat < 0x20
    · have isUnit : printed c = .unit c.toNat := by
        rw [printed, if_pos]
        simpa [control] using ⟨notBackspace, notFeed, notLine, notReturn, notTab⟩
      have spelled : ("\\u00" ++ twoHexadecimal c.toNat).toList =
          ['\\', 'u', '0', '0', Nat.digitChar (c.toNat / 16), Nat.digitChar (c.toNat % 16)] := by
        simp [twoHexadecimal]
      rw [if_pos control, isUnit, spelled]
      refine (scan_unit _ _ _ _ following).trans ?_
      rw [unit?_twoHexadecimal (by omega), Option.bind_some]
    · have isCharacter : printed c = .character c := by simp [printed, control]
      rw [if_neg control, isCharacter, Char.toString, String.toList_singleton]
      exact scan_plain notQuote notBackslash control following
  all_goals exact scan_escape rfl following

theorem scan_printed (content rest : List Char) :
    scan (content.flatMap (fun c => (printCharacter c).toList) ++ '"' :: rest) =
      some (content.map printed, rest) := by
  induction content with
  | nil => rfl
  | cons c tail induction =>
      rw [List.flatMap_cons, List.append_assoc, scan_printCharacter, induction]
      rfl

theorem join_unit {value : Nat} (low : value < 0xd800) (rest : List Piece) :
    join (.unit value :: rest) = (join rest).map (Char.ofNat value :: ·) := by
  have notHigh : ¬ (0xd800 ≤ value ∧ value < 0xdc00) := by omega
  have notLow : ¬ (0xdc00 ≤ value ∧ value < 0xe000) := by omega
  have noHalf : ¬ (0xd800 ≤ value ∧ value < 0xe000) := by omega
  cases rest with
  | nil => simp [join, noHalf]
  | cons piece rest =>
      cases piece with
      | character => simp [join, noHalf]
      | unit => rw [join, if_neg notHigh, if_neg notLow]

theorem join_printed (content : List Char) : join (content.map printed) = some content := by
  induction content with
  | nil => rfl
  | cons c tail induction =>
      by_cases control : c.toNat < 0x20 ∧ c ∉ ['\x08', '\x0c', '\n', '\r', '\t']
      · rw [List.map_cons, printed, if_pos control, join_unit (by omega), induction,
          Option.map_some, Char.ofNat_toNat]
      · rw [List.map_cons, printed, if_neg control, join, induction]
        rfl

theorem text?_printed (content : String) :
    text? (content.toList.map printed) = some content := by
  rw [text?, join_printed, Option.map_some, String.ofList_toList]

end Json.Piece

end BucketReplication

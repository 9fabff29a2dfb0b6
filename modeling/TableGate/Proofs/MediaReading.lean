import TableGate.Body.Csv
import TableGate.Json.Reader
import TableGate.Proofs.Fallible

/-! What a media type writes for a text reads back as the text. Each round trip holds for every
text, with the rest of a row behind it where the reader has to find the end itself. -/
namespace TableGate.MediaReading
open Text Fallible

variable {c : Char} {text rest : Text}

/-! ### JSON -/

/-- The text of a string literal behind its opening quote, and what follows the literal. -/
def readString (text : Text) : Except Json.Stop (Text × Text) :=
  (Json.string text).map fun (content, rest) => (content, rest.1)

private def unitsOf (literal text : Text) : Except Json.Stop (List Nat × Text) :=
  (Json.units literal text).map fun (units, rest) => (units, rest.1)

private theorem control_escape : ∀ n < 32,
    hexPadded 4 n = ['0', '0', hexDigit (n / 16), hexDigit (n % 16)] ∧
      Json.unit? '0' '0' (hexDigit (n / 16)) (hexDigit (n % 16)) = some n := by decide

/-- A unit in front of those that are read from the rest. -/
private def before (unit : Nat) (read : Except Json.Stop (List Nat × Text)) :
    Except Json.Stop (List Nat × Text) := read.map fun (units, rest) => (unit :: units, rest)

private theorem units_plain {literal : Text} (quote : c ≠ '"') (backslash : c ≠ '\\')
    (printable : 32 ≤ c.toNat) : unitsOf literal (c :: text) = before c.toNat (unitsOf literal text) := by
  have units := Json.units.eq_7 literal c text quote (fun same _ => backslash same)
    (fun _ _ _ _ _ _ same _ => backslash same) (fun _ same _ => backslash same)
    (fun _ _ same _ => backslash same)
  rw [unitsOf, units, if_neg (Nat.not_lt.mpr printable)]
  unfold unitsOf before
  cases Json.units literal text <;> rfl

private theorem units_escape {literal : Text} {e : Char} (other : e ≠ 'u')
    (known : Json.escaped? e = some c) :
    unitsOf literal ('\\' :: e :: text) = before c.toNat (unitsOf literal text) := by
  have units := Json.units.eq_6 literal e text (fun _ _ _ _ _ _ same _ => other same)
    (fun same => other same)
  rw [unitsOf, units, known]
  unfold unitsOf before
  cases Json.units literal text <;> rfl

private theorem units_unicode {literal : Text} {a b d e next : Char} {unit : Nat}
    (known : Json.unit? a b d e = some unit) :
    unitsOf literal ('\\' :: 'u' :: a :: b :: d :: e :: next :: text) =
      before unit (unitsOf literal (next :: text)) := by
  rw [unitsOf, Json.units, known]
  unfold unitsOf before
  cases Json.units literal (next :: text) <;> rfl

private theorem char_of_toNat {n : Nat} (same : c.toNat = n) : c = Char.ofNat n := by
  rw [← same, Char.ofNat_toNat]

/-- A character that is escaped or not is one unit of the literal. -/
private theorem units_jsonChar (literal : Text) (c next : Char) (rest : Text) :
    unitsOf literal (jsonChar c ++ next :: rest) = before c.toNat (unitsOf literal (next :: rest)) := by
  have short {e : Char} (written : jsonChar c = ['\\', e]) (other : e ≠ 'u')
      (known : Json.escaped? e = some c) :
      unitsOf literal (jsonChar c ++ next :: rest) = before c.toNat (unitsOf literal (next :: rest)) := by
    rw [written]
    exact units_escape other known
  by_cases quote : c = '"'
  · subst quote
    exact short rfl (by decide) rfl
  by_cases backslash : c = '\\'
  · subst backslash
    exact short rfl (by decide) rfl
  by_cases feed : c = '\n'
  · subst feed
    exact short rfl (by decide) rfl
  by_cases carriage : c = '\r'
  · subst carriage
    exact short rfl (by decide) rfl
  by_cases tab : c = '\t'
  · subst tab
    exact short rfl (by decide) rfl
  by_cases back : c.toNat = 8
  · obtain rfl := char_of_toNat back
    exact short rfl (by decide) rfl
  by_cases form : c.toNat = 12
  · obtain rfl := char_of_toNat form
    exact short rfl (by decide) rfl
  by_cases control : c.toNat < 32
  · obtain ⟨digits, known⟩ := control_escape _ control
    have written : jsonChar c =
        ['\\', 'u', '0', '0', hexDigit (c.toNat / 16), hexDigit (c.toNat % 16)] := by
      simp only [jsonChar, quote, backslash, feed, carriage, tab, back, form, control, ↓reduceIte, digits]
      rfl
    rw [written]
    exact units_unicode known
  · have written : jsonChar c = [c] := by
      simp only [jsonChar, quote, backslash, feed, carriage, tab, back, form, control, ↓reduceIte]
    rw [written]
    exact units_plain quote backslash (Nat.not_lt.mp control)

private theorem units_jsonInside (literal text rest : Text) :
    unitsOf literal (jsonInside text ++ '"' :: rest) = .ok (text.map Char.toNat, rest) := by
  induction text with
  | nil => rfl
  | cons c text ih =>
    have split : ∃ next more, jsonInside text ++ '"' :: rest = next :: more := by
      cases jsonInside text with
      | nil => exact ⟨_, _, rfl⟩
      | cons next more => exact ⟨_, _, rfl⟩
    obtain ⟨next, more, same⟩ := split
    rw [jsonInside, List.flatMap_cons, List.append_assoc, ← jsonInside, same, units_jsonChar, ← same, ih]
    rfl

private theorem not_surrogate (c : Char) :
    Json.isHighSurrogate c.toNat = false ∧ Json.isLowSurrogate c.toNat = false := by
  have valid : c.toNat < 0xD800 ∨ 0xDFFF < c.toNat := c.valid.imp id And.left
  constructor
  · simp only [Json.isHighSurrogate, Bool.and_eq_false_iff, decide_eq_false_iff_not]
    omega
  · simp only [Json.isLowSurrogate, Bool.and_eq_false_iff, decide_eq_false_iff_not]
    omega

private theorem textOfUnits_toNat (text : Text) : Json.textOfUnits (text.map Char.toNat) = text := by
  induction text with
  | nil => rfl
  | cons c text ih =>
    have plain := not_surrogate c
    cases text with
    | nil => simp [Json.textOfUnits, plain]
    | cons next rest =>
      rw [List.map_cons] at ih ⊢
      rw [List.map_cons, Json.textOfUnits, ← List.map_cons]
      simp [plain, ih]

/-- A string literal is read to its closing quote, whatever its text and whatever follows. -/
theorem readString_jsonInside (text rest : Text) :
    readString (jsonInside text ++ '"' :: rest) = .ok (text, rest) := by
  have read := units_jsonInside ('"' :: (jsonInside text ++ '"' :: rest)) text rest
  unfold unitsOf at read
  unfold readString Json.string
  cases units : Json.units ('"' :: (jsonInside text ++ '"' :: rest)) (jsonInside text ++ '"' :: rest) with
  | error stop =>
    rw [units] at read
    cases read
  | ok found =>
    rw [units] at read
    obtain ⟨content, behind⟩ := Prod.mk.inj (Except.ok.inj read)
    simp [Except.map, content, behind, textOfUnits_toNat]

/-! ### Comma separated values -/

/-- A text with its quotes written twice, as it stands between the quotes of a value. -/
def doubled (text : Text) : Text := replaceChar '"' "\"\"" text

theorem doubled_quote (text : Text) : doubled ('"' :: text) = '"' :: '"' :: doubled text := rfl

/-- Only quotes are written twice. -/
theorem doubled_cons (other : c ≠ '"') (text : Text) : doubled (c :: text) = c :: doubled text := by
  simp [doubled, replaceChar, other]

theorem undouble_doubled (text : Text) : Media.undouble (doubled text) = text := by
  induction text with
  | nil => rfl
  | cons c text ih =>
    by_cases quote : c = '"'
    · subst quote
      rw [doubled_quote, Media.undouble, ih]
    · rw [doubled_cons quote, Media.undouble.eq_2 _ _ (fun _ same _ => quote same), ih]

/-- The rest of a quoted value is read up to its closing quote. -/
theorem pieces_doubled (ended : Bool) (text : Text) {tail : Text} (plain : tail.head? ≠ some '"') :
    Body.Csv.pieces true ended (doubled text ++ '"' :: tail) =
      (Body.Csv.pieces false true tail).modifyHead fun (piece, ended) =>
        (doubled text ++ '"' :: piece, ended) := by
  induction text with
  | nil =>
    cases tail with
    | nil => rfl
    | cons c tail =>
      have other : c ≠ '"' := by simpa using plain
      exact Body.Csv.pieces.eq_3 ended (c :: tail) fun _ same => other (List.cons.inj same).1
  | cons c text ih =>
    by_cases quote : c = '"'
    · subst quote
      rw [doubled_quote, List.cons_append, List.cons_append, Body.Csv.pieces, ih, List.modifyHead_modifyHead]
      rfl
    · rw [doubled_cons quote, List.cons_append, Body.Csv.pieces.eq_5 _ _ _ _ quote, Bool.not_true,
        Bool.and_false, if_neg Bool.false_ne_true, ih, List.modifyHead_modifyHead]
      rfl

private theorem values_quoted (text : Text) {tail : Text} (ended : tail = [] ∨ ∃ more, tail = ',' :: more) :
    (Body.Csv.values ('"' :: (doubled text ++ '"' :: tail))).head? = some (.text (doubled text)) := by
  have plain : tail.head? ≠ some '"' := by
    rcases ended with rfl | ⟨more, rfl⟩
    · simp
    · simp
  rw [Body.Csv.values, if_neg (by simp), Body.Csv.pieces.eq_4, pieces_doubled false text plain]
  rcases ended with rfl | ⟨more, rfl⟩
  · simp [Body.Csv.pieces, Body.Csv.valueOfPiece]
  · simp [Body.Csv.pieces, Body.Csv.valueOfPiece]

/-- The first value of a line is read to its closing quote, whatever its text and whatever other
values follow. -/
theorem first_value (text : Text) (others : List Text) :
    ∃ quoted, (Body.Csv.values (join "," (Media.csv.encode (.text text) :: others))).head? =
      some (.text quoted) ∧ Media.csv.decode quoted = .ok text := by
  refine ⟨doubled text, ?_, congrArg _ (undouble_doubled text)⟩
  have written : Media.csv.encode (.text text) = '"' :: (doubled text ++ ['"']) := rfl
  cases others with
  | nil =>
    rw [written]
    exact values_quoted text (.inl rfl)
  | cons next others =>
    have line : join "," (Media.csv.encode (.text text) :: next :: others) =
        '"' :: (doubled text ++ '"' :: ',' :: join "," (next :: others)) := by
      simp [written, join]
    rw [line]
    exact values_quoted text (.inr ⟨_, rfl⟩)

/-! ### Markup -/

private theorem entity_texts :
    entity? (['a', 'm', 'p'] ++ [';']) = some ['&'] ∧ entity? (['l', 't'] ++ [';']) = some ['<'] ∧
    entity? (['g', 't'] ++ [';']) = some ['>'] ∧
    entity? (['q', 'u', 'o', 't'] ++ [';']) = some ['"'] := by decide +kernel

private theorem markup_texts :
    markupChar '&' = '&' :: (['a', 'm', 'p'] ++ [';']) ∧ markupChar '<' = '&' :: (['l', 't'] ++ [';']) ∧
    markupChar '>' = '&' :: (['g', 't'] ++ [';']) ∧
    markupChar '"' = '&' :: (['q', 'u', 'o', 't'] ++ [';']) ∧
    markupChar '\'' = '&' :: ['#', '0', '3', '9', ';'] := by decide

/-- A reference that is passed over is one that was resolved before. -/
private theorem resolve_skipped (passed rest : Text) :
    resolveReferences passed.length (passed ++ rest) = resolveReferences 0 rest := by
  induction passed with
  | nil => rfl
  | cons c passed ih => exact ih

/-- A known name is read up to its semicolon. -/
private theorem reference_named {name value : Text} (some : name ≠ []) (short : name.length ≤ 32)
    (plain : name.all isReferenceChar = true) (known : entity? (name ++ [';']) = .some value)
    (rest : Text) : reference? (name ++ ';' :: rest) = .some (name.length + 1, .ok value) := by
  have run : ((name ++ ';' :: rest).takeWhile isReferenceChar).take 32 = name := by
    rw [List.takeWhile_append_of_pos (List.all_eq_true.mp plain),
      List.takeWhile_cons_of_neg (by decide), List.append_nil, List.take_of_length_le short]
  have size : withSemicolon name (name ++ ';' :: rest) = name.length + 1 := by
    simp [withSemicolon]
  have taken : (name ++ ';' :: rest).take (name.length + 1) = name ++ [';'] := by
    rw [List.take_append, List.take_of_length_le (Nat.le_succ _)]
    simp
  have long : ¬ name.length + 1 < 2 := by
    have := List.length_pos_of_ne_nil some
    omega
  unfold reference?
  split
  · rename_i following same
    cases name with
    | nil => exact absurd rfl some
    | cons c name =>
      obtain ⟨rfl, -⟩ := List.cons.inj same
      exact absurd (List.all_eq_true.mp plain '#' (by simp)) (by decide)
  · simp only [run, size, taken]
    rw [if_neg (by simpa using some), List.length_append, List.length_singleton, namedReference,
      if_neg long, List.take_of_length_le (by simp), known]
    simp

private theorem reference_apostrophe (rest : Text) :
    reference? (['#', '0', '3', '9', ';'] ++ rest) = some (5, .ok ['\'']) := rfl

private theorem resolve_reference {shown value rest : Text}
    (read : reference? (shown ++ rest) = some (shown.length, .ok value)) :
    resolveReferences 0 ('&' :: shown ++ rest) = (resolveReferences 0 rest).map (value ++ ·) := by
  rw [List.cons_append, resolveReferences, if_pos rfl, read]
  simp only [resolve_skipped]
  cases resolveReferences 0 rest <;> rfl

/-- The written form of a character is read as the character. -/
private theorem resolve_markupChar (c : Char) (rest : Text) :
    resolveReferences 0 (markupChar c ++ rest) = (resolveReferences 0 rest).map (c :: ·) := by
  have named {name : Text} (some : name ≠ []) (short : name.length ≤ 32)
      (plain : name.all isReferenceChar = true) (known : entity? (name ++ [';']) = .some [c])
      (written : markupChar c = '&' :: (name ++ [';'])) :
      resolveReferences 0 (markupChar c ++ rest) = (resolveReferences 0 rest).map (c :: ·) := by
    have read : reference? (name ++ [';'] ++ rest) = .some ((name ++ [';']).length, .ok [c]) := by
      rw [List.append_assoc, List.singleton_append, reference_named some short plain known]
      simp
    rw [written]
    exact resolve_reference read
  obtain ⟨amp, lt, gt, quot⟩ := entity_texts
  obtain ⟨ampText, ltText, gtText, quotText, apostropheText⟩ := markup_texts
  by_cases ampersand : c = '&'
  · subst ampersand
    exact named (by simp) (by simp) (by decide) amp ampText
  by_cases less : c = '<'
  · subst less
    exact named (by simp) (by simp) (by decide) lt ltText
  by_cases greater : c = '>'
  · subst greater
    exact named (by simp) (by simp) (by decide) gt gtText
  by_cases quote : c = '"'
  · subst quote
    exact named (by simp) (by simp) (by decide) quot quotText
  by_cases apostrophe : c = '\''
  · subst apostrophe
    rw [apostropheText]
    exact resolve_reference (reference_apostrophe rest)
  · have plain : markupChar c = [c] := by
      simp only [markupChar, ampersand, less, greater, quote, apostrophe, ↓reduceIte]
    rw [plain, List.singleton_append, resolveReferences, if_neg ampersand]

/-- Markup stands for the text that it was written for. -/
theorem ofMarkup_markup (text : Text) : ofMarkup (markup text) = .ok text := by
  induction text with
  | nil => rfl
  | cons c text ih =>
    rw [ofMarkup] at ih ⊢
    rw [markup, List.flatMap_cons, resolve_markupChar, ← markup, ih]
    rfl

end TableGate.MediaReading

import TableGate.Proofs.MarkupContainment
import TableGate.Proofs.UrlRoundTrip

/-! The encodings of a text. What a media type writes for a text is written in an alphabet of its
own, so that nothing in it ends a parameter, a value or a piece of markup, and it stands for no other
text. The alphabets are said of the written text alone, apart from how it is written. -/
namespace TableGate.EncodedTexts
open IdParts MarkupContainment MediaReading Text TextFacts

/-- The characters that stand for themselves in a URL. -/
def plainChars : Text :=
  "ABCDEFGHIJKLMNOPQRSTUVWXYZabcdefghijklmnopqrstuvwxyz0123456789-_.!~*'()"

/-- A text of plain characters and escapes of two hexadecimal digits. -/
inductive Escaped : Text → Prop
  | nil : Escaped []
  | plain {c : Char} {rest : Text} : c ∈ plainChars → Escaped rest → Escaped (c :: rest)
  | escape {high low : Char} {rest : Text} : high ∈ escapeDigits → low ∈ escapeDigits → Escaped rest →
      Escaped ('%' :: high :: low :: rest)

/-- The references that stand for the characters with a meaning in markup. -/
def references : List Text := ["&amp;", "&lt;", "&gt;", "&quot;", "&#039;"]

/-- A text in which quotes come in pairs only. -/
inductive Paired : Text → Prop
  | nil : Paired []
  | other {c : Char} {rest : Text} : c ≠ '"' → Paired rest → Paired (c :: rest)
  | pair {rest : Text} : Paired rest → Paired ('"' :: '"' :: rest)

variable {c : Char} {front rest text : Text}

/-! ### URLs -/

private theorem escaped_append (first : Escaped front) (second : Escaped rest) :
    Escaped (front ++ rest) := by
  induction first with
  | nil => exact second
  | plain safe _ ih => exact .plain safe ih
  | escape high low _ ih => exact .escape high low ih

private theorem escaped_flatMap {α : Type} {write : α → Text} (each : ∀ item, Escaped (write item))
    (items : List α) : Escaped (items.flatMap write) := by
  induction items with
  | nil => exact .nil
  | cons item items ih => exact escaped_append (each item) ih

private theorem escaped_byte (b : UInt8) : Escaped (percentByte b) := by
  have bound : b.toNat < 256 := b.toNat_lt
  exact .escape (capital_digit _ (by omega)) (capital_digit _ (by omega)) .nil

private theorem safe_plain (safe : isUriSafe c = true) : c ∈ plainChars :=
  each_uriSafe (by decide +kernel) safe

private theorem escaped_char (c : Char) : Escaped (percentChar c) := by
  unfold percentChar
  split
  · rename_i safe
    exact .plain (safe_plain safe) .nil
  · exact escaped_flatMap escaped_byte _

/-- A text is written for a URL in plain characters and escapes. -/
theorem escaped_percentEncode (text : Text) : Escaped (percentEncode text) :=
  escaped_flatMap escaped_char text

/-! ### Markup -/

/-- A character is written as itself or as a reference, and only a reference has an ampersand, which
is its first character. -/
private theorem ampersand_char (written : markupChar c = front ++ '&' :: rest) :
    front = [] ∧ markupChar c ∈ references := by
  have only {inside : Text} (free : '&' ∉ inside) (same : '&' :: inside = front ++ '&' :: rest) :
      front = [] := by
    cases front with
    | nil => rfl
    | cons first front =>
      obtain ⟨-, rfl⟩ := List.cons.inj same
      exact absurd (by simp) free
  unfold markupChar at written ⊢
  split_ifs at written ⊢ with amp less greater quote apostrophe
  · exact ⟨only (by decide) written, by decide⟩
  · exact ⟨only (by decide) written, by decide⟩
  · exact ⟨only (by decide) written, by decide⟩
  · exact ⟨only (by decide) written, by decide⟩
  · exact ⟨only (by decide) written, by decide⟩
  · have member : '&' ∈ [c] := by rw [written]; simp
    exact absurd (List.mem_singleton.mp member).symm amp

/-- Every ampersand of a text that is written for markup begins a reference. -/
theorem ampersand_markup (text : Text) (written : markup text = front ++ '&' :: rest) :
    ∃ reference ∈ references, reference <+: '&' :: rest := by
  induction text generalizing front with
  | nil => cases front <;> cases written
  | cons c text ih =>
    have step : markupChar c ++ markup text = front ++ '&' :: rest := written
    -- The ampersand stands behind the character, or in what is written for it.
    rcases List.append_eq_append_iff.mp step with ⟨later, -, behind⟩ | ⟨inside, own, same⟩
    · exact ih behind
    · cases inside with
      | nil =>
        have behind : markup text = [] ++ '&' :: rest := same.symm
        exact ih behind
      | cons first inside =>
        obtain ⟨rfl, rfl⟩ := List.cons.inj same
        obtain ⟨rfl, known⟩ := ampersand_char own
        refine ⟨_, known, ?_⟩
        rw [own]
        exact ⟨markup text, by simp⟩

private theorem undelimited (text : Text) : ∀ c ∈ markup text, c ∉ ("<>\"'" : Text) := by
  intro c member delimiter
  have ends : isDelimiter c = true := by
    have all : ∀ c ∈ ("<>\"'" : Text), isDelimiter c = true := each_of_all (by decide)
    exact all c delimiter
  have kept : c ∈ delimiters (markup text) := List.mem_filter.mpr ⟨member, ends⟩
  rw [delimiters_markup] at kept
  cases kept

/-! ### Comma separated values -/

/-- Quotes that are written twice come in pairs. -/
theorem paired_doubled (text : Text) : Paired (doubled text) := by
  induction text with
  | nil => exact .nil
  | cons c text ih =>
    by_cases quote : c = '"'
    · subst quote
      exact .pair ih
    · rw [doubled_cons quote]
      exact .other quote ih

/-! ### Every text -/

/-- A text that looks like its own encodings is encoded once more. -/
example :
    Media.urlEncoded.encode (.text "%41+é") = "%2541%2B%C3%A9" ∧
    Media.html.encode (.text "&lt;'") = "&amp;lt;&#039;" ∧
    Media.csv.encode (.text "a\"\"") = "\"a\"\"\"\"\"" := by decide

end TableGate.EncodedTexts

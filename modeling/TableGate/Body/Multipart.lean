import TableGate.Table.Wire

/-! A row from the parts of a multipart form, each of which has headers and a content. The
content of a file is taken byte by byte, unless it is sent in base64; every other content
is a text. -/

namespace TableGate.Body.Multipart

/-- The parts after a delimiter; two hyphens after it end the form, else two bytes are
passed over. -/
def partsAfter (delimiter : List UInt8) (nonempty : delimiter ≠ []) (bytes : List UInt8) :
    List (List UInt8) :=
  if [45, 45].isPrefixOf bytes then []
  else
    match _h : Text.cut? delimiter (bytes.drop 2) with
    | some (part, rest) => part :: partsAfter delimiter nonempty rest
    | none => [bytes.drop 2]
termination_by bytes.length
decreasing_by
  have := Text.length_cut? _h
  have := List.length_pos_iff.mpr nonempty
  simp only [List.length_drop] at *
  omega

/-- Where the content of a part belongs: the field's name, and whether it is a file. -/
structure Disposition where
  field : Text
  isFile : Bool

/-- The disposition that the first header of a part declares. -/
def disposition? (header : Text) : Option Disposition := do
  let rest ← Text.dropKeyword? "content-disposition: " header
  let rest ← (Text.dropKeyword? "form-data" rest).or (Text.dropKeyword? "file" rest)
  let rest ← Text.dropKeyword? "; name=\"" rest
  let field := rest.takeWhile (· ≠ '"')
  match rest.dropWhile (· ≠ '"') with
  | '"' :: rest =>
    if field.isEmpty then none
    else some ⟨field, (Text.dropKeyword? "; filename=" rest).isSome⟩
  | _ => none

/-- What the further headers of a part say of its content. -/
inductive Transfer where
  | plain | base64 | mixed

/-- The transfer that headers declare, up to one that announces a mixed part. -/
def transfer : List Text → Transfer
  | [] => .plain
  | line :: lines =>
    let lower := Text.lower line
    if (("content-type:" : Text).isPrefixOf lower) && Text.hasInfix "multipart/mixed" lower then
      .mixed
    else
      match transfer lines with
      | .plain =>
        if (("content-transfer-encoding:" : Text).isPrefixOf lower) &&
          Text.hasInfix "BASE64" (Text.upper line) then .base64 else .plain
      | later => later

/-- A content without the line break that ends it. -/
def dropLineBreak (content : List UInt8) : List UInt8 :=
  if [13, 10].isSuffixOf content then content.dropLast.dropLast else content

/-- The cell of a content. -/
def cell (table : Table) (column : Column) (isFile isBase64 : Bool) (content : List UInt8) :
    Except Fault Cell :=
  if content.isEmpty then .ok .null
  else if isFile && !isBase64 then .ok (.bytes content)
  else do
    let text ← Text.ofUtf8 content
    if isFile then column.deserialize (.text (Text.strip text))
    else table.readWire column .formData (Text.strip text)

/-- A row with the content of a part. -/
def setPart (table : Table) (row : Row) (part : List UInt8) : Logged Row := do
  match Text.cut? [13, 10, 13, 10] part with
  | none =>
    Logged.warn "Unsupported block without headers skipped"
    return row
  | some (head, content) =>
    let head ← Text.ofUtf8 head
    let lines := Text.splitOnText "\r\n" head
    let first := lines.headD []
    match disposition? first with
    | none =>
      Logged.warn ("Unsupported block skipped: " ++ first)
      return row
    | some disposition =>
      match table.indexOf? disposition.field, table.find? disposition.field with
      | some index, some column =>
        match transfer lines.tail with
        | .mixed =>
          Logged.warn
            ("Mixed multipart block for '" ++ disposition.field ++ "' not supported and skipped")
          return row
        | .plain =>
          let cell ← cell table column disposition.isFile false (dropLineBreak content)
          return row.set index cell
        | .base64 =>
          let cell ← cell table column disposition.isFile true (dropLineBreak content)
          return row.set index cell
      | _, _ =>
        Logged.warn ("Form field '" ++ disposition.field ++ "' not found and skipped")
        return row

/-- The parts of a form; the boundary may stand with or without two hyphens in front. -/
def parts? (boundary : List UInt8) (nonempty : boundary ≠ []) (bytes : List UInt8) :
    Option (List (List UInt8)) :=
  (Text.cut? boundary bytes).map fun (before, rest) =>
    if [45, 45].isSuffixOf before then
      partsAfter (45 :: 45 :: boundary) (by simp) rest
    else partsAfter boundary nonempty rest

/-- The row of a form, if it has any value. -/
def rows (table : Table) (boundary : Text) (bytes : List UInt8) : Logged (List Row) := do
  let delimiter := Text.utf8 boundary
  if nonempty : delimiter = [] then
    Logged.warn "Multipart body without a boundary skipped"
    return []
  else
    match parts? delimiter nonempty bytes with
    | none =>
      Logged.warn "Multipart boundary not found in body"
      return []
    | some parts =>
      let row ← parts.foldlM (setPart table) table.emptyRow
      let row ← Row.kept row
      return row.toList

end TableGate.Body.Multipart

import TableGate.Table.Wire

/-! Rows from comma separated values. The first line names the fields; line breaks and
commas inside quotes belong to a value, and two quotes there stand for one. A value in
quotes is a text, an empty one is no value, and the bare word `null` is the null value. -/

namespace TableGate.Body.Csv

/-- The lines of a text; `open` tells whether a quoted value goes on at its start. Each
character of a line break ends a line. -/
def lines (isOpen : Bool) : Text → List Text
  | [] => [[]]
  | '"' :: rest =>
    match isOpen, rest with
    | true, '"' :: rest => (lines true rest).modifyHead ('"' :: '"' :: ·)
    | true, rest => (lines false rest).modifyHead ('"' :: ·)
    | false, rest => (lines true rest).modifyHead ('"' :: ·)
  | c :: rest =>
    if !isOpen && (c == '\r' || c == '\n') then [] :: lines false rest
    else (lines isOpen rest).modifyHead (c :: ·)

/-- The pieces of a line between its commas, and whether a quoted section ended in each;
`isOpen` tells whether a quoted section goes on, and `ended` whether one has ended. -/
def pieces (isOpen ended : Bool) : Text → List (Text × Bool)
  | [] => [([], ended)]
  | '"' :: rest =>
    match isOpen, rest with
    | true, '"' :: rest => (pieces true ended rest).modifyHead fun (p, e) => ('"' :: '"' :: p, e)
    | true, rest => (pieces false true rest).modifyHead fun (p, e) => ('"' :: p, e)
    | false, rest => (pieces true ended rest).modifyHead fun (p, e) => ('"' :: p, e)
  | c :: rest =>
    if c == ',' && !isOpen then ([], ended) :: pieces false false rest
    else (pieces isOpen ended rest).modifyHead fun (p, e) => (c :: p, e)

/-- The value of a piece; one with a quoted section loses its first and last character. -/
def valueOfPiece : Text × Bool → Wire
  | (piece, true) => .text piece.tail.dropLast
  | ([], false) => .absent
  | (piece, false) => if piece == "null" then .null else .text piece

/-- The values of a line. -/
def values (line : Text) : List Wire :=
  if line.isEmpty then [] else (pieces false false line).map valueOfPiece

/-- The cell of a field's value. -/
def cell (table : Table) (column : Column) : Option Wire → Except Fault Cell
  | some (.text text) => table.readWire column .csv text
  | some .null => .ok .null
  | some .absent | none => .ok .undefined

/-- The row of a line under a header. -/
def row (table : Table) (header : List Wire) (line : Text) : Except Fault Row :=
  let values := values line
  table.columns.mapM fun column =>
    cell table column ((header.idxOf? (.text column.name)).bind (values[·]?))

/-- The rows of a body. -/
def rows (table : Table) (text : Text) : Logged (List Row) := do
  let lines := lines false text
  let header := values (lines.headD [])
  if table.columns.all fun column => !header.contains (.text column.name) then
    Logged.warn "No CSV header matches a field, no rows parsed"
    return []
  else
    let rows ← (lines.tail.filter (!·.isEmpty)).mapM fun line => do
      let row ← row table header line
      row.kept
    return rows.filterMap id

end TableGate.Body.Csv

import TableGate.Number.Integer
import TableGate.Query.FilterParser
import TableGate.Table
import TableGate.Text.Brackets

/-! Tables described by their CREATE TABLE statement. The body in brackets is cut at its
outermost commas into columns and table constraints; of a column the name, the type, an
optional length and the constraint words count. Parts of any other form are passed over. -/

namespace TableGate.CreateTable
open Text

/-- A column as the statement defines it. -/
structure Definition where
  name : Text
  sqlType : Text
  maxLength : Nat
  isPrimaryKey : Bool
  isForeignKey : Bool
  isAutoIncrement : Bool
  isNotNull : Bool
  deriving DecidableEq, Repr

/-- One part of the statement's body. -/
inductive Part where
  | column (definition : Definition)
  | primaryKey (names : List Text)
  | foreignKey (names : List Text)
  | other
  deriving DecidableEq, Repr

/-- What follows the closing character of a text that is not empty. -/
def closed? (closing : Char) (text : Text) : Option Text :=
  match text.takeWhile (· ≠ closing), text.dropWhile (· ≠ closing) with
  | _ :: _, _ :: rest => some rest
  | _, _ => none

/-- What follows the table's name, which may be quoted. -/
def dropTableName? (text : Text) : Option Text :=
  match text with
  | '"' :: rest => closed? '"' rest
  | '[' :: rest => closed? ']' rest
  | '`' :: rest => closed? '`' rest
  | text => if (text.takeWhile isWord).isEmpty then none else some (text.dropWhile isWord)

def dropBlanks (text : Text) : Text := text.dropWhile isBlank

/-- What may follow the body: an option, a semicolon and blanks. -/
def isTail (text : Text) : Bool :=
  let text := dropBlanks text
  let text := dropBlanks ((dropKeyword? "without rowid" text).getD text)
  match text with
  | ';' :: rest => rest.all isBlank
  | text => text.isEmpty

/-- The body of the statement, from the first bracket behind the name to the last bracket
of the text. -/
def body? (statement : Text) : Option Text := do
  let text ← dropKeyword? "create table" statement
  let text := dropBlanks text
  let text := dropBlanks ((dropKeyword? "if not exists" text).getD text)
  let text ← dropTableName? text
  match dropBlanks text with
  | '(' :: rest =>
    let reversed := (dropBlanks rest).reverse
    match reversed.dropWhile (· ≠ ')') with
    | _ :: body =>
      if isTail (reversed.takeWhile (· ≠ ')')).reverse then some body.reverse else none
    | [] => none
  | _ => none

/-- Words with blanks between them, of which there is at least one, at the front of a text
and followed by no word character. -/
def startsWithWords : List Text → Text → Bool
  | [], text => !(text.head?.map isWord).getD false
  | [word], text =>
    match dropKeyword? word text with
    | some rest => startsWithWords [] rest
    | none => false
  | word :: words, text =>
    match dropKeyword? word text with
    | some rest =>
      let next := dropBlanks rest
      next.length < rest.length && startsWithWords words next
    | none => false

/-- The words that a table constraint starts with. -/
def constraintWords : List (List Text) :=
  [["primary", "key"], ["foreign", "key"], ["constraint"], ["unique"], ["check"]]

def isConstraint (text : Text) : Bool := constraintWords.any fun words => startsWithWords words text

/-- The names in the brackets behind the first place where a keyword and brackets stand. -/
def namesAfter? (keyword : Text) : Text → Option (List Text)
  | [] => none
  | c :: rest =>
    let found := do
      let rest ← dropKeyword? keyword (c :: rest)
      match dropBlanks rest with
      | '(' :: rest =>
        match rest.takeWhile (· ≠ ')'), rest.dropWhile (· ≠ ')') with
        | n :: names, _ :: _ => some (n :: names)
        | _, _ => none
      | _ => none
    match found with
    | some names =>
      some (((splitOn ',' names).filter fun name => !(strip name).isEmpty).map fun name =>
        trim (fun c => c == '"' || c == '[' || c == ']' || c == '`') (strip name))
    | none => namesAfter? keyword rest

/-- The digits of a length in brackets, whose second number is passed over. -/
def lengthDigits? (text : Text) : Option Text :=
  match dropBlanks text with
  | '(' :: rest =>
    let rest := dropBlanks rest
    let digits := rest.takeWhile isDigit
    let rest := dropBlanks (rest.dropWhile isDigit)
    let rest := match rest with
      | ',' :: rest => rest
      | rest => rest
    match dropBlanks ((dropBlanks rest).dropWhile isDigit) with
    | ')' :: _ => if digits.isEmpty then none else some digits
    | _ => none
  | _ => none

/-- The name, the type and the digits of the length of a column. -/
def column? (text : Text) : Option (Text × Text × Text) :=
  let text := match text with
    | c :: rest => if c == '"' || c == '[' || c == '`' then rest else text
    | [] => []
  let name := text.takeWhile isWord
  let rest := text.dropWhile isWord
  let rest := match rest with
    | c :: tail => if c == '"' || c == ']' || c == '`' then tail else rest
    | [] => []
  let next := dropBlanks rest
  let sqlType := next.takeWhile isWord
  if name.isEmpty || next.length == rest.length || sqlType.isEmpty then none
  else some (name, sqlType, (lengthDigits? (next.dropWhile isWord)).getD [])

/-- One part of the body. -/
def part (text : Text) : Except Fault Part :=
  if isConstraint text then
    match namesAfter? "primary key" text, namesAfter? "foreign key" text with
    | some names, _ => .ok (.primaryKey names)
    | none, some names => .ok (.foreignKey names)
    | none, none => .ok .other
  else
    match column? text with
    | none => .ok .other
    | some (name, sqlType, digits) => do
      let maxLength ← if digits.isEmpty then .ok 0 else Integer.ofDigits digits
      let words := upper text
      .ok (.column {
        name, maxLength
        sqlType := upper sqlType
        isPrimaryKey := hasInfix "PRIMARY KEY" words
        isForeignKey := hasInfix "REFERENCES" words
        isAutoIncrement := hasInfix "AUTOINCREMENT" words
        isNotNull := hasInfix "NOT NULL" words })

/-- The kind and the length bound of a native type. -/
def kindOf (datesAsString : Bool) (sqlType : Text) (maxLength : Nat) : Kind × Nat :=
  let name := String.ofList sqlType
  if ["INTEGER", "INT", "REAL", "FLOAT", "DOUBLE", "NUMERIC", "DECIMAL"].contains name then
    (.number, 0)
  else if name == "BLOB" then (.blob, maxLength)
  else if ["TEXT", "VARCHAR", "CHAR", "NVARCHAR", "CLOB"].contains name then (.string, maxLength)
  else if ["DATETIME", "DATE"].contains name then
    (if datesAsString then .string else .dateTime, 0)
  else if name == "BOOLEAN" then (.boolean, 0)
  else (.string, 0)

/-- The field of a definition; key constraints of the table count as well as its own. -/
def field (options : TableOptions) (primaryKeys foreignKeys : List Text) (d : Definition) : Column :=
  let (kind, maxLength) := kindOf options.useDatesAsString d.sqlType d.maxLength
  { name := d.name
    kind, maxLength
    sqlType := d.sqlType
    isPrimaryKey := d.isPrimaryKey || primaryKeys.contains d.name
    isForeignKey := d.isForeignKey || foreignKeys.contains d.name
    isAutoIncrement := d.isAutoIncrement
    isNotNull := d.isNotNull }

/-- The fields that are served; a field of the primary key must not be left out. -/
def served (options : TableOptions) : List Column → Except Fault (List Column)
  | [] => .ok []
  | column :: columns =>
    if options.includes column.name then do
      let columns ← served options columns
      .ok (column :: columns)
    else if column.isPrimaryKey then .error (.schema (.keyExcluded column.name))
    else served options columns

/-- The fields of a table, from its statement; an empty one means that there is no table. -/
def columns (options : TableOptions) (statement : Text) : Except Fault (List Column) :=
  if statement.isEmpty then .error (.schema (.tableNotFound options.tableName))
  else
    match body? (strip statement) with
    | none => .error (.schema (.tableNotRecognized options.tableName))
    | some body => do
      let parts ← (splitOutsideBrackets '(' ')' ',' body).mapM fun text => part (strip text)
      let primaryKeys := parts.flatMap fun
        | .primaryKey names => names
        | _ => []
      let foreignKeys := parts.flatMap fun
        | .foreignKey names => names
        | _ => []
      let definitions := parts.filterMap fun
        | .column d => some d
        | _ => none
      served options (definitions.map (field options primaryKeys foreignKeys))

end TableGate.CreateTable

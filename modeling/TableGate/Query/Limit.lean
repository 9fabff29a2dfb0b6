import TableGate.Number.Integer
import TableGate.Text.Blank
import TableGate.Text.Case

/-! Row limits: `N`, `N page P` or `N.P`, with digits of any script. -/

namespace TableGate
open Text

/-- The number of rows, and the page if one is asked for. -/
structure Limit where
  size : Option Nat := none
  page : Option Nat := none
  deriving DecidableEq, Repr

namespace Limit

/-- No rows are asked for, or no limit is set. -/
def isEmpty (limit : Limit) : Bool := limit.size.getD 0 == 0

/-- The mark between the number of rows and the page, if it is there. -/
def dropPageMark (text : Text) : Text :=
  match text with
  | '.' :: rest => rest
  | blank :: rest =>
    if isBlank blank then
      match dropKeyword? "page" rest with
      | some (b :: rest) => if isBlank b then rest else text
      | _ => text
    else text
  | [] => []

/-- The digits of the number of rows and those of the page, which may be missing. -/
def digits? (text : Text) : Option (Text × Text) :=
  let size := text.takeWhile isDigit
  let rest := dropPageMark (text.dropWhile isDigit)
  let page := rest.takeWhile isDigit
  let rest := rest.dropWhile isDigit
  if !size.isEmpty && (rest.isEmpty || rest == ['\n']) then some (size, page) else none

/-- The limit that a text writes. -/
def parse (text : Text) : Except Fault Limit :=
  if text.isEmpty then .ok {}
  else
    match digits? text with
    | none => .error (.query (.invalidLimit text))
    | some (size, page) => do
      let page ← if page.isEmpty then .ok none else (Integer.ofDigits page).map some
      let size ← Integer.ofDigits size
      .ok ⟨some size, page⟩

/-- The limit in SQL. A page P skips `N * (P - 1) + 1` rows, and no limit is written as
minus one. -/
def sql (limit : Limit) : Except Fault Text := do
  let size ← match limit.size with
    | some n => Integer.textOfNat n
    | none => .ok "-1"
  match limit.size, limit.page with
  | some n, some (page + 1) => do
    let offset ← Integer.textOfNat (n * page + 1)
    .ok (size ++ " OFFSET " ++ offset)
  | _, _ => .ok size

end Limit
end TableGate

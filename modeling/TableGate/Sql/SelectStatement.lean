import TableGate.Fault

/-! SELECT statements composed of printed fragments, of which empty ones are left out. -/

namespace TableGate

/-- The printed fragments of a SELECT statement. -/
structure SelectFragments where
  table : Text
  columns : Text
  condition : Text
  order : Text
  limit : Text
  groupBy : Text
  deriving DecidableEq, Repr

namespace SelectFragments

/-- A clause behind its keyword, nothing if the clause is empty. -/
def clause (keyword fragment : Text) : Text :=
  if fragment.isEmpty then [] else keyword ++ fragment

/-- The clauses from the condition to the ordering. -/
def middle (f : SelectFragments) : Text :=
  clause " WHERE " f.condition ++ clause " GROUP BY " f.groupBy ++ clause " ORDER BY " f.order

/-- The statement with the limit at its end. -/
def withLimit (f : SelectFragments) : Text :=
  "SELECT " ++ f.columns ++ " FROM " ++ f.table ++ f.middle ++ clause " LIMIT " f.limit ++ ";"

/-- The statement with the limit as `TOP`, or as a window behind the ordering, which it
needs. -/
def withTop (f : SelectFragments) : Except Fault Text :=
  let body := f.columns ++ " FROM " ++ f.table ++ f.middle
  match if f.limit.isEmpty then [] else Text.splitOnText " OFFSET " f.limit with
  | [size] => .ok ("SELECT TOP " ++ size ++ " " ++ body ++ ";")
  | [size, offset] =>
    if f.order.isEmpty then .error (.value .pagedWithoutOrder)
    else
      .ok ("SELECT " ++ body ++ " OFFSET " ++ offset ++ " ROWS FETCH NEXT " ++ size ++ " ROWS ONLY;")
  | _ => .ok ("SELECT " ++ body ++ ";")

end SelectFragments
end TableGate

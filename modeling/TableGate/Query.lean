import TableGate.Query.Aggregate
import TableGate.Query.FilterParser
import TableGate.Query.Limit
import TableGate.Query.Order
import TableGate.Query.Select

/-! The modifiers of one query, each of them optional. -/

namespace TableGate

/-- The filter, ordering, limit, aggregate and selection of a query. -/
structure Query where
  filter : Option Filter := none
  order : Option Order := none
  limit : Option Limit := none
  aggregate : Option Aggregate := none
  select : Option Select := none
  deriving DecidableEq, Repr

end TableGate

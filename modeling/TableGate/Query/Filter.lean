import TableGate.Text.Basic

/-! Row filters as trees: comparisons of a field with a value, joined by connectives and
negations. The empty filter lets every row pass. -/

namespace TableGate

/-- How a comparison relates a field to a value. -/
inductive Comparator where
  | lt | le | eq | ge | gt | like
  deriving DecidableEq, Repr

namespace Comparator

def all : List Comparator := [lt, le, eq, ge, gt, like]

/-- The word of the query language. -/
def word : Comparator → Text
  | lt => "lt"
  | le => "le"
  | eq => "eq"
  | ge => "ge"
  | gt => "gt"
  | like => "like"

/-- The operator in SQL. -/
def sql : Comparator → Text
  | lt => " < "
  | le => " <= "
  | eq => " = "
  | ge => " >= "
  | gt => " > "
  | like => " LIKE "

def ofWord? (word : Text) : Option Comparator := all.find? fun op => op.word == word

end Comparator

/-- How two filters are joined. -/
inductive Connective where
  | and | or
  deriving DecidableEq, Repr

namespace Connective

/-- The word of the query language. -/
def word : Connective → Text
  | and => "and"
  | or => "or"

/-- The operator in SQL. -/
def sql : Connective → Text
  | and => " AND "
  | or => " OR "

def ofWord? (word : Text) : Option Connective := [and, or].find? fun op => op.word == word

end Connective

/-- A condition on rows. -/
inductive Filter where
  | empty
  | compare (field : Text) (op : Comparator) (value : Text)
  | not (inner : Filter)
  | join (left : Filter) (op : Connective) (right : Filter)
  deriving DecidableEq, Repr

namespace Filter

/-- The filter that lets every row pass. -/
def isEmpty : Filter → Bool
  | empty => true
  | _ => false

/-- A filter that is there and is not empty. -/
def ofOption? (filter : Option Filter) : Option Filter := filter.filter (!·.isEmpty)

/-- Two filters joined; a missing or empty side leaves the other one. -/
def combine (left : Option Filter) (op : Connective) (right : Option Filter) : Option Filter :=
  match ofOption? left, ofOption? right with
  | some l, some r => some (join l op r)
  | some l, none => some l
  | none, r => r

end Filter
end TableGate

import TableGate.Fault
import TableGate.Text.Blank
import TableGate.Text.Case
import TableGate.Text.Word

/-! Aggregates: `count|sum|avg|min|max(field),…`, the functions in any case. -/

namespace TableGate
open Text

/-- A function over the values of a field. -/
inductive AggregateFunction where
  | count | sum | avg | min | max
  deriving DecidableEq, Repr

namespace AggregateFunction

def all : List AggregateFunction := [count, sum, avg, min, max]

/-- The function's name, in queries as in SQL. -/
def word : AggregateFunction → Text
  | count => "count"
  | sum => "sum"
  | avg => "avg"
  | min => "min"
  | max => "max"

def ofWord? (word : Text) : Option AggregateFunction := all.find? fun f => f.word == word

end AggregateFunction

/-- Functions with the fields that they are applied to. -/
structure Aggregate where
  calls : List (AggregateFunction × Text) := []
  deriving DecidableEq, Repr

namespace Aggregate

def isEmpty (aggregate : Aggregate) : Bool := aggregate.calls.isEmpty

/-- The fields that a function is applied to. -/
def fields (aggregate : Aggregate) : List Text := aggregate.calls.map (·.2)

/-- A character of an argument. -/
def isArgumentChar (c : Char) : Bool := isWord c || isBlank c || c == '-' || c == '#'

/-- The function's name as it is written, and the argument. -/
def call? (text : Text) : Option (Text × Text) := do
  let (word, rest) ← AggregateFunction.all.findSome? fun f =>
    (dropKeyword? f.word text).map fun rest => (text.take f.word.length, rest)
  match rest with
  | '(' :: rest =>
    let argument := rest.takeWhile isArgumentChar
    if !argument.isEmpty && rest.dropWhile isArgumentChar == [')'] then some (word, argument)
    else none
  | _ => none

/-- The call that one token of an aggregate writes. -/
def parseCall (token : Text) : Except Fault (AggregateFunction × Text) :=
  match call? (strip token) with
  | none => .error (.query (.invalidAggregate token))
  | some (word, argument) =>
    match AggregateFunction.ofWord? (lower word) with
    | some f => .ok (f, strip argument)
    | none => .error (.conversion (.notMember (lower word) "AggregateFunction"))

/-- The aggregate that a text writes. -/
def parse (text : Text) : Except Fault Aggregate :=
  if text.isEmpty then .ok {}
  else do
    let calls ← (splitOn ',' text).mapM parseCall
    .ok ⟨calls⟩

end Aggregate
end TableGate

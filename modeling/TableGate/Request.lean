import TableGate.Config.Settings
import TableGate.Media
import TableGate.Query
import TableGate.Text.Percent

/-! The parameters of a request: the query modifiers, and the media types of its body and
of the answer that it prefers. -/

namespace TableGate

/-- The parameters of one request. -/
structure Request where
  query : Query := {}
  bodyType : Media := .json
  answerType : Media := .json
  boundary : Text := []
  deriving Repr

namespace Request

/-- The boundary that a header of a multipart body names. -/
def boundaryOf (header : Text) : Text :=
  match Text.cut? "boundary=" header with
  | some (_, rest) => Text.trim (· == '"') (Text.strip (Text.cutAt ';' rest).1)
  | none => []

/-- The media type of a body and its boundary. Types that no body can have count as
JSON. -/
def bodyTypeOf (header : Text) : Media × Text :=
  match Media.ofHeader? header with
  | some .formData => (.formData, boundaryOf header)
  | some .csv => (.csv, [])
  | some .urlEncoded => (.urlEncoded, [])
  | _ => (.json, [])

/-- The first media type that an accept header names. -/
def answerTypeOf (header : Text) : Media :=
  ((Text.splitOn ',' header).findSome? Media.ofHeader?).getD .json

/-- A modifier that is there and not empty. -/
def modifier {α : Type} (value : Option Text) (parse : Text → Except Fault α) :
    Except Fault (Option α) :=
  match value with
  | none | some [] => .ok none
  | some text => (parse text).map some

/-- The query that parameters describe. -/
def queryOf (settings : Settings) (parameter : Text → Option Text) : Except Fault Query := do
  let filter ← modifier (parameter settings.filterParam) Filter.parse
  let order ← modifier (parameter settings.orderParam) Order.parse
  let limit ← modifier (parameter settings.limitParam) Limit.parse
  let aggregate ← modifier (parameter settings.aggregateParam) Aggregate.parse
  let select ← modifier (parameter settings.selectParam) fun text => .ok (Select.parse text)
  .ok { filter, order, limit, aggregate, select }

/-- The first of several spellings of a header that is there and not empty. -/
def headerOf (header : Text → Option Text) (names : List Text) : Text :=
  ((names.filterMap header).find? (!·.isEmpty)).getD []

/-- The request that parameters and headers describe. -/
def ofParameters (settings : Settings) (parameter header : Text → Option Text) :
    Except Fault Request := do
  let query ← queryOf settings parameter
  let (bodyType, boundary) := bodyTypeOf (headerOf header ["content-type", "Content-Type"])
  let answerType := answerTypeOf (headerOf header ["accept", "Accept"])
  .ok { query, bodyType, answerType, boundary }

/-- The query of a URL: what stands between the first question mark and the fragment. -/
def queryText (url : Text) : Text := ((Text.cutAt '?' (Text.cutAt '#' url).1).2).getD []

/-- The parameters of a URL, decoded; one without an equals sign is empty. -/
def urlParameters (url : Text) : List (Text × Text) :=
  let decode (text : Text) := Text.percentDecode (Text.replaceChar '+' " " text)
  ((Text.splitOn '&' (queryText url)).filter (!·.isEmpty)).map fun field =>
    let (name, value) := Text.cutAt '=' field
    (decode name, decode (value.getD []))

/-- The value of a header; names are compared without case, and several values are one
list. -/
def headerIn (headers : List (Text × Text)) (name : Text) : Option Text :=
  let values := (headers.filter fun (key, _) => key.map Char.toLower == name.map Char.toLower).map (·.2)
  if values.isEmpty then none else some (Text.join ", " values)

/-- The request of a URL and headers. -/
def ofUrl (settings : Settings) (url : Text) (headers : List (Text × Text)) :
    Except Fault Request :=
  let parameters := urlParameters url
  ofParameters settings (fun name => (parameters.find? (·.1 == name)).map (·.2)) (headerIn headers)

end Request
end TableGate

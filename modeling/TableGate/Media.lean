import TableGate.Text.Blank
import TableGate.Text.Case
import TableGate.Text.JsonString
import TableGate.Text.Markup
import TableGate.Text.Percent

/-! The media types of bodies, and how each writes one value of a row. A value on the wire
is a text, null or absent; each media type has its own way of telling these apart, so far
as it can. -/

namespace TableGate

/-- The media types of request and response bodies. -/
inductive Media where
  | json | csv | formData | urlEncoded | html
  deriving DecidableEq, Repr

/-- A value of a row on the wire. -/
inductive Wire where
  | text (text : Text)
  | null
  | absent
  deriving DecidableEq, Repr

namespace Media

/-- The registered name. -/
def name : Media → Text
  | json => "application/json"
  | csv => "text/csv"
  | formData => "multipart/form-data"
  | urlEncoded => "application/x-www-form-urlencoded"
  | html => "text/html"

def all : List Media := [json, csv, formData, urlEncoded, html]

/-- Bodies of every type but HTML can be read. -/
def isInput (media : Media) : Bool := media != html

/-- The media type of a header value, parameters aside. -/
def ofHeader? (header : Text) : Option Media :=
  let name := Text.lower (Text.strip (Text.cutAt ';' header).1)
  all.find? fun media => media.name == name

/-- A value as the media type writes it. -/
def encode : Media → Wire → Text
  | json, .text text => Text.jsonString text
  | json, _ => "null"
  | csv, .text text => '"' :: Text.replaceChar '"' "\"\"" text ++ ['"']
  | csv, .null => "null"
  | csv, .absent => []
  | formData, .text text => text
  | formData, _ => []
  | urlEncoded, .text text => Text.percentEncode text
  | urlEncoded, .null => "null"
  | urlEncoded, .absent => []
  | html, .text text => Text.markup text
  | html, _ => []

/-- Two quotes in a row stand for one. -/
def undouble : Text → Text
  | '"' :: '"' :: rest => '"' :: undouble rest
  | c :: rest => c :: undouble rest
  | [] => []

/-- The text behind a value as the media type writes it; quotes around it are already
gone. -/
def decode : Media → Text → Except Fault Text
  | csv, text => .ok (undouble text)
  | urlEncoded, text => .ok (Text.percentDecode text)
  | html, text => Text.ofMarkup text
  | _, text => .ok text

end Media
end TableGate

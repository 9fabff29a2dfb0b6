import TableGate.Text.Blank

/-! The outcome of a request: success or a status that reports an error, and messages. A
new error moves the status of the one before it to the messages, so that none is lost. -/

namespace TableGate

/-- How much a message matters. -/
inductive Level where
  | error | warning | info | debug
  deriving DecidableEq, Repr

namespace Level

/-- What messages of a level start with. -/
def mark : Level → Text
  | error => "SQLREST ERROR"
  | warning => "SQLREST WARNING"
  | info => "SQLREST INFO"
  | debug => "SQLREST DEBUG"

/-- A message of an operation. -/
def tag (level : Level) (operation message : Text) : Text :=
  level.mark ++ " (" ++ operation ++ "): " ++ message

/-- Whether a message is of a level. -/
def marks (level : Level) (message : Text) : Bool := level.mark.isPrefixOf message

end Level

/-- The outcome of a request. -/
structure Outcome where
  success : Bool := true
  code : Int := 200
  status : Text := "OK"
  messages : List Text := []
  deriving DecidableEq, Repr

namespace Outcome

/-- Success, with the messages kept. -/
def setOk (outcome : Outcome) : Outcome :=
  { outcome with success := true, code := 200, status := "OK" }

/-- An error of an operation. A text that already is an error message stays as it is. -/
def fail (outcome : Outcome) (code : Int) (text operation : Text) : Outcome :=
  { success := false
    code
    status := if Level.error.marks text then text else Level.error.tag operation text
    messages :=
      if outcome.status = ("OK" : Text) then outcome.messages
      else outcome.messages ++ [outcome.status] }

/-- A message of an operation, unless it is blank. -/
def note (outcome : Outcome) (level : Level) (text operation : Text) : Outcome :=
  let text := Text.strip text
  if text.isEmpty then outcome
  else { outcome with messages := outcome.messages ++ [level.tag operation text] }

/-- A message as the value of a header, which has no line breaks. -/
def headerValue (message : Text) : Text :=
  Text.replaceChar '\n' " " (Text.replaceChar '\r' " " message)

/-- The numbered headers of the messages of some levels. -/
def headers (outcome : Outcome) (levels : List Level) : List (Text × Text) :=
  let chosen := outcome.messages.filter fun message => levels.any (·.marks message)
  chosen.zipIdx.map fun (message, i) =>
    ("X-SQLREST-MESSAGE-" ++ Text.ofNat (i + 1), headerValue message)

/-- The outcome as one line. -/
def line (outcome : Outcome) : Text :=
  "ApiResult: status_code=" ++ Text.ofInt outcome.code ++ ", status_message=" ++ outcome.status ++
    ", messages=[" ++ Text.join ", " outcome.messages ++ "]"

/-- The first error among messages of the database. -/
def firstError? (messages : List Text) : Option Text := messages.find? Level.error.marks

end Outcome
end TableGate

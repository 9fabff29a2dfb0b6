import TableGate.Log

/-! Where the configuration is read from: a file that is named explicitly, or else the one
that a variable of the environment names, or else a file of the home directory. -/

namespace TableGate.Config

/-- A path without empty parts and parts of one point. -/
def normalPath (path : Text) : Text :=
  let parts := (Text.splitOn '/' path).filter fun part => !part.isEmpty && part != ['.']
  let root : Text := if path.head? == some '/' then "/" else []
  let normal := root ++ Text.join "/" parts
  if normal.isEmpty then "." else normal

/-- A path with the home directory in place of a tilde at its front. -/
def expandHome (home path : Text) : Text :=
  match path with
  | ['~'] => home
  | '~' :: '/' :: rest => normalPath (home ++ '/' :: rest)
  | path => normalPath path

/-- A path if something is there, else a warning. -/
def ifThere (isThere : Text → Bool) (label path : Text) : Logged (Option Text) :=
  if isThere path then pure (some path)
  else do
    Logged.warn (label ++ " path does not exist: " ++ path)
    return none

/-- The path of the configuration, if there is one. -/
def locate (home : Text) (isThere : Text → Bool) (explicit named : Option Text) :
    Logged (Option Text) :=
  match explicit.filter (!·.isEmpty), named.filter (!·.isEmpty) with
  | some path, _ => ifThere isThere "Explicit config" (normalPath path)
  | none, some path => ifThere isThere "SQLREST_CONFIG" (expandHome home path)
  | none, none =>
    let standard := normalPath (home ++ "/.sqlrest/config.yml")
    pure (if isThere standard then some standard else none)

end TableGate.Config

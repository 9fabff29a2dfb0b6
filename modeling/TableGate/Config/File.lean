import TableGate.Config.Check
import TableGate.Config.Location
import TableGate.Yaml.Value

/-! Configuration files. A file describes the shared settings and the tables by name. An
entry for a table may be left empty, and its name is the name of the table unless the entry
gives another one. Without a file all settings have their defaults and no table is
configured. -/

namespace TableGate

/-- The settings of an application and the options of its tables, in the order in which
they are configured. -/
structure Config where
  settings : Settings := .standard
  tables : List (Text × TableOptions) := []
  deriving DecidableEq, Repr

namespace Config

/-- The entries of a part of a document; an empty part has none. -/
def entries (document : List (ConfigValue × ConfigValue)) (part : Text) :
    Except ConfigValue (List (ConfigValue × ConfigValue)) :=
  match (ConfigValue.lookup? part document).getD .null with
  | .dict _ entries => .ok entries
  | value => if value.isFalsy then .ok [] else .error value

/-- The name of the first entry that holds a dictionary. -/
def firstName? (identity : Nat) (tables : List (ConfigValue × ConfigValue)) :
    Option ConfigValue :=
  tables.findSome? fun (name, value) =>
    match value with
    | .dict other _ => if other == identity then some name else none
    | _ => none

/-- The options of an entry with the table's name filled in. A dictionary that stands at
several entries has the name of the first of them at all of them. -/
def named (tables : List (ConfigValue × ConfigValue)) (name value : ConfigValue) : ConfigValue :=
  match value with
  | .null => .dict 0 [(.text "table_name", name)]
  | .dict identity entries =>
    match ConfigValue.lookup? "table_name" entries with
    | some _ => value
    | none =>
      .dict identity (entries ++ [(.text "table_name", (firstName? identity tables).getD name)])
  | value => value

/-- The settings of a document. -/
def checkSettings (document : List (ConfigValue × ConfigValue)) : Checked Settings :=
  match entries document "settings" with
  | .ok entries => OptionSource.settings ⟨["settings"], entries⟩
  | .error _ => ⟨.standard, [⟨["settings"], .notDictionary "RestSettings"⟩]⟩

/-- The name and the options of one table. -/
def checkTable (tables : List (ConfigValue × ConfigValue)) (key value : ConfigValue) :
    Checked (Text × TableOptions) := do
  let location : List Text := ["apis", key.keyText]
  let name ← OptionSource.checked (location ++ [("[key]" : Text)]) [] key.readText
  let options : TableOptions ←
    match named tables key value with
    | .dict _ entries => OptionSource.tableOptions ⟨location, entries⟩
    | _ => ⟨{ tableName := name }, [⟨location, .notDictionary "ApiConfig"⟩]⟩
  return (name, options)

/-- The configuration that a document describes. -/
def ofValue (document : ConfigValue) : Except Fault Config :=
  let document := if document.isFalsy then .dict 0 [] else document
  match document with
  | .dict _ document =>
    match entries document "apis" with
    | .ok tables =>
      Checked.result do
        let settings ← checkSettings document
        let tables ← tables.mapM fun (key, value) => checkTable tables key value
        return { settings, tables := distinctKeys tables }
    | .error _ => .error (.conversion .apisNotDictionary)
  | _ => .error (.conversion .configNotDictionary)

/-- The text of a file. A character that is cut off by the end of the file is reported by
its place in the part that is left of it. -/
def decode (bytes : List UInt8) : Except Fault Text :=
  (Text.ofUtf8 bytes).mapError fun fault =>
    match fault with
    | .utf8 .unexpectedEnd byte first last => .utf8 .unexpectedEnd byte 0 (last - first)
    | fault => fault

/-- The configuration in a file, which holds at most one YAML document. -/
def ofFile (bytes : List UInt8) : Except Fault Config := do
  ofValue (← Yaml.parse (← decode bytes))

/-- The configuration from the place where it is kept. `files` gives the contents of the
files that there are. -/
def load (home : Text) (files : Text → Option (List UInt8)) (explicit named : Option Text) :
    Logged Config := do
  let located ← locate home (fun path => (files path).isSome) explicit named
  match located.bind fun path => (files path).map (path, ·) with
  | some (path, bytes) => Logged.lift ((ofFile bytes).mapError (.configFile path))
  | none => return {}

/-- The options of a table. -/
def find (config : Config) (name : Text) : Except Fault TableOptions :=
  match config.tables.lookup name with
  | some options => .ok options
  | none => .error (.unknownApi name ((config.tables.map (·.1)).mergeSort Text.le))

end Config
end TableGate

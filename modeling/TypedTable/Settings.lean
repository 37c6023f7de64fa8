import TypedTable.Error
import TypedTable.Toml.Reader
/-!
# Connection settings

`Settings` say where and how to connect. They are read from a TOML document (`Settings.ofText`) or
from variables of the environment (`Settings.ofVariables`); what is not given has a default.

A document may call the user and the database by either of two names, but not by both, and may hold
other entries, which do not count.
-/

namespace TypedTable

/-- Where and how to connect. -/
structure Settings where
  host : String := "localhost"
  port : UInt16 := 5432
  user : Option String := none
  password : Option String := none
  database : Option String := none
  /-- Whether statements are to be logged. -/
  echo : Bool := false
deriving DecidableEq

/-- What a host names. -/
inductive Address
  /-- A machine in a network. -/
  | network (host : String)
  /-- A directory with a socket. -/
  | socket (path : String)
deriving DecidableEq

namespace Settings

/-- The name under which the program connects. -/
def applicationName : String := "pgtable"

/-- What the host names: a directory if it begins with a slash. -/
def address (s : Settings) : Address :=
  if s.host.toList.head? = some '/' then .socket s.host else .network s.host

/-! ### From a document -/

/-- A value that must be a text. -/
def asText? : Toml.Node → Option String
  | .text s => some s
  | _ => none

/-- A value that must be a truth value. -/
def asBool? : Toml.Node → Option Bool
  | .boolean b => some b
  | _ => none

/-- A value that must be the number of a port. -/
def asPort? : Toml.Node → Option UInt16
  | .integer n => if 0 ≤ n ∧ n < 65536 then some (UInt16.ofNat n.toNat) else none
  | _ => none

/-- The value of an entry, if it is there; nothing if it is there and is not of its kind. -/
def entry? {α : Type} (read : Toml.Node → Option α) (entries : Toml.Entries) (name : String) :
    Option (Option α) :=
  match entries.find? name with
  | none => some none
  | some node => (read node).map some

/-- The value of an entry with two names; nothing if both are there. -/
def entryOf? {α : Type} (read : Toml.Node → Option α) (entries : Toml.Entries)
    (name other : String) : Option (Option α) :=
  match entries.find? name, entries.find? other with
  | some _, some _ => none
  | some _, none => entry? read entries name
  | none, _ => entry? read entries other

/-- The settings of a document. -/
def ofEntries? (entries : Toml.Entries) : Option Settings := do
  let host ← entry? asText? entries "host"
  let port ← entry? asPort? entries "port"
  let user ← entryOf? asText? entries "username" "user"
  let password ← entry? asText? entries "password"
  let database ← entryOf? asText? entries "database" "dbname"
  let echo ← entry? asBool? entries "echo"
  return ⟨host.getD "localhost", port.getD 5432, user, password, database, echo.getD false⟩

/-- The settings of a text that is a document. -/
def ofText (text : String) : Except Error Settings :=
  match (Toml.Entries.ofText? text).bind ofEntries? with
  | some s => .ok s
  | none => .error (.settings .unreadable)

/-- The settings of a file with these contents; without contents there is no file. -/
def ofFile (contents : Option String) : Except Error Settings :=
  match contents with
  | some text => ofText text
  | none => .error (.settings .unreadable)

/-! ### From variables -/

/-- The truth value that a variable stands for. -/
def flag? (text : String) : Option Bool :=
  let word := String.ofList ((Text.trim text.toList).map Char.toLower)
  if word ∈ ["1", "true", "yes", "on"] then some true
  else if word ∈ ["", "0", "false", "no", "off"] then some false
  else none

/-- The port that a variable stands for. -/
def port? (text : String) : Option UInt16 :=
  (Text.count? 65536 (Text.trim text.toList)).map UInt16.ofNat

/-- The value of a variable that is set, or a default. -/
def fromVariable {α : Type} (read : String → Option α) (lookup : String → Option String)
    (name : String) (default : α) : Except Error α :=
  match lookup name with
  | none => .ok default
  | some text =>
    match read text with
    | some a => .ok a
    | none => .error (.settings (.setting name text))

/-- The settings that variables give. -/
def ofVariables (lookup : String → Option String) : Except Error Settings := do
  let port ← fromVariable port? lookup "PGPORT" 5432
  let echo ← fromVariable flag? lookup "PGTABLE_ECHO" false
  return {
    host := (lookup "PGHOST").getD "localhost"
    port := port
    user := lookup "PGUSER"
    password := lookup "PGPASSWORD"
    database := lookup "PGDATABASE"
    echo := echo }

end Settings

end TypedTable

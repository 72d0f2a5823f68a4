import CobolSubset.Text.Basic

/-!
# Targets and options

What decides about the generated code besides the program: the language, the treatment of quotation
marks, the name of the Java class, the header line of Rust code, and the database that embedded
queries go to.
-/

namespace CobolSubset

/-- A language that code is generated in. -/
inductive Target where
  | java
  | rust
deriving DecidableEq, Repr

namespace Target

def all : List Target := [java, rust]

/-- The name in data and on the command line. -/
def key : Target → Text
  | java => "java".toList
  | rust => "rust".toList

def name : Target → Text
  | java => "Java".toList
  | rust => "Rust".toList

def extension : Target → Text
  | java => "java".toList
  | rust => "rs".toList

def ofKey? (key : Text) : Option Target :=
  all.find? fun target => target.key == key

/-- A name, in small letters, that is no target's. -/
structure UnknownName where
  name : Text
deriving DecidableEq, Repr

def UnknownName.message (error : UnknownName) : Text :=
  "unsupported target: ".toList ++ error.name

/-- The target with the given name or extension, in small or capital letters. -/
def ofName (text : Text) : Except UnknownName Target :=
  let lower := text.toLower
  match all.find? fun target => target.key == lower || target.extension == lower with
  | some target => .ok target
  | none => .error ⟨lower⟩

end Target

/-- The database of embedded queries. -/
structure Database where
  host : Text := "localhost".toList
  /-- The number at which the server listens. -/
  portNumber : UInt16 := 3306
  database : Text := "mydb".toList
  user : Text := "user".toList
  password : Text := "password".toList
deriving DecidableEq, Repr

namespace Database

/-- The address that Java code connects to. -/
def jdbcUrl (db : Database) : Text :=
  "jdbc:mysql://".toList ++ db.host ++ ':' :: Text.ofNat db.portNumber.toNat ++ '/' :: db.database

/-- The address that Rust code connects to, with user and password. -/
def mysqlUrl (db : Database) : Text :=
  "mysql://".toList ++ db.user ++ ':' :: db.password ++ '@' :: db.host ++ ':' :: Text.ofNat db.portNumber.toNat
    ++ '/' :: db.database

end Database

/-- Removes one pair of enclosing quotation marks. A text that does not both start and end with one
of its own stays as it is. -/
def stripQuotes : Text → Text
  | '"' :: rest => if rest.getLast? = some '"' then rest.dropLast else '"' :: rest
  | text => text

/-- What decides about the generated code besides the program. -/
structure Options where
  target : Target := .java
  stripQuotes : Bool := true
  className : Text := "Program".toList
  includeHeader : Bool := true
  database : Database := {}
deriving DecidableEq, Repr

/-- The text of a string literal as these options take it. -/
def Options.literal (options : Options) (raw : Text) : Text :=
  if options.stripQuotes then CobolSubset.stripQuotes raw else raw

end CobolSubset

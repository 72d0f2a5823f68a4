import CobolSubset.Json.Basic
import CobolSubset.Target.Basic

/-!
# Options in JSON

All fields have to be there. The number at which the database listens is a whole number below 65536.
-/

namespace CobolSubset

def Target.ofJson? (json : Json) : Option Target := do
  let key ← json.choice?
  Target.ofKey? key

def Database.portNumberOfJson? (json : Json) : Option UInt16 := do
  let n ← json.int?
  if 0 ≤ n ∧ n < 65536 then some (UInt16.ofNat n.toNat) else none

namespace Database

def toJson (db : Database) : Json :=
  .object [("host".toList, .string db.host), ("port".toList, .ofNat db.portNumber.toNat),
    ("database".toList, .string db.database), ("user".toList, .string db.user),
    ("password".toList, .string db.password)]

def ofJson? (json : Json) : Option Database :=
  match json.record? ["host".toList, "port".toList, "database".toList, "user".toList, "password".toList] with
  | some [host, portNumber, database, user, password] => do
    let host ← host.text?
    let portNumber ← portNumberOfJson? portNumber
    let database ← database.text?
    let user ← user.text?
    let password ← password.text?
    return { host, portNumber, database, user, password }
  | _ => none

end Database

namespace Options

def toJson (options : Options) : Json :=
  .object [("target".toList, .string options.target.key),
    ("strip_string_quotes".toList, .bool options.stripQuotes),
    ("class_name".toList, .string options.className),
    ("include_header".toList, .bool options.includeHeader),
    ("database".toList, options.database.toJson)]

def ofJson? (json : Json) : Option Options :=
  match json.record? ["target".toList, "strip_string_quotes".toList, "class_name".toList,
      "include_header".toList, "database".toList] with
  | some [target, stripQuotes, className, includeHeader, database] => do
    let target ← Target.ofJson? target
    let stripQuotes ← stripQuotes.bool?
    let className ← className.text?
    let includeHeader ← includeHeader.bool?
    let database ← Database.ofJson? database
    return { target, stripQuotes, className, includeHeader, database }
  | _ => none

end Options

end CobolSubset

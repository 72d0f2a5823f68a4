import CobolSubset.Json.Basic

/-!
# Declared types

A symbol table remembers the type that was last declared for a name. Types are texts of the source
and only ever shown, never checked.
-/

namespace CobolSubset

/-- Names with their types, each name once, in the order of their first declaration. -/
structure SymbolTable where
  entries : List (Text × Text) := []
deriving DecidableEq, Repr

namespace SymbolTable

def insert (name type : Text) : List (Text × Text) → List (Text × Text)
  | [] => [(name, type)]
  | (other, old) :: rest =>
    if other = name then (name, type) :: rest else (other, old) :: insert name type rest

def declare (table : SymbolTable) (name type : Text) : SymbolTable :=
  ⟨insert name type table.entries⟩

def ofList (declarations : List (Text × Text)) : SymbolTable :=
  declarations.foldl (fun table (name, type) => table.declare name type) {}

def type? (table : SymbolTable) (name : Text) : Option Text :=
  (table.entries.find? fun entry => entry.1 == name).map (·.2)

/-- A declaration changes the type of its own name and of no other. -/
theorem type?_declare (table : SymbolTable) (name type other : Text) :
    (table.declare name type).type? other = if other = name then some type else table.type? other := by
  obtain ⟨entries⟩ := table
  show ((insert name type entries).find? fun entry => entry.1 == other).map (·.2) = _
  induction entries with
  | nil =>
    by_cases h : other = name
    · simp [insert, h]
    · simp [insert, type?, h, Ne.symm h]
  | cons entry rest ih =>
    obtain ⟨key, old⟩ := entry
    by_cases hkey : key = name
    · subst hkey
      by_cases h : other = key
      · simp [insert, h]
      · simp [insert, type?, h, Ne.symm h]
    · by_cases h : key = other
      · subst h
        simp [insert, type?, hkey]
      · simp only [insert, if_neg hkey, type?, List.find?_cons, beq_false_of_ne h]
        exact ih

/-- The type of a name, `UNKNOWN` if it is not declared. -/
def typeOf (table : SymbolTable) (name : Text) : Text :=
  (table.type? name).getD "UNKNOWN".toList

def isDeclared (table : SymbolTable) (name : Text) : Bool :=
  (table.type? name).isSome

def size (table : SymbolTable) : Nat := table.entries.length

def isEmpty (table : SymbolTable) : Bool := table.entries.isEmpty

/-! ### JSON -/

/-- The table as an object whose only field `variables` has a field for each name. -/
def toJson (table : SymbolTable) : Json :=
  .object [("variables".toList, .object (table.entries.map fun entry => (entry.1, .string entry.2)))]

/-- A table from its field. -/
def ofJson? (json : Json) : Option SymbolTable :=
  match json.record? ["variables".toList] with
  | some [.object fields] => do
    let declarations ← fields.mapM fun (name, type) => type.text?.map (Prod.mk name)
    return ofList declarations
  | _ => none

end SymbolTable

end CobolSubset

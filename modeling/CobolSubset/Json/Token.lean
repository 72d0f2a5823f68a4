import CobolSubset.Json.Basic
import CobolSubset.Token.Basic

/-!
# Tokens in JSON

A token is an object with the fields `category` and `text`; the category is written by its name in
data.
-/

namespace CobolSubset

def Category.ofJson? (json : Json) : Option Category := do
  let key ← json.choice?
  Category.ofKey? key

namespace Token

def toJson (token : Token) : Json :=
  .object [("category".toList, .string token.category.key), ("text".toList, .string token.text)]

/-- A token from its two fields. -/
def ofJson? (json : Json) : Option Token :=
  match json.record? ["category".toList, "text".toList] with
  | some [category, text] => do
    let category ← Category.ofJson? category
    let text ← text.text?
    return { category, text }
  | _ => none

def listOfJson? : Json → Option (List Token)
  | .array items => items.mapM ofJson?
  | _ => none

end Token

end CobolSubset

import Mathlib.Data.List.Forall2
import Mathlib.Data.List.Nodup
import CobolSubset.Json.Node
import CobolSubset.Json.Token
import CobolSubset.Proofs.TreeText

/-!
# Reading trees and tokens from JSON

What is written is read back, and reading forgets nothing but the fields that mean nothing
(`Json.read_iff_written`). Writing has an order for the fields and reading has none, so values are
compared up to the order of fields (`Json.Alike`).

* **One object** (`Json.perm_onlyFields_iff`) — where no name is repeated, looking up some names one
  by one tells which fields are left when all others are removed.
* **One node** (`Node.ofJson?_object_iff`) — a node is read from three fields, each of which can have
  one value only, its children aside.
* **All nodes** (`Node.ofJson?_eq_some_iff_alike`) — the induction goes over the objects that nodes
  are written as, and passes through the arrays of children.
-/

namespace CobolSubset

/-! ### Lists -/

/-- Names that are all different name what they are looked up for. -/
theorem find?_name_eq_some_iff {α : Type} {name : α → Text} {all : List α} (hall : ∀ a, a ∈ all)
    (hname : Function.Injective name) {text : Text} {a : α} :
    (all.find? fun a => name a == text) = some a ↔ text = name a := by
  constructor
  · intro h
    have htext := List.find?_some h
    exact (eq_of_beq htext).symm
  · rintro rfl
    cases hfind : all.find? fun b => name b == name a with
    | none =>
        have hnone := List.find?_eq_none.1 hfind a (hall a)
        exact absurd (beq_self_eq_true (name a)) hnone
    | some b =>
        have hb := List.find?_some hfind
        rw [hname (eq_of_beq hb)]

theorem mapM_eq_some_iff {α β : Type} {f : α → Option β} {as : List α} {bs : List β} :
    as.mapM f = some bs ↔ List.Forall₂ (fun a b => f a = some b) as bs := by
  induction as generalizing bs with
  | nil =>
      rw [List.mapM_nil, List.forall₂_nil_left_iff]
      exact ⟨fun h => (Option.some.inj h).symm, fun h => congrArg some h.symm⟩
  | cons a as ih =>
      rw [List.mapM_cons, List.forall₂_cons_left_iff, Option.bind_eq_bind, Option.bind_eq_some_iff]
      constructor
      · rintro ⟨b, hb, h⟩
        obtain ⟨rest, hrest, heq⟩ := Option.bind_eq_some_iff.1 h
        exact ⟨b, rest, hb, ih.1 hrest, (Option.some.inj heq).symm⟩
      · rintro ⟨b, rest, hb, hrest, rfl⟩
        exact ⟨b, hb, Option.bind_eq_some_iff.2 ⟨rest, ih.2 hrest, rfl⟩⟩

/-- A partner with a property for each element makes a list of partners. -/
theorem exists_forall₂_iff {α β : Type} {R : α → β → Prop} {P : β → Prop} {as : List α} :
    (∃ bs, List.Forall₂ R as bs ∧ ∀ b ∈ bs, P b) ↔ ∀ a ∈ as, ∃ b, R a b ∧ P b := by
  induction as with
  | nil => simp
  | cons a as ih =>
      rw [List.forall_mem_cons, ← ih]
      constructor
      · rintro ⟨bs, heach, hall⟩
        cases heach with
        | cons hb hrest =>
            rw [List.forall_mem_cons] at hall
            exact ⟨⟨_, hb, hall.1⟩, _, hrest, hall.2⟩
      · rintro ⟨⟨b, hb, hbP⟩, bs, hrest, hall⟩
        exact ⟨b :: bs, .cons hb hrest, List.forall_mem_cons.2 ⟨hbP, hall⟩⟩

/-! ### Objects -/

namespace Json

mutual

/-- Values that differ in nothing but the order of fields, at any depth. -/
inductive Alike : Json → Json → Prop
  | refl (value : Json) : Alike value value
  | array {items items' : List Json} (each : List.Forall₂ Alike items items') :
      Alike (.array items) (.array items')
  | object {fields fields' ordered : List (Text × Json)}
      (each : List.Forall₂ FieldAlike fields ordered) (order : ordered.Perm fields') :
      Alike (.object fields) (.object fields')

/-- Fields of one name whose values are alike. -/
inductive FieldAlike : Text × Json → Text × Json → Prop
  | intro (name : Text) {value value' : Json} (alike : Alike value value') :
      FieldAlike (name, value) (name, value')

end

theorem fieldAlike_iff {name : Text} {value : Json} {field : Text × Json} :
    FieldAlike (name, value) field ↔ ∃ value', Alike value value' ∧ field = (name, value') := by
  constructor
  · intro h
    cases h with
    | intro _ halike => exact ⟨_, halike, rfl⟩
  · rintro ⟨value', halike, rfl⟩
    exact .intro name halike

theorem alike_string_iff {text : Text} {value : Json} : Alike (.string text) value ↔ value = .string text := by
  constructor
  · intro h
    cases h with
    | refl => rfl
  · rintro rfl
    exact .refl _

theorem exists_alike_string_iff {text : Text} {found : Option Json} :
    (∃ value, Alike (.string text) value ∧ found = some value) ↔ found = some (.string text) := by
  simp only [alike_string_iff, exists_eq_left]

theorem alike_array_iff {items : List Json} {value : Json} :
    Alike (.array items) value ↔ ∃ items', List.Forall₂ Alike items items' ∧ value = .array items' := by
  constructor
  · intro h
    cases h with
    | refl => exact ⟨items, List.forall₂_same.2 fun item _ => .refl item, rfl⟩
    | array heach => exact ⟨_, heach, rfl⟩
  · rintro ⟨items', heach, rfl⟩
    exact .array heach

/-- Objects are alike if their fields can be put in an order in which they are. -/
theorem alike_object_iff {fields fields' : List (Text × Json)} :
    Alike (.object fields) (.object fields') ↔
      ∃ ordered, List.Forall₂ FieldAlike fields ordered ∧ ordered.Perm fields' := by
  constructor
  · intro h
    cases h with
    | refl =>
        exact ⟨fields, List.forall₂_same.2 fun field _ => .intro field.1 (.refl field.2), .refl _⟩
    | object heach horder => exact ⟨_, heach, horder⟩
  · rintro ⟨ordered, heach, horder⟩
    exact .object heach horder

/-- The fields that have one of the names. -/
def onlyFields (names : List Text) (fields : List (Text × Json)) : List (Text × Json) :=
  fields.filter fun field => names.contains field.1

/-- Fields without a repeated name, in which the field for a choice among names holds a string. -/
structure PlainFields (choice : Text) (fields : List (Text × Json)) : Prop where
  nodup : (fields.map Prod.fst).Nodup
  string : ∀ value, (choice, value) ∈ fields → ∃ name, value = .string name

/-- A name that is not repeated finds every field that has it. -/
theorem field?_eq_some_iff {name : Text} {value : Json} {fields : List (Text × Json)}
    (h : (fields.map Prod.fst).Nodup) : field? name fields = some value ↔ (name, value) ∈ fields := by
  induction fields with
  | nil => simp [field?]
  | cons field rest ih =>
      rw [List.map_cons, List.nodup_cons] at h
      rw [field?, List.mem_cons]
      split
      · next hname =>
          have hnot : (name, value) ∉ rest := by
            intro hmem
            apply h.1
            rw [hname]
            exact List.mem_map_of_mem hmem
          rw [Option.some_inj, or_iff_left hnot, Prod.ext_iff]
          exact ⟨fun heq => ⟨hname.symm, heq.symm⟩, fun heq => heq.2.symm⟩
      · next hname =>
          have hne : (name, value) ≠ field := fun heq => hname (congrArg Prod.fst heq.symm)
          rw [or_iff_right hne]
          exact ih h.2

/-- A string in the field that says which choice was made is enough, as no name comes twice. -/
theorem PlainFields.of_field? {choice name : Text} {fields : List (Text × Json)}
    (hnodup : (fields.map Prod.fst).Nodup) (h : field? choice fields = some (.string name)) :
    PlainFields choice fields where
  nodup := hnodup
  string value hvalue := by
    have hfound := (field?_eq_some_iff hnodup).2 hvalue
    exact ⟨name, Option.some.inj (hfound.symm.trans h)⟩

/-- A record is what is left of fields exactly if each of its names leads to its value. -/
theorem perm_onlyFields_iff {names : List Text} {record fields : List (Text × Json)}
    (hnames : names.Nodup) (hfields : (fields.map Prod.fst).Nodup)
    (hrecord : record.map Prod.fst = names) :
    record.Perm (onlyFields names fields) ↔
      ∀ entry ∈ record, field? entry.1 fields = some entry.2 := by
  subst hrecord
  constructor
  · intro h entry hentry
    rw [field?_eq_some_iff hfields]
    exact (List.mem_filter.1 (h.mem_iff.1 hentry)).1
  · intro h
    unfold onlyFields
    rw [List.perm_ext_iff_of_nodup (.of_map _ hnames) ((List.Nodup.of_map _ hfields).filter _)]
    intro field
    rw [List.mem_filter, List.contains_iff_mem]
    constructor
    · intro hmem
      exact ⟨(field?_eq_some_iff hfields).1 (h field hmem), List.mem_map_of_mem hmem⟩
    · rintro ⟨hmem, hname⟩
      obtain ⟨entry, hentry, hsame⟩ := List.mem_map.1 hname
      -- Both stand under one name, which has one value only.
      have hvalue : some entry.2 = some field.2 := by
        rw [← h entry hentry, hsame]
        exact (field?_eq_some_iff hfields).2 hmem
      rwa [← Prod.ext hsame (Option.some.inj hvalue)]

theorem map_fst_of_forall₂ {fields fields' : List (Text × Json)}
    (h : List.Forall₂ FieldAlike fields fields') : fields'.map Prod.fst = fields.map Prod.fst := by
  induction h with
  | nil => rfl
  | cons hfield _ ih =>
      cases hfield with
      | intro name _ => rw [List.map_cons, List.map_cons, ih]

/-- A record is alike to what is left of fields exactly if each of its names leads to a value that
is alike to its own. -/
theorem alike_onlyFields_iff {names : List Text} {record fields : List (Text × Json)}
    (hnames : names.Nodup) (hfields : (fields.map Prod.fst).Nodup)
    (hrecord : record.map Prod.fst = names) :
    Alike (.object record) (.object (onlyFields names fields)) ↔
      ∀ entry ∈ record, ∃ value, Alike entry.2 value ∧ field? entry.1 fields = some value := by
  rw [alike_object_iff]
  constructor
  · rintro ⟨ordered, heach, horder⟩
    have hordered : ordered.map Prod.fst = names := (map_fst_of_forall₂ heach).trans hrecord
    have hlookup := (perm_onlyFields_iff hnames hfields hordered).1 horder
    intro entry hentry
    obtain ⟨field, halike, hfield⟩ := (exists_forall₂_iff.1 ⟨ordered, heach, hlookup⟩) entry hentry
    obtain ⟨value, hvalue, rfl⟩ := fieldAlike_iff.1 halike
    exact ⟨value, hvalue, hfield⟩
  · intro h
    have hfound : ∀ entry ∈ record, ∃ field, FieldAlike entry field ∧
        field? field.1 fields = some field.2 := by
      intro entry hentry
      obtain ⟨value, hvalue, hfield⟩ := h entry hentry
      exact ⟨(entry.1, value), .intro entry.1 hvalue, hfield⟩
    obtain ⟨ordered, heach, hlookup⟩ := exists_forall₂_iff.2 hfound
    have hordered : ordered.map Prod.fst = names := (map_fst_of_forall₂ heach).trans hrecord
    exact ⟨ordered, heach, (perm_onlyFields_iff hnames hfields hordered).2 hlookup⟩

/-- Where single values are read exactly from what is alike to their written form, so are arrays. -/
theorem forall₂_read_iff_alike {α : Type} {read : Json → Option α} {write : α → Json}
    {prune : Json → Json} {items : List Json}
    (h : ∀ item ∈ items, ∀ a, read item = some a ↔ Alike (write a) (prune item)) {as : List α} :
    List.Forall₂ (fun item a => read item = some a) items as ↔
      List.Forall₂ Alike (as.map write) (items.map prune) := by
  induction items generalizing as with
  | nil => simp
  | cons item items ih =>
      rw [List.forall_mem_cons] at h
      cases as with
      | nil => simp
      | cons a as =>
          rw [List.map_cons, List.map_cons, List.forall₂_cons, List.forall₂_cons, h.1 a, ih h.2]

end Json

/-! ### Names of kinds and categories -/

theorem Kind.ofJson?_string_iff {name : Text} {kind : Kind} :
    Kind.ofJson? (.string name) = some kind ↔ name = kind.name := by
  apply find?_name_eq_some_iff
  · intro kind
    cases kind <;> decide
  · intro kind kind' h
    exact name_injective h

theorem Category.ofJson?_string_iff {name : Text} {category : Category} :
    Category.ofJson? (.string name) = some category ↔ name = category.key := by
  apply find?_name_eq_some_iff
  · intro category
    cases category <;> decide
  · intro category category' h
    revert h
    cases category <;> cases category' <;> decide

theorem Json.text?_eq_some_iff {json : Json} {text : Text} : json.text? = some text ↔ json = .string text := by
  cases json <;> simp [Json.text?]

/-! ### Tokens -/

namespace Token

/-- A token written as an object without repeated names, its category as a string. -/
inductive Plain : Json → Prop
  | object {fields : List (Text × Json)} (plain : Json.PlainFields "category".toList fields) :
      Plain (.object fields)

def PlainList (json : Json) : Prop := ∀ items, json = .array items → ∀ item ∈ items, Plain item

def fieldNames : List Text := ["category".toList, "text".toList]

theorem nodup_fieldNames : fieldNames.Nodup := by decide

/-- A token without the fields that mean nothing. -/
def withoutUnknown : Json → Json
  | .object fields => .object (Json.onlyFields fieldNames fields)
  | json => json

def listWithoutUnknown : Json → Json
  | .array items => .array (items.map withoutUnknown)
  | json => json

theorem ofJson?_object_iff {fields : List (Text × Json)}
    (h : Json.PlainFields "category".toList fields) {token : Token} :
    ofJson? (.object fields) = some token ↔
      Json.field? "category".toList fields = some (.string token.category.key) ∧
        Json.field? "text".toList fields = some (.string token.text) := by
  rw [ofJson?, Json.record?, List.mapM_cons, List.mapM_cons, List.mapM_nil]
  cases hcategory : Json.field? "category".toList fields with
  | none => simp
  | some category =>
      cases htext : Json.field? "text".toList fields with
      | none => simp
      | some text =>
          obtain ⟨name, rfl⟩ := h.string _ ((Json.field?_eq_some_iff h.nodup).1 hcategory)
          show ((Category.ofJson? (.string name)).bind fun category =>
            text.text?.bind fun text => some (⟨category, text⟩ : Token)) = some token ↔ _
          simp only [Option.bind_eq_some_iff, Category.ofJson?_string_iff, Json.text?_eq_some_iff]
          constructor
          · rintro ⟨category, rfl, text, rfl, heq⟩
            cases heq
            exact ⟨rfl, rfl⟩
          · rintro ⟨hname, htext⟩
            cases hname
            cases htext
            exact ⟨token.category, rfl, token.text, rfl, rfl⟩

/-- A token is read just from what is like its written form, other fields aside. -/
theorem ofJson?_eq_some_iff_alike {json : Json} (h : Plain json) (token : Token) :
    ofJson? json = some token ↔ Json.Alike token.toJson (withoutUnknown json) := by
  cases h with
  | @object fields hplain =>
      rw [ofJson?_object_iff hplain, withoutUnknown, toJson,
        Json.alike_onlyFields_iff nodup_fieldNames hplain.nodup]
      · simp [Json.alike_string_iff]
      · rfl

theorem listOfJson?_eq_some_iff_alike {json : Json} (h : PlainList json) (tokens : List Token) :
    listOfJson? json = some tokens ↔
      Json.Alike (.array (tokens.map toJson)) (listWithoutUnknown json) := by
  rw [Json.alike_array_iff]
  cases json with
  | array items =>
      rw [listOfJson?, listWithoutUnknown, mapM_eq_some_iff,
        Json.forall₂_read_iff_alike fun item hitem => ofJson?_eq_some_iff_alike (h items rfl item hitem)]
      simp
  | _ => simp [listOfJson?, listWithoutUnknown]

theorem plain_toJson (token : Token) : Plain token.toJson :=
  .object (.of_field? nodup_fieldNames rfl)

theorem ofJson?_toJson (token : Token) : ofJson? token.toJson = some token := by
  have hplain := plain_toJson token
  rw [toJson] at hplain ⊢
  cases hplain with
  | object hfields => exact (ofJson?_object_iff hfields).2 ⟨rfl, rfl⟩

theorem plainList_array {items : List Json} (h : ∀ item ∈ items, Plain item) :
    PlainList (.array items) := by
  intro items' hitems
  cases hitems
  exact h

theorem plainList_map_toJson (tokens : List Token) : PlainList (.array (tokens.map toJson)) :=
  plainList_array (List.forall_mem_map.2 fun token _ => plain_toJson token)

theorem listOfJson?_map_toJson (tokens : List Token) :
    listOfJson? (.array (tokens.map toJson)) = some tokens := by
  rw [listOfJson?, mapM_eq_some_iff, List.forall₂_map_left_iff, List.forall₂_same]
  exact fun token _ => ofJson?_toJson token

end Token

/-! ### Trees -/

namespace Node

/-- Trees in which every node is written as an object without repeated names, its kind as a string.
-/
inductive Plain : Json → Prop
  | object {fields : List (Text × Json)} (plain : Json.PlainFields "kind".toList fields)
      (children : ∀ items, ("children".toList, .array items) ∈ fields → ∀ item ∈ items, Plain item) :
      Plain (.object fields)

theorem Plain.of_field? {fields : List (Text × Json)} {name : Text} {items : List Json}
    (hnodup : (fields.map Prod.fst).Nodup)
    (hkind : Json.field? "kind".toList fields = some (.string name))
    (hchildren : Json.field? "children".toList fields = some (.array items))
    (h : ∀ item ∈ items, Plain item) : Plain (.object fields) := by
  refine .object (.of_field? hnodup hkind) ?_
  intro items' hitems
  have hfound := (Json.field?_eq_some_iff hnodup).2 hitems
  rw [hchildren] at hfound
  cases hfound
  exact h

def fieldNames : List Text := ["kind".toList, "value".toList, "children".toList]

theorem nodup_fieldNames : fieldNames.Nodup := by decide

mutual

/-- A tree without the fields that mean nothing, in any of its nodes. -/
def withoutUnknown : Json → Json
  | .object fields => .object (Json.onlyFields fieldNames (fieldsWithoutUnknown fields))
  | json => json

/-- All fields of a node, with nothing removed but in its children. -/
def fieldsWithoutUnknown : List (Text × Json) → List (Text × Json)
  | [] => []
  | (name, value) :: rest =>
    (name, if name = "children".toList then listWithoutUnknown value else value) ::
      fieldsWithoutUnknown rest

/-- An array of trees without the fields that mean nothing. -/
def listWithoutUnknown : Json → Json
  | .array items => .array (itemsWithoutUnknown items)
  | json => json

/-- The elements of an array of trees without the fields that mean nothing. -/
def itemsWithoutUnknown : List Json → List Json
  | [] => []
  | item :: more => withoutUnknown item :: itemsWithoutUnknown more

end

theorem map_fst_fieldsWithoutUnknown (fields : List (Text × Json)) :
    (fieldsWithoutUnknown fields).map Prod.fst = fields.map Prod.fst := by
  induction fields with
  | nil => simp [fieldsWithoutUnknown]
  | cons field rest ih => rw [fieldsWithoutUnknown, List.map_cons, List.map_cons, ih]

theorem itemsWithoutUnknown_eq_map (items : List Json) :
    itemsWithoutUnknown items = items.map withoutUnknown := by
  induction items with
  | nil => simp [itemsWithoutUnknown]
  | cons item more ih => simp [itemsWithoutUnknown, ih]

theorem listToJson_eq_map (nodes : List Node) : listToJson nodes = nodes.map toJson := by
  induction nodes with
  | nil => simp [listToJson]
  | cons node more ih => simp [listToJson, ih]

/-- Only the field for the children is changed below the fields of a node. -/
theorem field?_fieldsWithoutUnknown (name : Text) (fields : List (Text × Json)) :
    Json.field? name (fieldsWithoutUnknown fields) =
      if name = "children".toList then (Json.field? name fields).map listWithoutUnknown
      else Json.field? name fields := by
  induction fields with
  | nil =>
      rw [fieldsWithoutUnknown, Json.field?, Option.map_none, ite_self]
  | cons field rest ih =>
      rw [fieldsWithoutUnknown, Json.field?, Json.field?, ih]
      by_cases hname : field.1 = name
      · rw [if_pos hname, if_pos hname, hname, Option.map_some, apply_ite some]
      · rw [if_neg hname, if_neg hname]

theorem childrenField?_eq (fields : List (Text × Json)) :
    childrenField? fields = (Json.field? "children".toList fields).bind listOfJson? := by
  induction fields with
  | nil => rfl
  | cons field rest ih =>
      rw [childrenField?, Json.field?, ih]
      split
      · rfl
      · rfl

theorem itemsOfJson?_eq_mapM (items : List Json) : itemsOfJson? items = items.mapM ofJson? := by
  induction items with
  | nil => simp [itemsOfJson?]
  | cons item more ih => simp [itemsOfJson?, ih]

/-- Nodes are read from an array, one from each element. -/
theorem listOfJson?_eq_some_iff {json : Json} {nodes : List Node} :
    listOfJson? json = some nodes ↔
      ∃ items, json = .array items ∧ List.Forall₂ (fun item node => ofJson? item = some node) items nodes := by
  cases json with
  | array items =>
      rw [listOfJson?, itemsOfJson?_eq_mapM, mapM_eq_some_iff]
      simp
  | _ => simp [listOfJson?]

/-- A node is made of its own three parts. -/
theorem ofParts?_string_iff {name : Text} {value : Json} {children : List Node} {node : Node} :
    ofParts? (.string name) value children = some node ↔
      name = node.kind.name ∧ value = .string node.value ∧ children = node.children := by
  rw [ofParts?]
  simp only [Option.bind_eq_bind, Option.bind_eq_some_iff, Kind.ofJson?_string_iff,
    Json.text?_eq_some_iff]
  constructor
  · rintro ⟨kind, rfl, text, rfl, heq⟩
    cases heq
    exact ⟨rfl, rfl, rfl⟩
  · rintro ⟨rfl, rfl, rfl⟩
    refine ⟨node.kind, rfl, node.value, rfl, ?_⟩
    cases node
    rfl

/-- A node is read exactly from three fields that say what it is made of. -/
theorem ofJson?_object_iff {fields : List (Text × Json)}
    (h : Json.PlainFields "kind".toList fields) {node : Node} :
    ofJson? (.object fields) = some node ↔
      Json.field? "kind".toList fields = some (.string node.kind.name) ∧
        Json.field? "value".toList fields = some (.string node.value) ∧
        ∃ items, Json.field? "children".toList fields = some (.array items) ∧
          List.Forall₂ (fun item child => ofJson? item = some child) items node.children := by
  rw [ofJson?, childrenField?_eq]
  simp only [Option.bind_eq_bind, Option.bind_eq_some_iff, listOfJson?_eq_some_iff]
  constructor
  · rintro ⟨kind, hkind, value, hvalue, children, ⟨json, hjson, items, rfl, heach⟩, hparts⟩
    obtain ⟨name, rfl⟩ := h.string kind ((Json.field?_eq_some_iff h.nodup).1 hkind)
    obtain ⟨rfl, rfl, rfl⟩ := ofParts?_string_iff.1 hparts
    exact ⟨hkind, hvalue, items, hjson, heach⟩
  · rintro ⟨hkind, hvalue, items, hitems, heach⟩
    exact ⟨_, hkind, _, hvalue, node.children, ⟨_, hitems, items, rfl, heach⟩,
      ofParts?_string_iff.2 ⟨rfl, rfl, rfl⟩⟩

theorem listWithoutUnknown_eq_array_iff {json : Json} {items : List Json} :
    listWithoutUnknown json = .array items ↔
      ∃ items', json = .array items' ∧ items = items'.map withoutUnknown := by
  cases json with
  | array items' =>
      rw [listWithoutUnknown, itemsWithoutUnknown_eq_map]
      simp [eq_comm]
  | _ => simp [listWithoutUnknown]

/-- The field for the children is like theirs if it is an array of values that are. -/
theorem alike_children_iff {fields : List (Text × Json)} {children : List Node} :
    (∃ value, Json.Alike (.array (listToJson children)) value ∧
      Json.field? "children".toList (fieldsWithoutUnknown fields) = some value) ↔
      ∃ items, Json.field? "children".toList fields = some (.array items) ∧
        List.Forall₂ Json.Alike (children.map toJson) (items.map withoutUnknown) := by
  rw [field?_fieldsWithoutUnknown, if_pos rfl, listToJson_eq_map]
  constructor
  · rintro ⟨value, halike, hvalue⟩
    obtain ⟨items, heach, rfl⟩ := Json.alike_array_iff.1 halike
    obtain ⟨json, hjson, hlist⟩ := Option.map_eq_some_iff.1 hvalue
    obtain ⟨items', rfl, rfl⟩ := listWithoutUnknown_eq_array_iff.1 hlist
    exact ⟨items', hjson, heach⟩
  · rintro ⟨items, hitems, heach⟩
    refine ⟨.array (items.map withoutUnknown), .array heach, ?_⟩
    rw [hitems, Option.map_some, listWithoutUnknown, itemsWithoutUnknown_eq_map]

/-- A plain value is read as the tree whose written form it is, other fields and order aside. -/
theorem ofJson?_eq_some_iff_alike {json : Json} (h : Plain json) (node : Node) :
    ofJson? json = some node ↔ Json.Alike node.toJson (withoutUnknown json) := by
  induction h generalizing node with
  | @object fields hplain _ ih =>
      have hnodup : ((fieldsWithoutUnknown fields).map Prod.fst).Nodup :=
        map_fst_fieldsWithoutUnknown fields ▸ hplain.nodup
      have hkind : Json.field? "kind".toList (fieldsWithoutUnknown fields) =
          Json.field? "kind".toList fields := by
        rw [field?_fieldsWithoutUnknown, if_neg (by decide)]
      have hvalue : Json.field? "value".toList (fieldsWithoutUnknown fields) =
          Json.field? "value".toList fields := by
        rw [field?_fieldsWithoutUnknown, if_neg (by decide)]
      -- The hypothesis is about the elements of arrays that stand in the field for the children.
      have hchildren : (∃ items, Json.field? "children".toList fields = some (.array items) ∧
            List.Forall₂ (fun item child => ofJson? item = some child) items node.children) ↔
          ∃ items, Json.field? "children".toList fields = some (.array items) ∧
            List.Forall₂ Json.Alike (node.children.map toJson) (items.map withoutUnknown) := by
        apply exists_congr
        intro items
        apply and_congr_right
        intro hitems
        exact Json.forall₂_read_iff_alike (ih items ((Json.field?_eq_some_iff hplain.nodup).1 hitems))
      rw [ofJson?_object_iff hplain, hchildren, withoutUnknown]
      cases node with
      | mk kind value children =>
          rw [toJson, Json.alike_onlyFields_iff nodup_fieldNames hnodup]
          · rw [List.forall_mem_cons, List.forall_mem_cons, List.forall_mem_singleton,
              alike_children_iff, hkind, hvalue, Json.exists_alike_string_iff,
              Json.exists_alike_string_iff]
          · rfl

mutual

theorem plain_toJson (node : Node) : Plain node.toJson := by
  cases node with
  | mk kind value children =>
      rw [toJson]
      exact .of_field? nodup_fieldNames rfl rfl (plain_of_mem_listToJson children)

theorem plain_of_mem_listToJson (nodes : List Node) : ∀ item ∈ listToJson nodes, Plain item := by
  cases nodes with
  | nil => simp [listToJson]
  | cons node more =>
      rw [listToJson, List.forall_mem_cons]
      exact ⟨plain_toJson node, plain_of_mem_listToJson more⟩

end

mutual

theorem ofJson?_toJson (node : Node) : ofJson? node.toJson = some node := by
  cases node with
  | mk kind value children =>
      have hplain := plain_toJson ⟨kind, value, children⟩
      rw [toJson] at hplain ⊢
      cases hplain with
      | object hfields _ =>
          rw [ofJson?_object_iff hfields]
          exact ⟨rfl, rfl, listToJson children, rfl, forall₂_listToJson children⟩

theorem forall₂_listToJson (nodes : List Node) :
    List.Forall₂ (fun item node => ofJson? item = some node) (listToJson nodes) nodes := by
  cases nodes with
  | nil => exact .nil
  | cons node more =>
      rw [listToJson]
      exact .cons (ofJson?_toJson node) (forall₂_listToJson more)

end

end Node

/-! ### Both ways -/

namespace Json

/-- **JSON forms are faithful**: a tree is written as a plain value and read back from it. A plain
value is read as a tree exactly if writing the tree gives that value again, but for the order of
fields and for fields that mean nothing, which are removed from all its nodes. So are lists of
tokens, whose categories go by their names in data; the name that people see does for all but
strings. -/
theorem read_iff_written :
    (∀ node : Node, Node.Plain node.toJson ∧ Node.ofJson? node.toJson = some node) ∧
    (∀ json, Node.Plain json → ∀ node,
      Node.ofJson? json = some node ↔ Alike node.toJson (Node.withoutUnknown json)) ∧
    (∀ tokens : List Token,
      let json := array (tokens.map Token.toJson)
      Token.PlainList json ∧ Token.listOfJson? json = some tokens) ∧
    (∀ json, Token.PlainList json → ∀ tokens, Token.listOfJson? json = some tokens ↔
      Alike (array (tokens.map Token.toJson)) (Token.listWithoutUnknown json)) ∧
    (∀ (category : Category) (name : Text),
      Category.ofJson? (string name) = some category ↔ name = category.key) ∧
    (∀ category : Category,
      Category.ofJson? (string category.name) = some category ↔ category ≠ .string) ∧
    Category.string.key = "STRING_LITERAL".toList := by
  refine ⟨fun node => ⟨node.plain_toJson, node.ofJson?_toJson⟩,
    fun json h node => Node.ofJson?_eq_some_iff_alike h node,
    fun tokens => ⟨Token.plainList_map_toJson tokens, Token.listOfJson?_map_toJson tokens⟩,
    fun json h tokens => Token.listOfJson?_eq_some_iff_alike h tokens,
    fun category name => Category.ofJson?_string_iff, ?_, rfl⟩
  intro category
  rw [Category.ofJson?_string_iff]
  cases category <;> decide

/-- Fields in another order, fields that mean nothing in both nodes, and in one of them a name that is
repeated further down. -/
theorem read_iff_written_extra_fields :
    let child := object [("line".toList, .ofNat 2), ("value".toList, string "\"HI\"".toList),
      ("kind".toList, string "DisplayStatement".toList), ("children".toList, array [])]
    let tree := object [("children".toList, array [child]),
      ("origin".toList, object [("kind".toList, null), ("kind".toList, null)]),
      ("kind".toList, string "Program".toList), ("value".toList, string [])]
    let tokens := array [object [("text".toList, string "\"HI\"".toList), ("line".toList, .ofNat 2),
      ("category".toList, string "STRING_LITERAL".toList)]]
    let root := Node.program [.display "\"HI\"".toList]
    let token : Token := ⟨.string, "\"HI\"".toList⟩
    Node.Plain tree ∧ Node.ofJson? tree = some root ∧
      Alike root.toJson (object [
        ("children".toList, array [object [("value".toList, string "\"HI\"".toList),
          ("kind".toList, string "DisplayStatement".toList), ("children".toList, array [])]]),
        ("kind".toList, string "Program".toList), ("value".toList, string [])]) ∧
      Token.PlainList tokens ∧ Token.listOfJson? tokens = some [token] ∧
      Alike (array [token.toJson]) (array [object [("text".toList, string "\"HI\"".toList),
        ("category".toList, string "STRING_LITERAL".toList)]]) := by
  intro child tree tokens root token
  have hchild : Node.Plain child := .of_field? (by decide) rfl rfl (List.forall_mem_nil _)
  have htree : Node.Plain tree := .of_field? (by decide) rfl rfl (List.forall_mem_singleton.2 hchild)
  have hroot : Node.ofJson? tree = some root := rfl
  have htokens : Token.PlainList tokens :=
    Token.plainList_array (List.forall_mem_singleton.2 (.object (.of_field? (by decide) rfl)))
  have htoken : Token.listOfJson? tokens = some [token] := rfl
  exact ⟨htree, hroot, (read_iff_written.2.1 tree htree root).1 hroot,
    htokens, htoken, (read_iff_written.2.2.2.1 tokens htokens [token]).1 htoken⟩

end Json

end CobolSubset

import CobolSubset.Proofs.RustNames
import CobolSubset.Target.RustLayout

/-!
# Rust code can be read back

Code is read back before it is laid out, and reading it back could fail: the grammar takes no word
that it reserves for a name. It never does. All names in a file come from `identifier`
(`exists_identifier_of_mem_names`), and what `identifier` gives is a name in the eyes of the grammar
(`nameFault?_of_isSnakeName`), since `keywords` leaves out no reserved word in small letters
(`reserved_cases`). So the code for a tree is that of its file, laid out (`generate_eq_map`).
-/

namespace CobolSubset.Rust

/-! ### Names in the eyes of the grammar -/

theorem isIdentStart_of_snake {c : Char} (h : c.isLower = true ∨ c = '_') :
    isIdentStart c = true := by
  rcases h with hlower | rfl
  · have hrange := range_of_isLower hlower
    have hascii : c.toNat < 0x80 := by omega
    simp [isIdentStart, hascii, Char.isAlpha, hlower]
  · rfl

theorem isIdentContinue_of_isSnakePart {c : Char} (h : isSnakePart c = true) :
    isIdentContinue c = true := by
  simp only [isSnakePart, Bool.or_eq_true, beq_iff_eq] at h
  rcases h with (hlower | hdigit) | rfl
  · have hrange := range_of_isLower hlower
    have hascii : c.toNat < 0x80 := by omega
    simp [isIdentContinue, hascii, Char.isAlphanum, Char.isAlpha, hlower]
  · have hrange := range_of_isDigit hdigit
    have hascii : c.toNat < 0x80 := by omega
    simp [isIdentContinue, hascii, Char.isAlphanum, hdigit]
  · rfl

theorem isWord_of_isSnakeName {name : Text} (h : IsSnakeName name) : isWord name = true := by
  obtain ⟨hstart, hparts, -, -⟩ := h
  cases name with
  | nil => cases hstart
  | cons c rest =>
      have hletter : c.isLower = true ∨ c = '_' := by simpa using hstart
      rw [isWord, isIdentStart_of_snake hletter, Bool.true_and, List.all_eq_true]
      intro d hd
      exact isIdentContinue_of_isSnakePart
        (List.all_eq_true.1 hparts d (List.mem_cons_of_mem c hd))

/-- What the grammar reserves is one of the `keywords`, the low line alone, or has a capital letter.
-/
theorem reserved_cases :
    ∀ word ∈ reserved, word ∈ keywords ∨ word = ['_'] ∨ word.all isSnakePart = false := by
  unfold reserved keywords
  repeat rw [String.toList_ofList]
  decide

/-- The grammar takes each result of `identifier` for a name. -/
theorem nameFault?_of_isSnakeName {name : Text} (h : IsSnakeName name) :
    nameFault? name = none := by
  have hfree : name ∉ reserved := by
    intro hreserved
    rcases reserved_cases name hreserved with hkeyword | hline | hcapital
    · exact h.not_keyword hkeyword
    · exact h.ne_lowLine hline
    · rw [h.parts] at hcapital
      cases hcapital
  simp [nameFault?, isWord_of_isSnakeName h, hfree]

/-! ### The names of a file -/

theorem exists_identifier_of_ofStatement {options : Options} {statement : CobolSubset.Statement}
    {code : Statement} (h : Statement.ofStatement options statement = .ok code) :
    ∀ name ∈ code.names, ∃ text, identifier text = .ok name := by
  intro name hname
  cases statement with
  | display | stopRun | execSql =>
      cases h
      cases hname
  | move value target =>
      rw [Statement.ofStatement] at h
      split at h
      · cases h
      · obtain ⟨found, hfound, hcode⟩ := bind_eq_ok_iff.1 h
        cases hcode
        obtain rfl := List.mem_singleton.1 hname
        exact ⟨target, hfound⟩
  | call subroutine parameters =>
      obtain ⟨module, hmodule, hmore⟩ := bind_eq_ok_iff.1 h
      obtain ⟨arguments, harguments, hcode⟩ := bind_eq_ok_iff.1 hmore
      split at hcode
      · cases hcode
      · cases hcode
        rcases List.mem_cons.1 hname with rfl | hargument
        · exact ⟨_, hmodule⟩
        · have hmem : .ok name ∈ parameters.map identifier :=
            mapM_eq_ok_iff.1 harguments ▸ List.mem_map_of_mem hargument
          obtain ⟨parameter, -, hparameter⟩ := List.mem_map.1 hmem
          exact ⟨parameter, hparameter⟩

/-- Every name of a file was made by `identifier`. -/
theorem exists_identifier_of_mem_names {options : Options} {root : Node} {program : Program}
    (h : Program.ofNode options root = .ok program) :
    ∀ name ∈ program.names, ∃ text, identifier text = .ok name := by
  obtain ⟨nodes, -, hmore⟩ := bind_eq_ok_iff.1 h
  obtain ⟨statements, hstatements, hprogram⟩ := bind_eq_ok_iff.1 hmore
  cases hprogram
  intro name hname
  obtain ⟨code, hcode, hmem⟩ := List.mem_flatMap.1 hname
  have hread : .ok code ∈ nodes.map (Statement.ofNode options) :=
    mapM_eq_ok_iff.1 hstatements ▸ List.mem_map_of_mem hcode
  obtain ⟨node, -, hnode⟩ := List.mem_map.1 hread
  obtain ⟨statement, -, hstatement⟩ := bind_eq_ok_iff.1 hnode
  exact exists_identifier_of_ofStatement hstatement name hmem

/-! ### Reading back -/

/-- A file is read back exactly if the grammar takes each of its names for one. -/
theorem readBack_eq_ok_iff {program : Program} :
    program.readBack = .ok program ↔ ∀ name ∈ program.names, nameFault? name = none := by
  rw [Program.readBack, ← List.findSome?_eq_none_iff]
  cases program.names.findSome? nameFault? with
  | none => simp
  | some reason => simp

/-- **The file of a tree is Rust code**: it is read back as it is. -/
theorem readBack_of_ofNode {options : Options} {root : Node} {program : Program}
    (h : Program.ofNode options root = .ok program) : program.readBack = .ok program := by
  rw [readBack_eq_ok_iff]
  intro name hname
  obtain ⟨text, htext⟩ := exists_identifier_of_mem_names h name hname
  exact nameFault?_of_isSnakeName (isSnakeName_of_identifier htext)

theorem generate_eq_map (options : Options) (root : Node) :
    generate options root = (Program.ofNode options root).map Program.text := by
  rw [generate]
  cases hfile : Program.ofNode options root with
  | error error => rfl
  | ok program =>
      show (program.readBack >>= fun program => pure program.text) = _
      rw [readBack_of_ofNode hfile]
      rfl

end CobolSubset.Rust

import CobolSubset.Proofs.Decoding

/-!
# Texts embedded in Java code

Texts of a program stand in its Java code as string literals: what `DISPLAY` shows, a query, and how
to connect to the database. Each of them may hold any characters. `Java.readLiteral?` reads a literal
as a Java compiler does, and `Java.readLiteral?_escape` says that it finds the text again and stops
exactly at its end, so no text can close its literal early or run into the code behind it.

A compiler replaces Unicode escapes before it looks at literals at all. They start with a backslash
that does not belong to a pair, and `Java.even_backslashes_escape` says that no such backslash stands
before a `u`.

`Java.literals_read_back` is about the code of a whole program. The code before a statement and the
code behind it are those of the other statements, and in between every literal reads back as it
should.
-/

namespace CobolSubset.Java

/-! ### Reading literals -/

theorem length_readChar? {text rest : Text} {c : Char} (h : readChar? text = some (c, rest)) :
    rest.length < text.length := by
  unfold readChar? at h
  split at h
  · cases h
  · next after =>
      cases after with
      | nil => cases h
      | cons letter more =>
          simp only [List.head?_cons, List.tail_cons, Option.bind_eq_bind, Option.bind_some,
            Option.bind_eq_some_iff] at h
          obtain ⟨found, -, hread⟩ := h
          cases hread
          simp
  · split at h
    · cases h
    · cases h
      simp

/-- Reads a string literal behind its opening quotation mark: the text that it stands for, and what
follows the closing quotation mark. -/
def readLiteral? (text : Text) : Option (Text × Text) :=
  if text.head? = some '"' then some ([], text.tail)
  else
    match _hread : readChar? text with
    | none => none
    | some (c, rest) => (readLiteral? rest).map fun (inner, behind) => (c :: inner, behind)
termination_by text.length
decreasing_by exact length_readChar? _hread

def readString? : Text → Option (Text × Text)
  | '"' :: inside => readLiteral? inside
  | _ => none

theorem readLiteral?_quote (rest : Text) : readLiteral? ('"' :: rest) = some ([], rest) := by
  rw [readLiteral?]
  rfl

theorem head?_escapeChar (c : Char) (rest : Text) : (escapeChar c ++ rest).head? ≠ some '"' := by
  unfold escapeChar
  split
  case h_6 hquote _ _ _ => simpa using hquote
  all_goals simp

/-- Each escaped character is read as the one it is written for. -/
theorem readLiteral?_escapeChar (c : Char) (rest : Text) :
    readLiteral? (escapeChar c ++ rest) =
      (readLiteral? rest).map fun (inner, behind) => (c :: inner, behind) := by
  rw [readLiteral?, if_neg (head?_escapeChar c rest)]
  split
  · next hnone =>
      rw [readChar?_escapeChar] at hnone
      cases hnone
  · next hsome =>
      rw [readChar?_escapeChar] at hsome
      cases hsome
      rfl

/-- An escaped text is read back, up to the quotation mark that closes it and no further. -/
theorem readLiteral?_escape (text rest : Text) :
    readLiteral? (escape text ++ '"' :: rest) = some (text, rest) := by
  induction text with
  | nil => exact readLiteral?_quote rest
  | cons c text ih =>
      have hsplit : escape (c :: text) = escapeChar c ++ escape text := List.flatMap_cons
      rw [hsplit, List.append_assoc, readLiteral?_escapeChar, ih]
      rfl

/-- A literal is read as its text, and reading ends at its closing mark. -/
theorem readString?_literal (text rest : Text) :
    readString? (literal text ++ rest) = some (text, rest) := by
  have hopen : literal text ++ rest = '"' :: (escape text ++ '"' :: rest) := by
    simp [literal, quoted]
  rw [hopen]
  exact readLiteral?_escape text rest

/-! ### Unicode escapes -/

/-- The number of backslashes at the end of a text. -/
def backslashes (text : Text) : Nat := (text.reverse.takeWhile (· == '\\')).length

/-- Backslashes at the end are paired if they are in both parts, also where they meet. -/
theorem even_backslashes_append {front back : Text} (hfront : Even (backslashes front))
    (hback : Even (backslashes back)) : Even (backslashes (front ++ back)) := by
  unfold backslashes at *
  rw [List.reverse_append, List.takeWhile_append]
  split
  · next hall =>
      -- There is nothing but backslashes in `back`, so those of `front` count as well.
      rw [hall] at hback
      rw [List.length_append]
      exact hback.add hfront
  · exact hback

theorem even_backslashes_escapeChar (c : Char) : Even (backslashes (escapeChar c)) := by
  unfold escapeChar
  split
  case h_6 hbackslash _ _ _ _ =>
    have hnone : backslashes [c] = 0 := by
      rw [backslashes, List.reverse_singleton, List.takeWhile_cons_of_neg (by simpa using hbackslash)]
      rfl
    rw [hnone]
    exact Even.zero
  all_goals decide

/-- A `u` is only ever written for itself. -/
theorem eq_nil_of_escapeChar_eq {c : Char} {before after : Text}
    (h : escapeChar c = before ++ 'u' :: after) : before = [] := by
  have hmem : 'u' ∈ escapeChar c := by
    rw [h]
    simp
  have hplain : escapeChar c = [c] := by
    unfold escapeChar at hmem ⊢
    split at hmem
    case h_6 => rfl
    all_goals revert hmem; decide
  rw [hplain] at h
  cases before with
  | nil => rfl
  | cons d before => simp at h

/-- An escaped text holds no Unicode escape: the backslashes before a `u` always come in pairs. -/
theorem even_backslashes_escape {text before after : Text}
    (h : escape text = before ++ 'u' :: after) : Even (backslashes before) := by
  induction text generalizing before with
  | nil => simp [escape] at h
  | cons c text ih =>
      have hsplit : escapeChar c ++ escape text = before ++ 'u' :: after :=
        List.flatMap_cons.symm.trans h
      rcases List.append_eq_append_iff.1 hsplit with
        ⟨more, rfl, hmore⟩ | ⟨more, hc, hmore⟩
      · exact even_backslashes_append (even_backslashes_escapeChar c) (ih hmore)
      · -- The `u` comes right behind the first character, or it is a part of it.
        cases more with
        | nil =>
            rw [List.append_nil] at hc
            exact hc ▸ even_backslashes_escapeChar c
        | cons d more =>
            obtain ⟨rfl, -⟩ := List.cons_eq_cons.1 hmore
            rw [eq_nil_of_escapeChar_eq hc]
            exact Even.zero

/-! ### Programs -/

/-- There is Java code for a tree exactly if it is a program whose children are statements, and the
code is the class of these statements. -/
theorem generate_eq_ok_iff {options : Options} {symbols : SymbolTable} {root : Node} {code : Text} :
    generate options symbols root = .ok code ↔
      root.kind = .program ∧ ∃ statements : List Statement,
        root.children.map Statement.ofNode = statements.map .ok ∧
          code = classText options symbols statements := by
  constructor
  · intro h
    obtain ⟨nodes, hnodes, h⟩ := bind_eq_ok_iff.1 h
    obtain ⟨statements, hstatements, hcode⟩ := bind_eq_ok_iff.1 h
    have hkind : root.kind = .program := by
      by_contra hkind
      rw [Node.statements, if_neg hkind] at hnodes
      cases hnodes
    rw [Node.eq_children_of_statements hnodes] at hstatements
    exact ⟨hkind, statements, mapM_eq_ok_iff.1 hstatements, (Except.ok.inj hcode).symm⟩
  · rintro ⟨hkind, statements, hstatements, rfl⟩
    have hnone : root.children.find? (fun child => !child.kind.isStatement) = none := by
      rw [List.find?_eq_none]
      intro child hchild
      have hmem : Statement.ofNode child ∈ statements.map .ok :=
        hstatements ▸ List.mem_map_of_mem hchild
      obtain ⟨statement, -, hstatement⟩ := List.mem_map.1 hmem
      rw [← Statement.kind_of_ofNode hstatement.symm, Statement.isStatement_toNode]
      decide
    have hnodes : root.statements = .ok root.children := by
      rw [Node.statements, if_pos hkind, hnone]
    exact bind_eq_ok_iff.2 ⟨_, hnodes, bind_eq_ok_iff.2 ⟨_, mapM_eq_ok_iff.2 hstatements, rfl⟩⟩

/-- The code of a program is that of the statements before one of them, without what closes the
class, then the lines of that statement, and then the code of the statements behind it, without what
opens the class. -/
theorem exists_front_back {options : Options} {symbols : SymbolTable} {root child : Node}
    {before after : List Node} {code : Text} (h : generate options symbols root = .ok code)
    (hchildren : root.children = before ++ child :: after) :
    ∃ front statement back, Statement.ofNode child = .ok statement ∧
      generate options symbols { root with children := before } = .ok (front ++ closing) ∧
      generate options symbols { root with children := after } =
        .ok (preamble options.className ++ back) ∧
      code = front ++ statementText options symbols statement ++ back := by
  obtain ⟨hkind, statements, hread, rfl⟩ := generate_eq_ok_iff.1 h
  rw [hchildren] at hread
  obtain ⟨first, statement, last, rfl, hfirst, hstatement, hlast⟩ := exists_of_map_append_cons hread
  refine ⟨preamble options.className ++ first.flatMap (statementText options symbols), statement,
    last.flatMap (statementText options symbols) ++ closing, hstatement, ?_, ?_, ?_⟩
  · exact generate_eq_ok_iff.2 ⟨hkind, first, hfirst, rfl⟩
  · refine generate_eq_ok_iff.2 ⟨hkind, last, hlast, ?_⟩
    rw [classText, List.append_assoc]
  · simp only [classText, List.flatMap_append, List.flatMap_cons, List.append_assoc]

/-! ### The literals of a statement -/

theorem ofNode_display {node : Node} {statement : Statement} (h : Statement.ofNode node = .ok statement)
    (hkind : node.kind = .displayStatement) : statement = .display node.value := by
  simp only [Statement.ofNode, hkind, bind_eq_ok_iff] at h
  obtain ⟨-, -, hstatement⟩ := h
  exact (Except.ok.inj hstatement).symm

theorem ofNode_execSql {node : Node} {statement : Statement} (h : Statement.ofNode node = .ok statement)
    (hkind : node.kind = .execSql) : statement = .execSql node.value := by
  simp only [Statement.ofNode, hkind, bind_eq_ok_iff] at h
  obtain ⟨-, -, hstatement⟩ := h
  exact (Except.ok.inj hstatement).symm

/-- The block of a query, cut where its literals start. -/
theorem queryBlock_append (db : Database) (query rest : Text) :
    queryBlock db query ++ rest =
      indent ++ ("try (Connection conn = DriverManager.getConnection(".toList ++
        (literal db.jdbcUrl ++ (", ".toList ++ (literal db.user ++ (", ".toList ++
          (literal db.password ++ (");\n".toList ++ indent ++
            "     PreparedStatement stmt = conn.prepareStatement(".toList ++
              (literal query ++ (")) \x7b\n".toList ++ queryEnd ++ rest))))))))) := by
  have hconnect : ");\n".toList = ");".toList ++ ['\n'] := rfl
  have hprepare : ")) \x7b\n".toList = ")) \x7b".toList ++ ['\n'] := rfl
  rw [hconnect, hprepare]
  unfold queryBlock queryEnd bodyLine
  simp only [List.append_assoc]

/-- **Literals read back**: an escaped text is read up to the quotation mark that closes it, and no
Unicode escape comes about in it. So in the code of a program the literal of each `DISPLAY` reads as
the text without its quotation marks, and the literals of each query read as the address, the user
and the password of the database and as the query. What is read last is followed by the code of the
statements behind. -/
theorem literals_read_back :
    (∀ text rest, readLiteral? (escape text ++ '"' :: rest) = some (text, rest)) ∧
    (∀ text before after, escape text = before ++ 'u' :: after → Even (backslashes before)) ∧
    ∀ options symbols root code, generate options symbols root = .ok code →
      ∀ before child after, root.children = before ++ child :: after →
        ∃ front back,
          generate options symbols { root with children := before } = .ok (front ++ closing) ∧
          generate options symbols { root with children := after } =
            .ok (preamble options.className ++ back) ∧
          (child.kind = .displayStatement → options.stripQuotes = true →
            ∃ shown, code = front ++ indent ++ "System.out.println(".toList ++ shown ∧
              readString? shown = some (stripQuotes child.value, ");\n".toList ++ back)) ∧
          (child.kind = .execSql →
            ∃ url user password query,
              code = front ++ indent ++
                "try (Connection conn = DriverManager.getConnection(".toList ++ url ∧
              readString? url = some (options.database.jdbcUrl, ", ".toList ++ user) ∧
              readString? user = some (options.database.user, ", ".toList ++ password) ∧
              readString? password = some (options.database.password, ");\n".toList ++ indent ++
                "     PreparedStatement stmt = conn.prepareStatement(".toList ++ query) ∧
              readString? query = some (child.value, ")) \x7b\n".toList ++ queryEnd ++ back)) := by
  refine ⟨readLiteral?_escape, fun _ _ _ => even_backslashes_escape, ?_⟩
  intro options symbols root code hcode before child after hchildren
  obtain ⟨front, statement, back, hstatement, hfront, hback, rfl⟩ :=
    exists_front_back hcode hchildren
  refine ⟨front, back, hfront, hback, ?_, ?_⟩
  · intro hkind hstrip
    obtain rfl := ofNode_display hstatement hkind
    have htext : quoted (displayText options child.value) = literal (stripQuotes child.value) :=
      congrArg quoted (if_pos hstrip)
    refine ⟨literal (stripQuotes child.value) ++ (");\n".toList ++ back), ?_,
      readString?_literal _ _⟩
    simp [statementText, bodyLine, htext]
  · intro hkind
    obtain rfl := ofNode_execSql hstatement hkind
    refine ⟨_, _, _, _, ?_, readString?_literal _ _, readString?_literal _ _,
      readString?_literal _ _, readString?_literal _ _⟩
    rw [statementText, List.append_assoc, queryBlock_append]
    simp only [List.append_assoc]

/-- A text whose backslash stands before a `u`, in a program that ends behind it. -/
theorem literals_read_back_users :
    ∃ code before shown, generate {} {} (.ofStatements [.display "\"C:\\users\"".toList, .stopRun]) =
        .ok code ∧ code = before ++ shown ∧ readString? shown = some ("C:\\users".toList,
          ");\n        System.exit(0);\n    \x7d\n\x7d\n".toList) := by
  have hcode := generate_ofStatements {} {} [.display "\"C:\\users\"".toList, .stopRun]
  obtain ⟨front, back, -, hback, hdisplay, -⟩ :=
    literals_read_back.2.2 _ _ _ _ hcode [] (.display "\"C:\\users\"".toList) [.stopRun] rfl
  obtain ⟨shown, hshown, hread⟩ := hdisplay rfl rfl
  have hend : back = "        System.exit(0);\n    \x7d\n\x7d\n".toList := by
    have hclass := Except.ok.inj (hback.symm.trans (generate_ofStatements {} {} [.stopRun]))
    rw [classText, List.append_assoc] at hclass
    rw [List.append_cancel_left hclass]
    show bodyLine "System.exit(0);".toList ++ closing = _
    unfold bodyLine indent closing
    repeat rw [String.toList_ofList]
    rfl
  refine ⟨_, _, shown, hcode, hshown, ?_⟩
  rw [hread, hend]
  repeat rw [String.toList_ofList]
  rfl

end CobolSubset.Java

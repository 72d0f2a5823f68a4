import CobolSubset.Proofs.Spelling

/-!
# Reading Java code back

Nothing about a program is lost in its Java code: with the code at hand one can tell which
statements it was made from. This is not plain from the form of the lines. The texts of `DISPLAY`
and of queries are arbitrary, and the name of a subroutine is taken over as it is, so that a call
may look like another statement or like a longer name.

The argument goes from the inside to the outside. The words of a prefix-free code can be put one
behind the other and still be told apart (`PrefixFree.flatMap_injOn`); this is used for the
characters of a literal, for the names in a list and for the statements of a class. That statements
are prefix-free (`Java.statementText_prefixFree`) is seen line by line: the first line tells the
kind (`Java.lineKind_firstLine`), and a line of a known kind tells its operands.
-/

namespace CobolSubset

open Scanner

/-! ### Words that can be told apart -/

/-- No word is empty, and a text starts with at most one of the words. -/
structure PrefixFree {α β : Type} (p : α → Prop) (word : α → List β) : Prop where
  ne_nil : ∀ {a : α}, p a → word a ≠ []
  cancel : ∀ {a b : α} {rest rest' : List β}, p a → p b →
    word a ++ rest = word b ++ rest' → a = b ∧ rest = rest'

/-- A text can be taken apart into the words of such a code in one way only. -/
theorem PrefixFree.flatMap_injOn {α β : Type} {p : α → Prop} {word : α → List β}
    (h : PrefixFree p word) {as bs : List α} (has : ∀ a ∈ as, p a) (hbs : ∀ b ∈ bs, p b)
    (heq : as.flatMap word = bs.flatMap word) : as = bs := by
  induction as generalizing bs with
  | nil =>
      cases bs with
      | nil => rfl
      | cons b bs =>
          have hempty : word b = [] := by simp_all
          exact absurd hempty (h.ne_nil (hbs b List.mem_cons_self))
  | cons a as ih =>
      cases bs with
      | nil =>
          have hempty : word a = [] := by simp_all
          exact absurd hempty (h.ne_nil (has a List.mem_cons_self))
      | cons b bs =>
          rw [List.flatMap_cons, List.flatMap_cons] at heq
          obtain ⟨rfl, hrest⟩ := h.cancel (has a List.mem_cons_self) (hbs b List.mem_cons_self) heq
          rw [ih (fun c hc => has c (List.mem_cons_of_mem _ hc))
            (fun c hc => hbs c (List.mem_cons_of_mem _ hc)) hrest]

section Marks

variable {α : Type} {c : α} {before before' after after' : List α}

/-- If `c` is in neither beginning, both end at the first `c`. -/
theorem eq_of_first_mark (h : c ∉ before) (h' : c ∉ before')
    (heq : before ++ c :: after = before' ++ c :: after') : before = before' ∧ after = after' := by
  induction before generalizing before' with
  | nil =>
      cases before' with
      | nil => simpa using heq
      | cons d before' => simp_all
  | cons d before ih =>
      cases before' with
      | nil =>
          obtain ⟨rfl, -⟩ := List.cons_eq_cons.1 heq
          exact absurd List.mem_cons_self h
      | cons d' before' =>
          obtain ⟨rfl, hrest⟩ := List.cons_eq_cons.1 heq
          obtain ⟨rfl, hafter⟩ := ih (fun hc => h (List.mem_cons_of_mem _ hc))
            (fun hc => h' (List.mem_cons_of_mem _ hc)) hrest
          exact ⟨rfl, hafter⟩

/-- Texts can be cut at the last occurrence of a character. -/
theorem eq_of_last_mark (h : c ∉ after) (h' : c ∉ after')
    (heq : before ++ c :: after = before' ++ c :: after') : before = before' ∧ after = after' := by
  have hreverse :
      after.reverse ++ c :: before.reverse = after'.reverse ++ c :: before'.reverse := by
    simpa using congrArg List.reverse heq
  have hparts := eq_of_first_mark (by simpa using h) (by simpa using h') hreverse
  simpa [and_comm] using hparts

end Marks

/-! ### Lists of names -/

namespace Text

theorem join_cons_cons (separator first second : Text) (more : List Text) :
    join separator (first :: second :: more) =
      first ++ separator ++ join separator (second :: more) := by
  simp [join, List.intercalate]

/-- With one more separator at its end a joined list is words in a row. -/
theorem join_append (separator : Text) {pieces : List Text} (h : pieces ≠ []) :
    join separator pieces ++ separator = pieces.flatMap (· ++ separator) := by
  induction pieces with
  | nil => exact absurd rfl h
  | cons first more ih =>
      cases more with
      | nil => simp [join, List.intercalate]
      | cons second more =>
          rw [join_cons_cons, List.append_assoc, ih (List.cons_ne_nil _ _)]
          simp only [List.flatMap_cons]

theorem not_mem_join {separator : Text} {pieces : List Text} {c : Char} (hseparator : c ∉ separator)
    (hpieces : ∀ piece ∈ pieces, c ∉ piece) : c ∉ join separator pieces := by
  intro hc
  cases pieces with
  | nil => cases hc
  | cons first more =>
      have hmem : c ∈ (first :: more).flatMap (· ++ separator) := by
        rw [← join_append separator (List.cons_ne_nil _ _)]
        exact List.mem_append_left _ hc
      obtain ⟨piece, hpiece, hc⟩ := List.mem_flatMap.1 hmem
      rcases List.mem_append.1 hc with hc | hc
      · exact hpieces piece hpiece hc
      · exact hseparator hc

end Text

/-- Names with a comma and a blank behind each of them can be told apart. -/
theorem prefixFree_names : PrefixFree IsName (· ++ ", ".toList) where
  ne_nil h := by simp [h.ne_nil]
  cancel {a b rest rest'} ha hb heq := by
    have hcomma : a ++ ',' :: ' ' :: rest = b ++ ',' :: ' ' :: rest' := by simpa using heq
    obtain ⟨hname, hrest⟩ := eq_of_first_mark (ha.not_mem rfl) (hb.not_mem rfl) hcomma
    exact ⟨hname, by simpa using hrest⟩

/-- Names do not have a comma, so a list of them can be told from its text. -/
theorem join_names_injective {names names' : List Text} (h : ∀ name ∈ names, IsName name)
    (h' : ∀ name ∈ names', IsName name)
    (heq : Text.join ", ".toList names = Text.join ", ".toList names') : names = names' := by
  have hempty : ∀ {names : List Text}, (∀ name ∈ names, IsName name) →
      Text.join ", ".toList names = [] → names = [] := by
    intro names hnames hjoin
    cases names with
    | nil => rfl
    | cons first more =>
        have hfirst : first = [] := by
          cases more with
          | nil => simpa [Text.join, List.intercalate] using hjoin
          | cons second more => simp_all [Text.join_cons_cons]
        exact absurd hfirst (hnames first List.mem_cons_self).ne_nil
  rcases eq_or_ne names [] with rfl | hnames
  · exact (hempty h' heq.symm).symm
  rcases eq_or_ne names' [] with rfl | hnames'
  · exact hempty h heq
  apply prefixFree_names.flatMap_injOn h h'
  rw [← Text.join_append _ hnames, ← Text.join_append _ hnames', heq]

namespace Java

/-! ### Literals -/

/-- The characters that stand behind a backslash, each with the character it is written for. -/
def escapes : List (Char × Char) :=
  [('\\', '\\'), ('"', '"'), ('n', '\n'), ('r', '\r'), ('t', '\t')]

/-- Reads a character of a string literal, which is written as it is or with a backslash before it.
-/
def readChar? : Text → Option (Char × Text)
  | [] => none
  | '\\' :: rest => do
    let letter ← rest.head?
    let c ← escapes.lookup letter
    return (c, rest.tail)
  | c :: rest => if c ∈ ['"', '\n', '\r'] then none else some (c, rest)

theorem readChar?_plain {c : Char} (h : c ∉ ['\\', '"', '\n', '\r']) (rest : Text) :
    readChar? (c :: rest) = some (c, rest) := by
  simp only [List.mem_cons, List.not_mem_nil, or_false, not_or] at h
  simp [readChar?, h]

/-- A character is read back as it was before it was escaped. -/
theorem readChar?_escapeChar (c : Char) (rest : Text) :
    readChar? (escapeChar c ++ rest) = some (c, rest) := by
  unfold escapeChar
  split
  case h_6 hbackslash hquote hfeed hreturn _ => exact readChar?_plain (by grind) rest
  all_goals rfl

/-- What can be read back character by character is such a code. -/
theorem escapeChar_prefixFree : PrefixFree (fun _ => True) escapeChar where
  ne_nil {c} _ hempty := by
    have hread := readChar?_escapeChar c []
    rw [hempty] at hread
    cases hread
  cancel {c d rest rest'} _ _ heq := by
    have hread := readChar?_escapeChar c rest
    rw [heq, readChar?_escapeChar] at hread
    cases hread
    exact ⟨rfl, rfl⟩

theorem escape_injective {text text' : Text} (h : escape text = escape text') : text = text' :=
  escapeChar_prefixFree.flatMap_injOn (fun _ _ => trivial) (fun _ _ => trivial) h

theorem newline_not_mem_escape (text : Text) : '\n' ∉ escape text := by
  intro h
  obtain ⟨c, -, hc⟩ := List.mem_flatMap.1 h
  unfold escapeChar at hc
  split at hc
  case h_6 hfeed _ _ => exact hfeed (List.mem_singleton.1 hc).symm
  all_goals revert hc; decide

theorem newline_not_mem_literal (text : Text) : '\n' ∉ literal text := by
  simp [literal, quoted, newline_not_mem_escape]

theorem quote_mem_literal (text : Text) : '"' ∈ literal text := by
  simp [literal, quoted]

theorem literal_injective {text text' : Text} (h : literal text = literal text') :
    text = text' := by
  apply escape_injective
  simpa [literal, quoted] using h

/-! ### Lines

The same lines as in `statementText`, each on its own. -/

def printLine (text : Text) : Text :=
  "System.out.println(".toList ++ literal text ++ ");".toList

def assignLine (name value : Text) : Text := name ++ " = ".toList ++ value ++ ";".toList

def exitLine : Text := "System.exit(0);".toList

def callLine (subroutine : Text) (parameters : List Text) : Text :=
  subroutine ++ ".methodName(".toList ++ Text.join ", ".toList parameters ++ ");".toList

def connectLine (db : Database) : Text :=
  "try (Connection conn = DriverManager.getConnection(".toList ++ literal db.jdbcUrl ++ ", ".toList
    ++ literal db.user ++ ", ".toList ++ literal db.password ++ ");".toList

def prepareLine (query : Text) : Text :=
  "     PreparedStatement stmt = conn.prepareStatement(".toList ++ literal query ++ ")) \x7b".toList

/-- The lines of a query behind the one that holds the query itself. -/
def queryEnd : Text :=
  bodyLine "    ResultSet rs = stmt.executeQuery();".toList
    ++ bodyLine "    if (rs.next()) \x7b".toList
    ++ bodyLine "        System.out.println(rs.getString(1));".toList
    ++ bodyLine "    \x7d".toList
    ++ bodyLine "\x7d".toList

/-- The first line of a statement, without the blanks in front. -/
def firstLine (db : Database) : Statement → Text
  | .display raw => printLine (stripQuotes raw)
  | .move value name => assignLine name value
  | .stopRun => exitLine
  | .call subroutine parameters => callLine (stripQuotes subroutine) parameters
  | .execSql _ => connectLine db

/-- The lines of a statement behind the first one. -/
def furtherLines : Statement → Text
  | .display _ => []
  | .move _ _ => []
  | .stopRun => []
  | .call _ _ => []
  | .execSql query => bodyLine (prepareLine query) ++ queryEnd

theorem bodyLine_append (text rest : Text) :
    bodyLine text ++ rest = indent ++ (text ++ '\n' :: rest) := by
  rw [bodyLine, List.append_assoc, List.append_assoc, List.singleton_append]

/-- The code of a statement is its first line, and for a query some more. -/
theorem statementText_eq_lines {options : Options} (h : options.stripQuotes = true)
    (statement : Statement) :
    statementText options {} statement =
      bodyLine (firstLine options.database statement) ++ furtherLines statement := by
  cases statement with
  | display raw =>
      have htext : displayText options raw = escape (stripQuotes raw) := if_pos h
      rw [statementText, htext, furtherLines, List.append_nil]
      rfl
  | move value name =>
      rw [statementText, furtherLines, List.append_nil]
      exact congrArg bodyLine (List.append_nil _)
  | stopRun => rfl
  | call subroutine parameters =>
      have htext : options.literal subroutine = stripQuotes subroutine := if_pos h
      rw [statementText, htext, furtherLines, List.append_nil]
      rfl
  | execSql query =>
      unfold statementText queryBlock furtherLines queryEnd firstLine connectLine prepareLine
      simp only [List.append_assoc]

/-- The statements that can be read back: their operands are spelled as in a source, and a line feed
never stands in the name of a subroutine, which nothing would escape. -/
structure Legible (statement : Statement) : Prop where
  spelled : statement.Spelled
  oneLine : ∀ {subroutine parameters}, statement = .call subroutine parameters → '\n' ∉ subroutine

/-- A character that is none of a name, of a number or of the signs of an assignment does not occur
in one. -/
theorem not_mem_assignLine {value name : Text} {c : Char} (hvalue : IsNumeral value)
    (hname : IsName name) (hdigit : c.isDigit = false) (hpart : isNamePart c = false)
    (hsigns : c ∉ ". =;".toList) : c ∉ assignLine name value := by
  have hpoint : c ≠ '.' := by
    rintro rfl
    exact hsigns (by decide)
  have hoperands : c ∉ name ∧ c ∉ value := ⟨hname.not_mem hpart, hvalue.not_mem hdigit hpoint⟩
  unfold assignLine
  simp_all

theorem not_mem_callLine {subroutine : Text} {parameters : List Text} {c : Char}
    (hsubroutine : c ∉ subroutine) (hparameters : ∀ name ∈ parameters, IsName name)
    (hpart : isNamePart c = false) (hsigns : c ∉ ".methodName(, );".toList) :
    c ∉ callLine subroutine parameters := by
  have hjoin : c ∉ Text.join ", ".toList parameters :=
    Text.not_mem_join (by simp_all) fun name hname => (hparameters name hname).not_mem hpart
  unfold callLine
  simp_all

/-- The first line of a statement that can be read back is a single line. -/
theorem newline_not_mem_firstLine (db : Database) {statement : Statement} (h : Legible statement) :
    '\n' ∉ firstLine db statement := by
  cases statement with
  | display raw =>
      show '\n' ∉ printLine _
      unfold printLine
      repeat rw [String.toList_ofList]
      simp [newline_not_mem_literal]
  | move value name => exact not_mem_assignLine h.spelled.1 h.spelled.2 rfl rfl (by decide)
  | stopRun =>
      show '\n' ∉ exitLine
      unfold exitLine
      rw [String.toList_ofList]
      decide
  | call subroutine parameters =>
      have hsubroutine : '\n' ∉ stripQuotes subroutine := by
        have hline := h.oneLine rfl
        rw [h.spelled.1.eq_quoted.1] at hline
        simp_all
      exact not_mem_callLine hsubroutine h.spelled.2 rfl (by decide)
  | execSql query =>
      show '\n' ∉ connectLine _
      unfold connectLine
      repeat rw [String.toList_ofList]
      simp [newline_not_mem_literal]

theorem newline_not_mem_prepareLine (query : Text) : '\n' ∉ prepareLine query := by
  unfold prepareLine
  repeat rw [String.toList_ofList]
  simp [newline_not_mem_literal]

/-- The kind of statement that starts with a line. A quotation mark shows that the line holds a
string literal; of the lines without one, only those of calls and of the end have a parenthesis. -/
def lineKind (line : Text) : Kind :=
  if '"' ∈ line then if line.head? = some 't' then .execSql else .displayStatement
  else if line = exitLine then .stopRun
  else if '(' ∈ line then .callStatement
  else .moveStatement

/-- The first line tells the kind of the statement. -/
theorem lineKind_firstLine (db : Database) {statement : Statement} (h : Legible statement) :
    lineKind (firstLine db statement) = statement.toNode.kind := by
  cases statement with
  | display raw =>
      have hquote : '"' ∈ printLine (stripQuotes raw) := by
        unfold printLine
        simp [quote_mem_literal]
      have hhead : (printLine (stripQuotes raw)).head? ≠ some 't' := by
        unfold printLine
        simp
      exact (if_pos hquote).trans (if_neg hhead)
  | move value name =>
      have hquote : '"' ∉ assignLine name value :=
        not_mem_assignLine h.spelled.1 h.spelled.2 rfl rfl (by decide)
      have hopen : '(' ∉ assignLine name value :=
        not_mem_assignLine h.spelled.1 h.spelled.2 rfl rfl (by decide)
      have hexit : assignLine name value ≠ exitLine := by
        intro heq
        exact hopen (heq ▸ (by decide : '(' ∈ exitLine))
      exact (if_neg hquote).trans ((if_neg hexit).trans (if_neg hopen))
  | stopRun =>
      show lineKind exitLine = .stopRun
      decide
  | call subroutine parameters =>
      have hquote : '"' ∉ callLine (stripQuotes subroutine) parameters :=
        not_mem_callLine h.spelled.1.eq_quoted.2 h.spelled.2 rfl (by decide)
      have hopen : '(' ∈ callLine (stripQuotes subroutine) parameters := by
        unfold callLine
        simp
      -- Whatever the subroutine is, the line has the word `methodName` in it.
      have hexit : callLine (stripQuotes subroutine) parameters ≠ exitLine := by
        intro heq
        have hname : 'N' ∈ callLine (stripQuotes subroutine) parameters := by
          unfold callLine
          simp
        rw [heq] at hname
        exact absurd hname (by decide)
      exact (if_neg hquote).trans ((if_neg hexit).trans (if_pos hopen))
  | execSql query =>
      have hquote : '"' ∈ connectLine db := by
        unfold connectLine
        simp [quote_mem_literal]
      have hhead : (connectLine db).head? = some 't' := by
        unfold connectLine
        simp
      exact (if_pos hquote).trans (if_pos hhead)

/-! ### The operands of a line -/

theorem printLine_injective {text text' : Text} (h : printLine text = printLine text') :
    text = text' := by
  unfold printLine at h
  exact literal_injective (List.append_cancel_left (List.append_cancel_right h))

theorem prepareLine_injective {query query' : Text} (h : prepareLine query = prepareLine query') :
    query = query' := by
  unfold prepareLine at h
  exact literal_injective (List.append_cancel_left (List.append_cancel_right h))

/-- Names have no blank, so the first one divides the line. -/
theorem assignLine_injective {name name' value value' : Text} (hname : IsName name)
    (hname' : IsName name') (h : assignLine name value = assignLine name' value') :
    name = name' ∧ value = value' := by
  have hblank : name ++ ' ' :: ("= ".toList ++ value ++ ";".toList) =
      name' ++ ' ' :: ("= ".toList ++ value' ++ ";".toList) := by
    simpa [assignLine] using h
  obtain ⟨rfl, hrest⟩ := eq_of_first_mark (hname.not_mem rfl) (hname'.not_mem rfl) hblank
  exact ⟨rfl, List.append_cancel_left (List.append_cancel_right hrest)⟩

/-- The subroutine may be any text, so it is the last parenthesis that tells where it ends. -/
theorem callLine_injective {subroutine subroutine' : Text} {parameters parameters' : List Text}
    (hnames : ∀ name ∈ parameters, IsName name) (hnames' : ∀ name ∈ parameters', IsName name)
    (h : callLine subroutine parameters = callLine subroutine' parameters') :
    subroutine = subroutine' ∧ parameters = parameters' := by
  have hlast : ∀ {names : List Text}, (∀ name ∈ names, IsName name) →
      '(' ∉ Text.join ", ".toList names ++ ");".toList := by
    intro names hnames
    refine List.not_mem_append (Text.not_mem_join (by decide) ?_) (by decide)
    intro name hname
    exact (hnames name hname).not_mem rfl
  have hopen : subroutine ++ ".methodName".toList ++
        '(' :: (Text.join ", ".toList parameters ++ ");".toList) =
      subroutine' ++ ".methodName".toList ++
        '(' :: (Text.join ", ".toList parameters' ++ ");".toList) := by
    simpa [callLine] using h
  obtain ⟨hsubroutine, hrest⟩ := eq_of_last_mark (hlast hnames) (hlast hnames') hopen
  exact ⟨List.append_cancel_right hsubroutine,
    join_names_injective hnames hnames' (List.append_cancel_right hrest)⟩

/-- The first line tells the statement but for a query, which the second line tells. -/
theorem eq_of_lines {db : Database} {a b : Statement} (ha : Legible a) (hb : Legible b)
    {rest rest' : Text} (hfirst : firstLine db a = firstLine db b)
    (hfurther : furtherLines a ++ rest = furtherLines b ++ rest') : a = b ∧ rest = rest' := by
  -- The first line tells the kind, so only statements of one kind have to be compared.
  have hkind : a.toNode.kind = b.toNode.kind := by
    rw [← lineKind_firstLine db ha, hfirst, lineKind_firstLine db hb]
  cases a with
  | display raw =>
      cases b with
      | display raw' =>
          obtain rfl := ha.spelled.stripQuotes_injOn hb.spelled (printLine_injective hfirst)
          exact ⟨rfl, hfurther⟩
      | _ => cases hkind
  | move value name =>
      cases b with
      | move value' name' =>
          obtain ⟨rfl, rfl⟩ := assignLine_injective ha.spelled.2 hb.spelled.2 hfirst
          exact ⟨rfl, hfurther⟩
      | _ => cases hkind
  | stopRun =>
      cases b with
      | stopRun => exact ⟨rfl, hfurther⟩
      | _ => cases hkind
  | call subroutine parameters =>
      cases b with
      | call subroutine' parameters' =>
          obtain ⟨hname, rfl⟩ := callLine_injective ha.spelled.2 hb.spelled.2 hfirst
          obtain rfl := ha.spelled.1.stripQuotes_injOn hb.spelled.1 hname
          exact ⟨rfl, hfurther⟩
      | _ => cases hkind
  | execSql query =>
      cases b with
      | execSql query' =>
          -- The first line is the same for all queries; the query stands in the second one.
          simp only [furtherLines, List.append_assoc, bodyLine_append] at hfurther
          obtain ⟨hquery, hrest⟩ := eq_of_first_mark (newline_not_mem_prepareLine query)
            (newline_not_mem_prepareLine query') (List.append_cancel_left hfurther)
          obtain rfl := prepareLine_injective hquery
          exact ⟨rfl, List.append_cancel_left hrest⟩
      | _ => cases hkind

/-- The codes of statements that can be read back are a prefix-free code. -/
theorem statementText_prefixFree {options : Options} (h : options.stripQuotes = true) :
    PrefixFree Legible (statementText options {}) where
  ne_nil {statement} _ := by
    rw [statementText_eq_lines h, bodyLine_append]
    exact List.cons_ne_nil _ _
  cancel {a b rest rest'} ha hb heq := by
    simp only [statementText_eq_lines h, List.append_assoc, bodyLine_append] at heq
    obtain ⟨hfirst, hfurther⟩ := eq_of_first_mark (newline_not_mem_firstLine _ ha)
      (newline_not_mem_firstLine _ hb) (List.append_cancel_left heq)
    exact eq_of_lines ha hb hfirst hfurther

/-- Programs of legible statements are told apart by their classes. -/
theorem classText_injOn {options : Options} (h : options.stripQuotes = true)
    {statements statements' : List Statement} (hlegible : ∀ s ∈ statements, Legible s)
    (hlegible' : ∀ s ∈ statements', Legible s)
    (heq : classText options {} statements = classText options {} statements') :
    statements = statements' :=
  (statementText_prefixFree h).flatMap_injOn hlegible hlegible'
    (List.append_cancel_left (List.append_cancel_right heq))

end Java

namespace RuleSet

/-- The statements of a source are legible if the names in its calls stand on one line. -/
theorem exists_legible_of_parse {source : Text} {node : Node} (h : standard.parse source = .ok node)
    (hcalls : ∀ subroutine parameters, Node.call subroutine parameters ∈ node.children →
      '\n' ∉ subroutine) :
    ∃ statements : List Statement, node = Node.ofStatements statements ∧
      ∀ statement ∈ statements, Java.Legible statement := by
  obtain ⟨statements, rfl, hspelled⟩ := exists_spelled_of_parse h
  refine ⟨statements, rfl, fun statement hstatement => ⟨hspelled statement hstatement, ?_⟩⟩
  rintro subroutine parameters rfl
  exact hcalls subroutine parameters (List.mem_map_of_mem hstatement)

/-- **Java code tells the program**: two sources with the same Java code have the same tree, so the
same statements with the same operands in the same order. The names of subroutines have to stand on
one line. -/
theorem tree_eq_of_java_eq {options : Options} (htarget : options.target = .java)
    (hstrip : options.stripQuotes = true) {source source' : Text} {node node' : Node}
    (h : standard.parse source = .ok node) (h' : standard.parse source' = .ok node')
    (hcalls : ∀ subroutine parameters, Node.call subroutine parameters ∈ node.children →
      '\n' ∉ subroutine)
    (hcalls' : ∀ subroutine parameters, Node.call subroutine parameters ∈ node'.children →
      '\n' ∉ subroutine)
    (heq : node.generate options {} = node'.generate options {}) : node = node' := by
  obtain ⟨statements, rfl, hlegible⟩ := exists_legible_of_parse h hcalls
  obtain ⟨statements', rfl, hlegible'⟩ := exists_legible_of_parse h' hcalls'
  simp only [Node.generate, htarget, Java.generate_ofStatements] at heq
  rw [Java.classText_injOn hstrip hlegible hlegible' (Except.ok.inj heq)]

/-- Two layouts of one program: a subroutine whose name looks like a call itself, and a query over
two lines. -/
theorem tree_eq_of_java_eq_layout :
    ∃ source source' node node', source ≠ source' ∧ standard.parse source = .ok node ∧
      standard.parse source' = .ok node' ∧ node.children.length = 3 ∧
      node.generate {} {} = node'.generate {} {} ∧ node = node' := by
  have hparse : standard.parse
      "CALL \"A.methodName(B\" USING X, Y. EXEC SQL SELECT 1 END-EXEC. STOP RUN.".toList =
        .ok (.ofStatements [.call "\"A.methodName(B\"".toList [['X'], ['Y']],
          .execSql "SELECT 1".toList, .stopRun]) := by
    rw [standard_eq_spelled, String.toList_ofList]
    decide +kernel
  have hparse' : standard.parse
      "CALL \"A.methodName(B\"\n  USING X, Y.\nEXEC SQL SELECT\n  1 END-EXEC.\nSTOP RUN.".toList =
        .ok (.ofStatements [.call "\"A.methodName(B\"".toList [['X'], ['Y']],
          .execSql "SELECT 1".toList, .stopRun]) := by
    rw [standard_eq_spelled, String.toList_ofList]
    decide +kernel
  have hcalls : ∀ subroutine parameters, Node.call subroutine parameters ∈
      (Node.ofStatements [.call "\"A.methodName(B\"".toList [['X'], ['Y']],
        .execSql "SELECT 1".toList, .stopRun]).children → '\n' ∉ subroutine := by
    intro subroutine parameters hmem
    have hcall := Statement.call_mem_map_toNode.1 hmem
    simp only [List.mem_cons, Statement.call.injEq, reduceCtorEq, List.not_mem_nil,
      or_false] at hcall
    obtain ⟨rfl, -⟩ := hcall
    rw [String.toList_ofList]
    decide
  have hsame := @tree_eq_of_java_eq {} rfl rfl _ _ _ _ hparse hparse' hcalls hcalls rfl
  refine ⟨_, _, _, _, ?_, hparse, hparse', rfl, rfl, hsame⟩
  repeat rw [String.toList_ofList]
  decide

end RuleSet

end CobolSubset

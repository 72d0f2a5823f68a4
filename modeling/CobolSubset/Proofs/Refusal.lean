import CobolSubset.Proofs.ReadBack

/-!
# What Rust refuses

There is Java code for every program that can be read, but not always Rust code: values have to be
Rust literals, names have to have a Rust form, and no argument of a call may be borrowed twice.
`Refuses` says which statements are refused and with which error, without generating anything, and
generating agrees with it (`ofStatement_eq_error_iff`).

For a program that was read from a source little of this is left. Its numbers are Rust literals
(`ofText?_of_isNumeral`) and its names have a Rust form (`nameable_of_isName`), so only calls are
ever refused; `RuleSet.generate_rust_of_parse` says which, and with which error.
-/

namespace CobolSubset.Rust

/-! ### Numerals -/

/-- A digit opens and separates nothing in Rust text. -/
theorem digit_class {c : Char} (h : c.isDigit = true) :
    isSpacing c = false ∧ isIdentStart c = false ∧ c.toNat - '0'.toNat < 10 ∧
      c ∉ ['\ufeff', '/', '-', 'b', 'c', '"', 'r', '\'', '.'] := by
  refine of_range (p := fun c => isSpacing c = false ∧ isIdentStart c = false ∧
    c.toNat - '0'.toNat < 10 ∧ c ∉ ['\ufeff', '/', '-', 'b', 'c', '"', 'r', '\'', '.']) ?_
    (range_of_isDigit h)
  decide

theorem dropWhile_isDigitPart {digits : Text} (h : digits.all Char.isDigit = true) (rest : Text)
    (hrest : Text.stops isDigitPart rest = true) :
    (digits ++ rest).dropWhile isDigitPart = rest := by
  refine Text.dropWhile_append_of_stops ?_ hrest
  intro c hc
  simp [isDigitPart, List.all_eq_true.1 h c hc]

theorem behindDigits?_digits {digits : Text} (h : digits.all Char.isDigit = true) {seen : Bool}
    (hseen : digits ≠ [] ∨ seen = true) : behindDigits? 10 seen digits = some [] := by
  induction digits generalizing seen with
  | nil =>
      have hseen : seen = true := by simpa using hseen
      simp [behindDigits?, hseen]
  | cons c digits ih =>
      rw [List.all_cons, Bool.and_eq_true] at h
      have hbase := (digit_class h.1).2.2.1
      rw [behindDigits?, if_pos h.1, if_pos hbase]
      exact ih h.2 (.inr rfl)

/-- Digits are an integer with nothing behind it. -/
theorem integer?_digits {digits : Text} (hne : digits ≠ []) (h : digits.all Char.isDigit = true) :
    integer? digits = some [] := by
  have hread := @behindDigits?_digits digits h false (.inl hne)
  unfold integer?
  -- The second character is a digit as well, so no other base is chosen.
  split
  · simp at h
  · simp at h
  · simp at h
  · rw [hread]
    rfl

theorem float?_digits {digits : Text} (h : digits.all Char.isDigit = true) :
    float? digits = none := by
  cases digits with
  | nil => rfl
  | cons c digits =>
      rw [List.all_cons, Bool.and_eq_true] at h
      have hdrop := dropWhile_isDigitPart h.2 [] rfl
      rw [List.append_nil] at hdrop
      simp [float?, h.1, behindFraction?, hdrop]

theorem float?_decimal {digits decimals : Text} (hne : digits ≠ [])
    (h : digits.all Char.isDigit = true) (hdecimals : decimals ≠ [])
    (hall : decimals.all Char.isDigit = true) : float? (digits ++ '.' :: decimals) = some [] := by
  obtain ⟨c, digits, rfl⟩ := List.exists_cons_of_ne_nil hne
  rw [List.all_cons, Bool.and_eq_true] at h
  have hpoint := dropWhile_isDigitPart h.2 ('.' :: decimals) rfl
  have hplaces : behindPlaces decimals = [] := by
    have hdrop := dropWhile_isDigitPart hall [] rfl
    rw [List.append_nil] at hdrop
    simp [behindPlaces, hdrop]
  have hfollow : mayFollowPoint decimals = true := by
    obtain ⟨d, decimals, rfl⟩ := List.exists_cons_of_ne_nil hdecimals
    rw [List.all_cons, Bool.and_eq_true] at hall
    obtain ⟨-, hstart, -, hother⟩ := digit_class hall.1
    simp only [List.mem_cons, not_or] at hother
    simp [mayFollowPoint, hstart, hother]
  simp [float?, h.1, behindFraction?, hpoint, hfollow, hplaces, numberEnd?, behindSuffix]

/-- A numeral of the source is a number with nothing behind it. -/
theorem number?_of_isNumeral {text : Text} (h : IsNumeral text) : number? text = some [] := by
  cases h with
  | integer hne hdigits => rw [number?, float?_digits hdigits, integer?_digits hne hdigits]; rfl
  | decimal hne hdigits hdecimals hall =>
      rw [number?, float?_decimal hne hdigits hdecimals hall]
      rfl

theorem exists_digit_of_isNumeral {text : Text} (h : IsNumeral text) :
    ∃ c rest, text = c :: rest ∧ c.isDigit = true := by
  cases h with
  | integer hne hdigits =>
      obtain ⟨c, rest, rfl⟩ := List.exists_cons_of_ne_nil hne
      exact ⟨c, rest, rfl, List.all_eq_true.1 hdigits c List.mem_cons_self⟩
  | decimal hne hdigits _ _ =>
      obtain ⟨c, rest, rfl⟩ := List.exists_cons_of_ne_nil hne
      exact ⟨c, _, rfl, List.all_eq_true.1 hdigits c List.mem_cons_self⟩

theorem skipSpacing_digit {c : Char} (h : c.isDigit = true) (rest : Text) :
    skipSpacing (c :: rest) = c :: rest := by
  obtain ⟨hspacing, -, -, hother⟩ := digit_class h
  simp only [List.mem_cons, not_or] at hother
  unfold skipSpacing
  split <;> simp_all

/-- **Every number of a source is a Rust literal**, taken over as it stands. -/
theorem ofText?_of_isNumeral {text : Text} (h : IsNumeral text) :
    Literal.ofText? text = some ⟨false, text⟩ := by
  have hnumber := number?_of_isNumeral h
  obtain ⟨c, rest, rfl, hdigit⟩ := exists_digit_of_isNumeral h
  obtain ⟨-, -, -, hother⟩ := digit_class hdigit
  simp only [List.mem_cons, not_or] at hother
  have hmark : dropByteOrderMark (c :: rest) = c :: rest := by
    unfold dropByteOrderMark
    split <;> simp_all
  have hstring : string? (c :: rest) = none := by
    simp [string?, quotation?, hother]
  have hchar : char? (c :: rest) = none := by
    simp [char?, hother]
  have hunsigned : unsigned? (c :: rest) = some [] := by
    rw [unsigned?, hstring, hchar, hnumber]
    rfl
  have hsole : soleToken? unsigned? (c :: rest) = some (c :: rest) := by
    have hend : skipSpacing [] = [] := by rw [skipSpacing]
    simp [soleToken?, hunsigned, hend, before]
  unfold Literal.ofText?
  rw [hmark, skipSpacing_digit hdigit]
  split
  · simp_all
  · rw [hsole]
    rfl

/-! ### Repeated arguments -/

theorem firstRepeated?_eq_none_iff {seen names : List Text} :
    firstRepeated? seen names = none ↔ names.Nodup ∧ ∀ name ∈ names, name ∉ seen := by
  induction names generalizing seen with
  | nil => simp [firstRepeated?]
  | cons name names ih =>
      rw [firstRepeated?]
      by_cases hseen : name ∈ seen
      · simp [hseen]
      · simp only [List.contains_eq_mem, decide_eq_true_eq, if_neg hseen, ih]
        grind

/-- The name that is found is the first one with an earlier occurrence. -/
theorem firstRepeated?_eq_some_iff {seen names : List Text} {name : Text} :
    firstRepeated? seen names = some name ↔
      ∃ before after, names = before ++ name :: after ∧ before.Nodup ∧
        (∀ other ∈ before, other ∉ seen) ∧ (name ∈ seen ∨ name ∈ before) := by
  induction names generalizing seen with
  | nil => simp [firstRepeated?]
  | cons first names ih =>
      rw [firstRepeated?]
      by_cases hseen : first ∈ seen
      · simp only [List.contains_eq_mem, decide_eq_true_eq, if_pos hseen, Option.some.injEq]
        constructor
        · rintro rfl
          exact ⟨[], names, rfl, by simp, by simp, .inl hseen⟩
        · rintro ⟨before, after, hsplit, -, hbefore, -⟩
          cases before with
          | nil => cases hsplit; rfl
          | cons other before =>
              cases hsplit
              exact absurd hseen (hbefore first List.mem_cons_self)
      · simp only [List.contains_eq_mem, decide_eq_true_eq, if_neg hseen, ih]
        constructor
        · rintro ⟨before, after, rfl, hnodup, hbefore, hname⟩
          refine ⟨first :: before, after, rfl, ?_, ?_, ?_⟩ <;> grind
        · rintro ⟨before, after, hsplit, hnodup, hbefore, hname⟩
          cases before with
          | nil => grind
          | cons other before =>
              cases hsplit
              refine ⟨before, after, rfl, ?_, ?_, ?_⟩ <;> grind

/-- `Repeats parameters name`: going through the parameters, the first one whose Rust name has
occurred before has the Rust name `name`. -/
def Repeats (parameters : List Text) (name : Text) : Prop :=
  ∃ before parameter after, parameters = before ++ parameter :: after ∧
    (before.map identifier).Nodup ∧ identifier parameter ∈ before.map identifier ∧
    identifier parameter = .ok name

theorem ok_injective {ε α : Type} : Function.Injective (Except.ok : α → Except ε α) :=
  fun _ _ h => Except.ok.inj h

/-- Where all parameters have Rust names, these are searched for one that occurs again. -/
theorem firstRepeated?_identifiers {parameters names : List Text}
    (h : parameters.mapM identifier = .ok names) :
    (firstRepeated? [] names = none ↔ (parameters.map identifier).Nodup) ∧
      ∀ name, firstRepeated? [] names = some name ↔ Repeats parameters name := by
  have hmap : parameters.map identifier = names.map .ok := mapM_eq_ok_iff.1 h
  constructor
  · rw [firstRepeated?_eq_none_iff, hmap, List.nodup_map_iff ok_injective]
    simp
  · intro name
    rw [firstRepeated?_eq_some_iff]
    constructor
    · rintro ⟨before, after, rfl, hnodup, -, hname⟩
      have hmem : name ∈ before := by simpa using hname
      obtain ⟨first, rest, rfl, hfirst, hrest⟩ :=
        List.map_eq_append_iff.1 (hmap.trans List.map_append)
      obtain ⟨parameter, last, rfl, hparameter, -⟩ := List.map_eq_cons_iff.1 hrest
      refine ⟨first, parameter, last, rfl, ?_, ?_, hparameter⟩
      · rw [hfirst, List.nodup_map_iff ok_injective]
        exact hnodup
      · rw [hfirst, hparameter]
        exact List.mem_map_of_mem hmem
    · rintro ⟨first, parameter, last, rfl, hnodup, hmem, hparameter⟩
      rw [List.map_append, List.map_cons, hparameter] at hmap
      obtain ⟨before, rest, rfl, hbefore, hrest⟩ := List.map_eq_append_iff.1 hmap.symm
      obtain ⟨other, after, rfl, hother, -⟩ := List.map_eq_cons_iff.1 hrest
      cases hother
      rw [← hbefore, List.nodup_map_iff ok_injective] at hnodup
      rw [← hbefore, hparameter, List.mem_map_of_injective ok_injective] at hmem
      exact ⟨before, after, rfl, hnodup, by simp, .inr hmem⟩

/-! ### Statements -/

/-- `Refuses statement error`: there is no Rust code for the statement, for the reason that `error`
gives. The constructors stand in the order in which the reasons are looked for. -/
inductive Refuses : CobolSubset.Statement → GenerateError → Prop
  | literal {value name : Text} :
      Literal.ofText? value = none → Refuses (.move value name) (.invalidLiteral value)
  | target {value name : Text} :
      Literal.ofText? value ≠ none → ¬ Nameable name →
      Refuses (.move value name) (.invalidLiteral name)
  | subroutine {subroutine : Text} {parameters : List Text} :
      ¬ Nameable (stripQuotes subroutine) →
      Refuses (.call subroutine parameters) (.invalidLiteral (stripQuotes subroutine))
  | parameter {subroutine parameter : Text} {before after : List Text} :
      Nameable (stripQuotes subroutine) → (∀ other ∈ before, Nameable other) →
      ¬ Nameable parameter →
      Refuses (.call subroutine (before ++ parameter :: after)) (.invalidLiteral parameter)
  | repeated {subroutine name : Text} {parameters : List Text} :
      Nameable (stripQuotes subroutine) → (∀ parameter ∈ parameters, Nameable parameter) →
      Repeats parameters name →
      Refuses (.call subroutine parameters)
        (.malformedNode "CallStatement".toList
          ("parameter `".toList ++ name ++ "` passed more than once".toList))

theorem mapM_identifier_eq_error_iff {parameters : List Text} {error : GenerateError} :
    parameters.mapM identifier = .error error ↔
      ∃ before parameter after, parameters = before ++ parameter :: after ∧
        (∀ other ∈ before, Nameable other) ∧ ¬ Nameable parameter ∧
        error = .invalidLiteral parameter := by
  simp only [mapM_eq_error_iff, exists_identifier_iff, identifier_eq_error_iff]

theorem exists_mapM_identifier_iff {parameters : List Text} :
    (∃ names, parameters.mapM identifier = .ok names) ↔
      ∀ parameter ∈ parameters, Nameable parameter := by
  simp only [exists_mapM_eq_ok_iff, exists_identifier_iff]

/-- A call is refused because of its subroutine, else because of a parameter's name, else because of
a repetition. -/
theorem ofStatement_call_eq_error_iff {options : Options} {subroutine : Text}
    {parameters : List Text} {error : GenerateError} :
    Statement.ofStatement options (.call subroutine parameters) = .error error ↔
      Refuses (.call subroutine parameters) error := by
  rw [Statement.ofStatement, bind_eq_error_iff]
  constructor
  · rintro (hmodule | ⟨module, hmodule, hmore⟩)
    · obtain ⟨hname, rfl⟩ := identifier_eq_error_iff.1 hmodule
      exact .subroutine hname
    have hname := exists_identifier_iff.1 ⟨module, hmodule⟩
    rcases bind_eq_error_iff.1 hmore with herror | ⟨names, hnames, hlast⟩
    · obtain ⟨before, parameter, after, rfl, hbefore, hparameter, rfl⟩ :=
        mapM_identifier_eq_error_iff.1 herror
      exact .parameter hname hbefore hparameter
    · cases hrepeated : firstRepeated? [] names with
      | none => rw [hrepeated] at hlast; cases hlast
      | some name =>
          rw [hrepeated] at hlast
          cases hlast
          have hrepeats := ((firstRepeated?_identifiers hnames).2 name).1 hrepeated
          exact .repeated hname (exists_mapM_identifier_iff.1 ⟨names, hnames⟩) hrepeats
  · intro h
    cases h with
    | subroutine hname => exact .inl (identifier_eq_error_iff.2 ⟨hname, rfl⟩)
    | @parameter _ parameter before after hname hbefore hparameter =>
        obtain ⟨module, hmodule⟩ := exists_identifier_iff.2 hname
        have herror := mapM_identifier_eq_error_iff.2
          ⟨before, parameter, after, rfl, hbefore, hparameter, rfl⟩
        exact .inr ⟨module, hmodule, bind_eq_error_iff.2 (.inl herror)⟩
    | repeated hname hall hrepeats =>
        obtain ⟨module, hmodule⟩ := exists_identifier_iff.2 hname
        obtain ⟨names, hnames⟩ := exists_mapM_identifier_iff.2 hall
        refine .inr ⟨module, hmodule, bind_eq_error_iff.2 (.inr ⟨names, hnames, ?_⟩)⟩
        rw [((firstRepeated?_identifiers hnames).2 _).2 hrepeats]
        rfl

/-- **What Rust refuses**: whether there is Rust code for a statement does not depend on the
options. -/
theorem ofStatement_eq_error_iff {options : Options} {statement : CobolSubset.Statement}
    {error : GenerateError} :
    Statement.ofStatement options statement = .error error ↔ Refuses statement error := by
  cases statement with
  | display literal => constructor <;> rintro ⟨⟩
  | move value name =>
      rw [Statement.ofStatement]
      cases hvalue : Literal.ofText? value with
      | none =>
          constructor
          · rintro ⟨⟩
            exact .literal hvalue
          · intro h
            cases h with
            | literal => rfl
            | target hsome => exact absurd hvalue hsome
      | some literal =>
          have hsome : Literal.ofText? value ≠ none := by simp [hvalue]
          show (identifier name >>= fun name => pure (Statement.assign name literal)) =
            .error error ↔ _
          rw [bind_eq_error_iff, identifier_eq_error_iff]
          constructor
          · rintro (⟨hname, rfl⟩ | ⟨_, _, hdone⟩)
            · exact .target hsome hname
            · cases hdone
          · intro h
            cases h with
            | literal hnone => exact absurd hnone hsome
            | target _ hname => exact .inl ⟨hname, rfl⟩
  | stopRun => constructor <;> rintro ⟨⟩
  | call subroutine parameters => exact ofStatement_call_eq_error_iff
  | execSql query => constructor <;> rintro ⟨⟩

/-- A statement is not refused exactly if there is Rust code for it. -/
theorem exists_ofStatement_iff {options : Options} {statement : CobolSubset.Statement} :
    (∃ code, Statement.ofStatement options statement = .ok code) ↔
      ∀ error, ¬ Refuses statement error := by
  simp only [← @ofStatement_eq_error_iff options]
  cases Statement.ofStatement options statement with
  | ok code => simp
  | error error => simp

/-! ### Programs -/

theorem ofNode_toNode (options : Options) (statement : CobolSubset.Statement) :
    Statement.ofNode options statement.toNode = Statement.ofStatement options statement := by
  rw [Statement.ofNode, CobolSubset.Statement.ofNode_toNode]
  rfl

/-- The file of a program is made statement by statement, and the first one that is refused
decides. -/
theorem ofNode_ofStatements (options : Options) (statements : List CobolSubset.Statement) :
    Program.ofNode options (Node.ofStatements statements) =
      (statements.mapM (Statement.ofStatement options)).map (Program.mk options.includeHeader) := by
  have hmap : (statements.map CobolSubset.Statement.toNode).mapM (Statement.ofNode options) =
      statements.mapM (Statement.ofStatement options) := by
    rw [List.mapM_map]
    exact congrArg (List.mapM · statements) (funext (ofNode_toNode options))
  rw [Program.ofNode, Node.statements_ofStatements]
  show ((statements.map CobolSubset.Statement.toNode).mapM (Statement.ofNode options) >>=
    fun found => pure (Program.mk options.includeHeader found)) = _
  rw [hmap]
  cases statements.mapM (Statement.ofStatement options) <;> rfl

/-- The first statement that is refused decides the error of a program. -/
theorem ofStatements_eq_error_iff {options : Options} {statements : List CobolSubset.Statement}
    {error : GenerateError} :
    Program.ofNode options (Node.ofStatements statements) = .error error ↔
      ∃ before statement after, statements = before ++ statement :: after ∧
        (∀ other ∈ before, ∀ e, ¬ Refuses other e) ∧ Refuses statement error := by
  rw [ofNode_ofStatements, map_eq_error_iff, mapM_eq_error_iff]
  simp only [exists_ofStatement_iff, ofStatement_eq_error_iff]

theorem exists_ofStatements_error_iff {options : Options}
    {statements : List CobolSubset.Statement} :
    (∃ error, Program.ofNode options (Node.ofStatements statements) = .error error) ↔
      ∃ statement ∈ statements, ∃ error, Refuses statement error := by
  simp only [ofNode_ofStatements, map_eq_error_iff]
  rw [exists_eq_error_iff, exists_mapM_eq_ok_iff]
  simp only [exists_ofStatement_iff]
  push Not
  rfl

theorem generate_eq_error_iff {options : Options} {root : Node} {error : GenerateError} :
    Rust.generate options root = .error error ↔ Program.ofNode options root = .error error := by
  rw [generate_eq_map, map_eq_error_iff]

/-! ### Programs that were read

Numbers and names of a source are never refused, so only calls are left, and of these only the name
of the subroutine, which may be any text, and parameters that the Rust names bring together. -/

/-- The calls that there is Rust code for. -/
def Callable (subroutine : Text) (parameters : List Text) : Prop :=
  Nameable (stripQuotes subroutine) ∧ (parameters.map identifier).Nodup

/-- The error of a call that there is no Rust code for. The name of the subroutine is looked at
before the parameters are. -/
inductive CallFault (subroutine : Text) (parameters : List Text) : GenerateError → Prop
  | name : ¬ Nameable (stripQuotes subroutine) →
      CallFault subroutine parameters (.invalidLiteral (stripQuotes subroutine))
  | repeated {name : Text} : Nameable (stripQuotes subroutine) → Repeats parameters name →
      CallFault subroutine parameters
        (.malformedNode "CallStatement".toList
          ("parameter `".toList ++ name ++ "` passed more than once".toList))

/-- There is a repetition just if two Rust names are the same. -/
theorem exists_repeats_iff {parameters : List Text}
    (h : ∀ parameter ∈ parameters, Nameable parameter) :
    (∃ name, Repeats parameters name) ↔ ¬ (parameters.map identifier).Nodup := by
  obtain ⟨names, hnames⟩ := exists_mapM_identifier_iff.2 h
  obtain ⟨hnone, hsome⟩ := firstRepeated?_identifiers hnames
  simp only [← hsome, ← hnone, ← Option.isSome_iff_exists, ← Option.ne_none_iff_isSome, ne_eq]

theorem refuses_call_iff {subroutine : Text} {parameters : List Text} {error : GenerateError}
    (h : ∀ parameter ∈ parameters, Nameable parameter) :
    Refuses (.call subroutine parameters) error ↔ CallFault subroutine parameters error := by
  constructor
  · intro hrefuses
    cases hrefuses with
    | subroutine hname => exact .name hname
    | parameter _ _ hparameter => exact absurd (h _ (by simp)) hparameter
    | repeated hname _ hrepeats => exact .repeated hname hrepeats
  · intro hfault
    cases hfault with
    | name hname => exact .subroutine hname
    | repeated hname hrepeats => exact .repeated hname h hrepeats

theorem exists_callFault_iff {subroutine : Text} {parameters : List Text}
    (h : ∀ parameter ∈ parameters, Nameable parameter) :
    (∃ error, CallFault subroutine parameters error) ↔ ¬ Callable subroutine parameters := by
  rw [Callable, not_and_or, ← exists_repeats_iff h]
  constructor
  · rintro ⟨_, hname | ⟨-, hrepeats⟩⟩
    · exact .inl hname
    · exact .inr ⟨_, hrepeats⟩
  · rintro (hname | ⟨name, hrepeats⟩)
    · exact ⟨_, .name hname⟩
    · by_cases hname : Nameable (stripQuotes subroutine)
      · exact ⟨_, .repeated hname hrepeats⟩
      · exact ⟨_, .name hname⟩

/-- The parameters of a call that was read have names, so only a repetition can be wrong with
them. -/
theorem parameters_nameable {subroutine : Text} {parameters : List Text}
    (h : (CobolSubset.Statement.call subroutine parameters).Spelled) :
    ∀ parameter ∈ parameters, Nameable parameter :=
  fun parameter hparameter => nameable_of_isName (h.2 parameter hparameter)

/-- Of the statements of a source only calls can be refused. -/
theorem refuses_iff_of_spelled {statement : CobolSubset.Statement} (h : statement.Spelled)
    {error : GenerateError} :
    Refuses statement error ↔
      ∃ subroutine parameters, statement = .call subroutine parameters ∧
        CallFault subroutine parameters error := by
  cases statement with
  | call subroutine parameters =>
      rw [refuses_call_iff (parameters_nameable h)]
      simp
  | move value name =>
      obtain ⟨hvalue, hname⟩ := h
      constructor
      · rintro (hnone | ⟨-, hunnamed⟩)
        · rw [ofText?_of_isNumeral hvalue] at hnone
          cases hnone
        · exact absurd (nameable_of_isName hname) hunnamed
      · rintro ⟨_, _, hcall, -⟩
        cases hcall
  | display | stopRun | execSql =>
      constructor
      · rintro ⟨⟩
      · rintro ⟨_, _, hcall, -⟩
        cases hcall

theorem exists_refuses_iff_of_spelled {statement : CobolSubset.Statement} (h : statement.Spelled) :
    (∃ error, Refuses statement error) ↔
      ∃ subroutine parameters, statement = .call subroutine parameters ∧
        ¬ Callable subroutine parameters := by
  simp only [refuses_iff_of_spelled h]
  constructor
  · rintro ⟨error, subroutine, parameters, rfl, hfault⟩
    have hnot := (exists_callFault_iff (parameters_nameable h)).1 ⟨error, hfault⟩
    exact ⟨subroutine, parameters, rfl, hnot⟩
  · rintro ⟨subroutine, parameters, rfl, hnot⟩
    obtain ⟨error, hfault⟩ := (exists_callFault_iff (parameters_nameable h)).2 hnot
    exact ⟨error, subroutine, parameters, rfl, hfault⟩

/-- Where the operands are spelled well, the first call without Rust code decides the error. -/
theorem ofStatements_eq_error_iff_of_spelled {options : Options}
    {statements : List CobolSubset.Statement} (h : ∀ statement ∈ statements, statement.Spelled)
    {error : GenerateError} :
    Program.ofNode options (Node.ofStatements statements) = .error error ↔
      ∃ before subroutine parameters after,
        statements = before ++ .call subroutine parameters :: after ∧
        (∀ s ps, .call s ps ∈ before → Callable s ps) ∧ CallFault subroutine parameters error := by
  rw [ofStatements_eq_error_iff]
  constructor
  · rintro ⟨before, statement, after, rfl, hbefore, hrefuses⟩
    obtain ⟨subroutine, parameters, rfl, hfault⟩ :=
      (refuses_iff_of_spelled (h statement (by simp))).1 hrefuses
    refine ⟨before, subroutine, parameters, after, rfl, ?_, hfault⟩
    intro s ps hcall
    by_contra hnot
    have hspelled : (CobolSubset.Statement.call s ps).Spelled := h _ (by simp [hcall])
    obtain ⟨e, he⟩ := (exists_refuses_iff_of_spelled hspelled).2 ⟨s, ps, rfl, hnot⟩
    exact hbefore _ hcall e he
  · rintro ⟨before, subroutine, parameters, after, rfl, hbefore, hfault⟩
    refine ⟨before, _, after, rfl, ?_, ?_⟩
    · intro other hother e hrefuses
      obtain ⟨s, ps, rfl, hnot⟩ :=
        (exists_refuses_iff_of_spelled (h other (by simp [hother]))).1 ⟨e, hrefuses⟩
      exact hnot (hbefore s ps hother)
    · exact (refuses_iff_of_spelled (h _ (by simp))).2 ⟨subroutine, parameters, rfl, hfault⟩

end CobolSubset.Rust

namespace CobolSubset

/-- **The sources without Rust code**: for a program that was read, generating Rust code fails
exactly if it has a call whose subroutine has no Rust name or whose parameters do not have different
ones. The first such call decides the error, with the name of the subroutine before the parameters.
Nothing else is ever refused, and reading the code back never fails. -/
theorem RuleSet.generate_rust_of_parse {source : Text} {node : Node} {options : Options}
    (hparse : standard.parse source = .ok node) (hrust : options.target = .rust)
    (symbols : SymbolTable) :
    ((∃ error, node.generate options symbols = .error error) ↔
      ∃ subroutine parameters, Node.call subroutine parameters ∈ node.children ∧
        (¬ Rust.Nameable (stripQuotes subroutine) ∨
          ¬ (parameters.map Rust.identifier).Nodup)) ∧
    (∀ error, node.generate options symbols = .error error ↔
      ∃ before subroutine parameters after,
        node.children = before ++ Node.call subroutine parameters :: after ∧
        (∀ s ps, Node.call s ps ∈ before →
          Rust.Nameable (stripQuotes s) ∧ (ps.map Rust.identifier).Nodup) ∧
        Rust.CallFault subroutine parameters error) ∧
    (∀ child ∈ node.children, child.kind ≠ .callStatement →
      ∃ statement, Rust.Statement.ofNode options child = .ok statement) ∧
    ∀ reason, node.generate options symbols ≠ .error (.rejectedCode reason) := by
  obtain ⟨statements, rfl, hspelled⟩ := exists_spelled_of_parse hparse
  have hgenerate (error : GenerateError) :
      (Node.ofStatements statements).generate options symbols = .error error ↔
        Rust.Program.ofNode options (Node.ofStatements statements) = .error error := by
    rw [Node.generate, hrust]
    exact Rust.generate_eq_error_iff
  have hfirst (error : GenerateError) :=
    (hgenerate error).trans (Rust.ofStatements_eq_error_iff_of_spelled hspelled)
  refine ⟨?_, ?_, ?_, ?_⟩
  · simp only [hgenerate]
    rw [Rust.exists_ofStatements_error_iff]
    constructor
    · rintro ⟨statement, hstatement, hrefuses⟩
      obtain ⟨subroutine, parameters, rfl, hnot⟩ :=
        (Rust.exists_refuses_iff_of_spelled (hspelled statement hstatement)).1 hrefuses
      exact ⟨subroutine, parameters, Statement.call_mem_map_toNode.2 hstatement,
        not_and_or.1 hnot⟩
    · rintro ⟨subroutine, parameters, hcall, hnot⟩
      have hstatement := Statement.call_mem_map_toNode.1 hcall
      exact ⟨_, hstatement, (Rust.exists_refuses_iff_of_spelled (hspelled _ hstatement)).2
        ⟨subroutine, parameters, rfl, not_and_or.2 hnot⟩⟩
  · intro error
    rw [hfirst]
    constructor
    · rintro ⟨before, subroutine, parameters, after, rfl, hbefore, hfault⟩
      refine ⟨before.map Statement.toNode, subroutine, parameters, after.map Statement.toNode,
        List.map_append, ?_, hfault⟩
      intro s ps hcall
      exact hbefore s ps (Statement.call_mem_map_toNode.1 hcall)
    · rintro ⟨before, subroutine, parameters, after, hsplit, hbefore, hfault⟩
      obtain ⟨first, rest, rfl, rfl, hrest⟩ := List.map_eq_append_iff.1 hsplit
      obtain ⟨statement, last, rfl, hcall, -⟩ := List.map_eq_cons_iff.1 hrest
      obtain rfl : statement = .call subroutine parameters := Statement.toNode_injective hcall
      refine ⟨first, subroutine, parameters, last, rfl, ?_, hfault⟩
      intro s ps hmem
      exact hbefore s ps (Statement.call_mem_map_toNode.2 hmem)
  · intro child hchild hkind
    obtain ⟨statement, hstatement, rfl⟩ := List.mem_map.1 hchild
    rw [Rust.ofNode_toNode, Rust.exists_ofStatement_iff]
    intro error hrefuses
    obtain ⟨_, _, rfl, -⟩ :=
      (Rust.refuses_iff_of_spelled (hspelled statement hstatement)).1 hrefuses
    exact hkind rfl
  · intro reason herror
    obtain ⟨_, _, _, _, _, _, hfault⟩ := (hfirst _).1 herror
    cases hfault

/-- `TYPE` and `TYPE-` are different names with one Rust name, so the second call is refused before
the third, whose subroutine has no Rust name at all. -/
theorem RuleSet.generate_rust_of_parse_keyword :
    ∃ source node, standard.parse source = .ok node ∧
      node.generate { target := .rust } {} = .error (.malformedNode "CallStatement".toList
        "parameter `type_` passed more than once".toList) := by
  have hparse : standard.parse
      "CALL \"A-1\" USING X, Y. CALL \"B\" USING TYPE, X, TYPE-. CALL \"2 B\". STOP RUN.".toList =
        .ok (.ofStatements [.call "\"A-1\"".toList ["X".toList, "Y".toList],
          .call "\"B\"".toList ["TYPE".toList, "X".toList, "TYPE-".toList],
          .call "\"2 B\"".toList [], .stopRun]) := by
    rw [standard_eq_spelled, String.toList_ofList]
    decide +kernel
  refine ⟨_, _, hparse, ?_⟩
  obtain ⟨-, hfirst, -, -⟩ := @generate_rust_of_parse _ _ { target := .rust } hparse rfl {}
  refine (hfirst _).2 ⟨[.call "\"A-1\"".toList ["X".toList, "Y".toList]], "\"B\"".toList,
    ["TYPE".toList, "X".toList, "TYPE-".toList], [.call "\"2 B\"".toList [], .stopRun], rfl, ?_, ?_⟩
  · intro s ps hcall
    have hfirst : Statement.call s ps = .call "\"A-1\"".toList ["X".toList, "Y".toList] :=
      Statement.toNode_injective (List.mem_singleton.1 hcall)
    cases hfirst
    decide
  · exact @Rust.CallFault.repeated _ _ "type_".toList (by decide)
      ⟨["TYPE".toList, "X".toList], "TYPE-".toList, [], rfl, by decide, by decide, by decide⟩

end CobolSubset

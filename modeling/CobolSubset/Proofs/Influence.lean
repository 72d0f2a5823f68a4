import CobolSubset.Proofs.ReadBack
import Mathlib.Data.List.Basic

/-!
# What each setting reaches

Code is made with a number of settings, among them the password of a database. A setting should
decide about the code that it is for and about nothing else, errors included. `Target.reads` is the
table of what it is for: the settings that a target looks at for the program as a whole and for the
statements of each kind.

That nothing beyond the table has an influence is a statement about two runs. If they agree about all
that the table names for the nodes of a tree, they have the same result on it
(`Node.generate_eq_of_agree`), whatever else they differ in and whether the tree is well-formed or
not.
-/

namespace CobolSubset

/-! ### Settings -/

/-- A setting, the target aside. -/
inductive Aspect where
  | quotes
  | className
  | header
  | database
  | declarations
deriving DecidableEq, Repr

/-- All settings of one run. -/
structure Settings where
  options : Options
  symbols : SymbolTable

/-- Two runs have the same setting. -/
def Aspect.Agree : Aspect → Settings → Settings → Prop
  | quotes, a, b => a.options.stripQuotes = b.options.stripQuotes
  | className, a, b => a.options.className = b.options.className
  | header, a, b => a.options.includeHeader = b.options.includeHeader
  | database, a, b => a.options.database = b.options.database
  | declarations, a, b => a.symbols = b.symbols

/-- The settings that a target looks at for a node of the kind. A Rust call needs a name for its
module, so it has no quotation marks in any case. -/
def Target.reads : Target → Kind → List Aspect
  | java, .program => [.className]
  | java, .displayStatement => [.quotes]
  | java, .moveStatement => [.declarations]
  | java, .callStatement => [.quotes]
  | java, .execSql => [.database]
  | rust, .program => [.header]
  | rust, .displayStatement => [.quotes]
  | rust, .execSql => [.database]
  | _, _ => []

/-- Two runs agree about everything that the target looks at for nodes of the kind. -/
def Target.AgreeOn (target : Target) (a b : Settings) (kind : Kind) : Prop :=
  ∀ aspect ∈ target.reads kind, aspect.Agree a b

/-! ### Statements -/

/-- Steps along a list that do the same on each element do the same on the whole list. -/
theorem mapM_congr {ε α β : Type} {f g : α → Except ε β} {as : List α} (h : ∀ a ∈ as, f a = g a) :
    as.mapM f = as.mapM g := by
  induction as with
  | nil => rfl
  | cons a as ih =>
      rw [List.forall_mem_cons] at h
      rw [List.mapM_cons, List.mapM_cons, h.1, ih h.2]

section TwoRuns

variable {a b : Settings}

/-- The Java code of a statement depends on nothing but what the table lists for its kind. -/
theorem Java.statementText_eq_of_agree {statement : Statement}
    (h : Target.java.AgreeOn a b statement.toNode.kind) :
    statementText a.options a.symbols statement = statementText b.options b.symbols statement := by
  cases statement with
  | display raw =>
      have hquotes : a.options.stripQuotes = b.options.stripQuotes := h .quotes List.mem_cons_self
      simp only [statementText, displayText, hquotes]
  | move value name =>
      have hsymbols : a.symbols = b.symbols := h .declarations List.mem_cons_self
      simp only [statementText, hsymbols]
  | stopRun => rfl
  | call subroutine parameters =>
      have hquotes : a.options.stripQuotes = b.options.stripQuotes := h .quotes List.mem_cons_self
      simp only [statementText, Options.literal, hquotes]
  | execSql query =>
      have hdatabase : a.options.database = b.options.database := h .database List.mem_cons_self
      simp only [statementText, hdatabase]

/-- The same holds for the Rust code. -/
theorem Rust.ofStatement_eq_of_agree {statement : CobolSubset.Statement}
    (h : Target.rust.AgreeOn a b statement.toNode.kind) :
    Statement.ofStatement a.options statement = Statement.ofStatement b.options statement := by
  cases statement with
  | display raw =>
      have hquotes : a.options.stripQuotes = b.options.stripQuotes := h .quotes List.mem_cons_self
      simp only [Statement.ofStatement, Options.literal, hquotes]
  | move value name => rfl
  | stopRun => rfl
  | call subroutine parameters => rfl
  | execSql query =>
      have hdatabase : a.options.database = b.options.database := h .database List.mem_cons_self
      simp only [Statement.ofStatement, hdatabase]

/-! ### Programs -/

variable {root : Node}

/-- A program depends on what its own kind and those of its children are listed with. -/
theorem Java.generate_eq_of_agree (hroot : Target.java.AgreeOn a b .program)
    (hchildren : ∀ child ∈ root.children, Target.java.AgreeOn a b child.kind) :
    Java.generate a.options a.symbols root = Java.generate b.options b.symbols root := by
  have hclass : a.options.className = b.options.className := hroot .className List.mem_cons_self
  unfold Java.generate
  cases hnodes : root.statements with
  | error e => rfl
  | ok nodes =>
      obtain rfl := Node.eq_children_of_statements hnodes
      cases hstatements : root.children.mapM Statement.ofNode with
      | error e => simp only [bind, Except.bind, hstatements]
      | ok statements =>
          have hread := mapM_eq_ok_iff.1 hstatements
          -- Every statement comes from a child of its own kind.
          have htexts : ∀ statement ∈ statements,
              statementText a.options a.symbols statement =
                statementText b.options b.symbols statement := by
            intro statement hstatement
            have hmem : Except.ok statement ∈ root.children.map Statement.ofNode :=
              hread ▸ List.mem_map_of_mem hstatement
            obtain ⟨child, hchild, hofNode⟩ := List.mem_map.1 hmem
            apply Java.statementText_eq_of_agree
            rw [Statement.kind_of_ofNode hofNode]
            exact hchildren child hchild
          have hbody : statements.flatMap (statementText a.options a.symbols) =
              statements.flatMap (statementText b.options b.symbols) :=
            List.flatMap_congr htexts
          simp only [bind, Except.bind, hstatements, classText, hclass, hbody]

theorem Rust.ofNode_eq_of_agree (hroot : Target.rust.AgreeOn a b .program)
    (hchildren : ∀ child ∈ root.children, Target.rust.AgreeOn a b child.kind) :
    Program.ofNode a.options root = Program.ofNode b.options root := by
  have hheader : a.options.includeHeader = b.options.includeHeader :=
    hroot .header List.mem_cons_self
  unfold Program.ofNode
  cases hnodes : root.statements with
  | error e => rfl
  | ok nodes =>
      obtain rfl := Node.eq_children_of_statements hnodes
      have hsame : root.children.mapM (Statement.ofNode a.options) =
          root.children.mapM (Statement.ofNode b.options) := by
        apply mapM_congr
        intro child hchild
        unfold Statement.ofNode
        cases hofNode : CobolSubset.Statement.ofNode child with
        | error e => rfl
        | ok statement =>
            apply Rust.ofStatement_eq_of_agree
            rw [CobolSubset.Statement.kind_of_ofNode hofNode]
            exact hchildren child hchild
      simp only [bind, Except.bind, hsame, hheader]

/-- **Nothing beyond the table has an influence**: runs with the same target that agree about the
settings read for the program and for each of its children have the same result, be it code or an
error. -/
theorem Node.generate_eq_of_agree (htarget : a.options.target = b.options.target)
    (hroot : a.options.target.AgreeOn a b .program)
    (hchildren : ∀ child ∈ root.children, a.options.target.AgreeOn a b child.kind) :
    root.generate a.options a.symbols = root.generate b.options b.symbols := by
  unfold Node.generate
  rw [← htarget]
  cases htargets : a.options.target with
  | java =>
      rw [htargets] at hroot hchildren
      exact Java.generate_eq_of_agree hroot hchildren
  | rust =>
      rw [htargets] at hroot hchildren
      show Rust.generate a.options root = Rust.generate b.options root
      rw [Rust.generate_eq_map, Rust.generate_eq_map, Rust.ofNode_eq_of_agree hroot hchildren]

end TwoRuns

/-! ### Single settings -/

namespace Target

variable {target : Target} {kind : Kind}

theorem eq_execSql_of_database_mem (h : .database ∈ target.reads kind) : kind = .execSql := by
  cases target <;> cases kind <;> simp_all [reads]

theorem eq_display_or_call_of_quotes_mem (h : .quotes ∈ target.reads kind) :
    kind = .displayStatement ∨ kind = .callStatement := by
  cases target <;> cases kind <;> simp_all [reads]

theorem header_not_mem_java : .header ∉ java.reads kind := by
  cases kind <;> simp [reads]

theorem className_not_mem_rust : .className ∉ rust.reads kind := by
  cases kind <;> simp [reads]

theorem declarations_not_mem_rust : .declarations ∉ rust.reads kind := by
  cases kind <;> simp [reads]

end Target

namespace Node

variable {root : Node}

/-- What is not counted is not there. -/
theorem kind_ne_of_count_eq_zero {kind : Kind} (h : root.count kind = 0) {child : Node}
    (hchild : child ∈ root.children) : child.kind ≠ kind := by
  have hnone := List.countP_eq_zero.1 h child hchild
  simpa using hnone

/-- A setting that is read for none of the nodes may be chosen freely: it is enough that the runs
agree about the others. -/
theorem generate_eq_of_unread {a b : Settings} (aspect : Aspect)
    (htarget : a.options.target = b.options.target)
    (hothers : ∀ other, other ≠ aspect → other.Agree a b)
    (hroot : aspect ∉ a.options.target.reads .program)
    (hchildren : ∀ child ∈ root.children, aspect ∉ a.options.target.reads child.kind) :
    root.generate a.options a.symbols = root.generate b.options b.symbols := by
  apply generate_eq_of_agree htarget
  · intro other hother
    exact hothers other (ne_of_mem_of_not_mem hother hroot)
  · intro child hchild other hother
    exact hothers other (ne_of_mem_of_not_mem hother (hchildren child hchild))

variable (options : Options) (symbols : SymbolTable)

theorem generate_database (h : root.count .execSql = 0) (database : Database) :
    root.generate { options with database } symbols = root.generate options symbols := by
  apply generate_eq_of_unread (a := ⟨{ options with database }, symbols⟩) (b := ⟨options, symbols⟩)
    .database rfl
  · intro other hother
    cases other with
    | database => exact absurd rfl hother
    | _ => rfl
  · intro hread
    cases Target.eq_execSql_of_database_mem hread
  · intro child hchild hread
    exact kind_ne_of_count_eq_zero h hchild (Target.eq_execSql_of_database_mem hread)

theorem generate_stripQuotes (hdisplay : root.count .displayStatement = 0)
    (hcall : root.count .callStatement = 0) (stripQuotes : Bool) :
    root.generate { options with stripQuotes } symbols = root.generate options symbols := by
  apply generate_eq_of_unread (a := ⟨{ options with stripQuotes }, symbols⟩)
    (b := ⟨options, symbols⟩) .quotes rfl
  · intro other hother
    cases other with
    | quotes => exact absurd rfl hother
    | _ => rfl
  · intro hread
    rcases Target.eq_display_or_call_of_quotes_mem hread with hkind | hkind <;> cases hkind
  · intro child hchild hread
    rcases Target.eq_display_or_call_of_quotes_mem hread with hkind | hkind
    · exact kind_ne_of_count_eq_zero hdisplay hchild hkind
    · exact kind_ne_of_count_eq_zero hcall hchild hkind

theorem generate_includeHeader (h : options.target = .java) (includeHeader : Bool) :
    root.generate { options with includeHeader } symbols = root.generate options symbols := by
  have hunread : ∀ kind, .header ∉ options.target.reads kind := by
    intro kind
    rw [h]
    exact Target.header_not_mem_java
  apply generate_eq_of_unread (a := ⟨{ options with includeHeader }, symbols⟩)
    (b := ⟨options, symbols⟩) .header rfl
  · intro other hother
    cases other with
    | header => exact absurd rfl hother
    | _ => rfl
  · exact hunread .program
  · exact fun child _ => hunread child.kind

/-- Rust code needs no class and shows no types, so both settings can change at once. -/
theorem generate_className_symbols (h : options.target = .rust) (className : Text)
    (symbols' : SymbolTable) :
    root.generate { options with className } symbols' = root.generate options symbols := by
  have hunread : ∀ kind, ∀ aspect ∈ options.target.reads kind,
      aspect ≠ .className ∧ aspect ≠ .declarations := by
    intro kind aspect hread
    rw [h] at hread
    exact ⟨ne_of_mem_of_not_mem hread Target.className_not_mem_rust,
      ne_of_mem_of_not_mem hread Target.declarations_not_mem_rust⟩
  have hagree : ∀ kind, options.target.AgreeOn ⟨{ options with className }, symbols'⟩
      ⟨options, symbols⟩ kind := by
    intro kind aspect hread
    obtain ⟨hclass, hdeclarations⟩ := hunread kind aspect hread
    cases aspect with
    | className => exact absurd rfl hclass
    | declarations => exact absurd rfl hdeclarations
    | _ => rfl
  exact generate_eq_of_agree (a := ⟨{ options with className }, symbols'⟩)
    (b := ⟨options, symbols⟩) rfl (hagree .program) fun child _ => hagree child.kind

/-- **Settings reach only the code they are for**: on any tree, well-formed or not, two runs that
differ in one setting have the same result, code or error, unless that setting is for them. The
database is for queries alone, the header for Rust, the name of the class and the declared types for
Java, and the treatment of quotation marks for `DISPLAY` and `CALL`. -/
theorem settings_noninterference (root : Node) (options : Options) (symbols : SymbolTable) :
    (root.count .execSql = 0 → ∀ database,
      root.generate { options with database } symbols = root.generate options symbols) ∧
    (options.target = .java → ∀ includeHeader,
      root.generate { options with includeHeader } symbols = root.generate options symbols) ∧
    (options.target = .rust → ∀ className symbols',
      root.generate { options with className } symbols' = root.generate options symbols) ∧
    (root.count .displayStatement = 0 → root.count .callStatement = 0 → ∀ stripQuotes,
      root.generate { options with stripQuotes } symbols = root.generate options symbols) :=
  ⟨generate_database options symbols, generate_includeHeader options symbols,
    generate_className_symbols options symbols, generate_stripQuotes options symbols⟩

/-- A tree without a query, refused because an argument stands in it twice: neither a password nor
the name of a class shows in the error. -/
theorem settings_noninterference_refused :
    ∃ root : Node, root.count .execSql = 0 ∧
      root.generate { target := .rust, database := { password := "secret".toList } } {} =
        root.generate { target := .rust } {} ∧
      root.generate { target := .rust, className := "Secret".toList } (.ofList [(['A'], ['9'])]) =
        root.generate { target := .rust } {} ∧
      root.generate { target := .rust } {} = .error (Rust.repeatedArgument ['a']) := by
  refine ⟨.ofStatements [.call "\"S\"".toList [['A'], ['B'], ['A']]], rfl, ?_, ?_, ?_⟩
  · exact (settings_noninterference _ { target := .rust } {}).1 rfl _
  · exact (settings_noninterference _ { target := .rust } {}).2.2.1 rfl _ _
  · decide

end Node

end CobolSubset

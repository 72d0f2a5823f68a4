import CobolSubset.Command.Job
import CobolSubset.Proofs.FileNames
import CobolSubset.Proofs.ShapeContract

/-!
# Names of classes and their files

Java wants a public class to stand in a file of the same name. Where no name is given, class and
file are both named after the source, in two places that know nothing of each other: the one plans
the output, the other writes the line that opens the class. `Java.className_names_class_and_file`
says that they agree, and what the name is.

* **What is kept of a stem** (`toLower_joined`) are its letters and digits in order, but for their
  case. That all characters of the name are letters and digits follows from this.
* **Case does not matter** (`joined_toLower`), since every part is written with one capital letter
  whatever it was before.
* **The first character is never a small letter** (`isLower_head?_joined`), and a digit gets a low
  line before it. No reserved word looks like that.
-/

namespace CobolSubset

/-! ### Pieces and lines of texts -/

namespace Text

/-- The pieces have all characters but those between them. -/
theorem flatten_splitBy (p : Char → Bool) (text : Text) :
    (splitBy p text).flatten = text.filter (!p ·) := by
  induction text with
  | nil => rfl
  | cons c text ih =>
      obtain ⟨first, more, hsplit⟩ := List.exists_cons_of_ne_nil (splitBy_ne_nil p text)
      rw [hsplit] at ih
      cases hc : p c with
      | true => simpa [splitBy, hc, hsplit] using ih
      | false => simpa [splitBy, hc, hsplit] using ih

/-- A change of characters that leaves the places to cut leaves the pieces. -/
theorem splitBy_map {p : Char → Bool} {f : Char → Char} (h : ∀ c, p (f c) = p c) (text : Text) :
    splitBy p (text.map f) = (splitBy p text).map (List.map f) := by
  induction text with
  | nil => rfl
  | cons c text ih =>
      obtain ⟨first, more, hsplit⟩ := List.exists_cons_of_ne_nil (splitBy_ne_nil p text)
      rw [hsplit] at ih
      cases hc : p c with
      | true => simp [splitBy, h, hc, hsplit, ih]
      | false => simp [splitBy, h, hc, hsplit, ih]

/-- What a line feed ends is the first line. -/
theorem lines_append_newline {line : Text} (h : '\n' ∉ line) (rest : Text) :
    lines (line ++ '\n' :: rest) = dropReturn line :: lines rest := by
  have hline : splitBy (· == '\n') line = [line] := by
    apply splitBy_of_not
    intro c hc
    simpa using ne_of_mem_of_not_mem hc h
  obtain ⟨first, more, hsplit⟩ := List.exists_cons_of_ne_nil (splitBy_ne_nil (· == '\n') rest)
  unfold lines
  rw [splitBy_append_cons _ line rest rfl, hline, hsplit]
  rfl

end Text

namespace Java

/-! ### Identifiers -/

/-- The words that name no class: the keywords, the literals that are words, and the words that are
reserved where a type is named. -/
def reservedWords : List Text :=
  ["abstract", "assert", "boolean", "break", "byte", "case", "catch", "char", "class", "const",
    "continue", "default", "do", "double", "else", "enum", "extends", "final", "finally", "float",
    "for", "goto", "if", "implements", "import", "instanceof", "int", "interface", "long", "native",
    "new", "package", "private", "protected", "public", "return", "short", "static", "strictfp",
    "super", "switch", "synchronized", "this", "throw", "throws", "transient", "try", "void",
    "volatile", "while", "_", "true", "false", "null", "permits", "record", "sealed", "var",
    "yield"].map String.toList

def isIdentifierStart (c : Char) : Bool := c.isAlpha || c == '_' || c == '$'

def isIdentifierPart (c : Char) : Bool := isIdentifierStart c || c.isDigit

/-- A legal identifier of ASCII characters that is no reserved word. -/
structure IsIdentifier (name : Text) : Prop where
  start : name.head?.any isIdentifierStart = true
  parts : name.all isIdentifierPart = true
  free : name ∉ reservedWords

/-- The two forms of a class name: a capital letter, or a low line and a digit, and behind that
letters and digits. -/
inductive IsClassName : Text → Prop
  | capital {c : Char} {rest : Text} :
      c.isUpper = true → rest.all Char.isAlphanum = true → IsClassName (c :: rest)
  | digit {c : Char} {rest : Text} :
      c.isDigit = true → rest.all Char.isAlphanum = true → IsClassName ('_' :: c :: rest)

/-- A reserved word of more than one character starts with a small letter. -/
theorem isLower_of_mem_reservedWords :
    ∀ word ∈ reservedWords, word = ['_'] ∨ word.head?.any Char.isLower = true := by
  simp only [reservedWords, List.map]
  repeat rw [String.toList_ofList]
  decide

theorem isIdentifierPart_of_isAlphanum {c : Char} (h : c.isAlphanum = true) :
    isIdentifierPart c = true := by
  simp only [Char.isAlphanum, Bool.or_eq_true] at h
  rcases h with h | h <;> simp [isIdentifierPart, isIdentifierStart, h]

theorem all_isIdentifierPart {text : Text} (h : text.all Char.isAlphanum = true) :
    text.all isIdentifierPart = true := by
  rw [List.all_eq_true] at h ⊢
  intro c hc
  exact isIdentifierPart_of_isAlphanum (h c hc)

/-- Class names of the two forms are identifiers: reserved words start with a small letter. -/
theorem IsClassName.isIdentifier {name : Text} (h : IsClassName name) : IsIdentifier name := by
  cases h with
  | @capital c rest hupper hrest =>
      have halpha : c.isAlpha = true := by simp [Char.isAlpha, hupper]
      refine ⟨?_, ?_, ?_⟩
      · simp [isIdentifierStart, halpha]
      · simp [isIdentifierPart, isIdentifierStart, halpha, all_isIdentifierPart hrest]
      · intro hmem
        rcases isLower_of_mem_reservedWords _ hmem with hmark | hlower
        · cases hmark
          cases hupper
        · exact Char.not_isLower_of_isUpper hupper hlower
  | @digit c rest hdigit hrest =>
      refine ⟨rfl, ?_, ?_⟩
      · simp [isIdentifierPart, isIdentifierStart, hdigit, all_isIdentifierPart hrest]
      · intro hmem
        rcases isLower_of_mem_reservedWords _ hmem with hmark | hlower
        · cases hmark
        · cases hlower

theorem IsIdentifier.not_mem {name : Text} (h : IsIdentifier name) {c : Char}
    (hc : isIdentifierPart c = false) : c ∉ name := by
  intro hmem
  rw [List.all_eq_true.1 h.parts c hmem] at hc
  cases hc

/-! ### The parts of a stem -/

theorem isAlphanum_toLower (c : Char) : c.toLower.isAlphanum = c.isAlphanum := by
  cases hupper : c.isUpper with
  | true => simp [Char.isAlphanum, Char.isAlpha, hupper]
  | false => rw [Char.toLower_eq_of_not_isUpper (by simp [hupper])]

/-- Capitalizing changes nothing but the case of letters. -/
theorem toLower_capitalize (part : Text) : Text.toLower (capitalize part) = Text.toLower part := by
  cases part with
  | nil => rfl
  | cons c rest => simp [capitalize, Text.toLower]

theorem capitalize_toLower (part : Text) : capitalize (Text.toLower part) = capitalize part := by
  cases part with
  | nil => rfl
  | cons c rest => simp [capitalize, Text.toLower]

def joined (stem : Text) : Text := (stem.splitBy fun c => !c.isAlphanum).flatMap capitalize

/-- A class name is made of the parts of the stem, with a mark before a digit and with another name
if there are none. -/
theorem className_cases (stem : Text) :
    joined stem = [] ∧ className stem = "Program".toList ∨
      ∃ c rest, joined stem = c :: rest ∧
        className stem = if c.isDigit then '_' :: c :: rest else c :: rest := by
  cases hjoined : joined stem with
  | nil =>
      refine .inl ⟨rfl, ?_⟩
      unfold className
      rw [show List.flatMap _ _ = _ from hjoined]
  | cons c rest =>
      refine .inr ⟨c, rest, rfl, ?_⟩
      unfold className
      rw [show List.flatMap _ _ = _ from hjoined]

/-- But for the case, only what divides the parts is lost. -/
theorem toLower_joined (stem : Text) :
    Text.toLower (joined stem) = Text.toLower (stem.filter Char.isAlphanum) := by
  have hkept : stem.filter Char.isAlphanum =
      (stem.splitBy fun c => !c.isAlphanum).flatten := by
    rw [Text.flatten_splitBy]
    simp
  rw [hkept]
  unfold joined Text.toLower
  rw [List.map_flatMap, List.map_flatten, List.flatMap_def]
  congr 1
  exact List.map_congr_left fun part _ => toLower_capitalize part

/-- The case of the letters in a stem does not matter. -/
theorem joined_toLower (stem : Text) : joined (Text.toLower stem) = joined stem := by
  unfold joined
  have hplaces : ∀ c : Char, (!c.toLower.isAlphanum) = !c.isAlphanum := by
    intro c
    rw [isAlphanum_toLower]
  have hsplit := @Text.splitBy_map (fun c => !c.isAlphanum) Char.toLower hplaces stem
  unfold Text.toLower
  rw [hsplit, List.flatMap_map]
  congr 1
  exact funext capitalize_toLower

theorem isAlphanum_of_mem_joined {stem : Text} {c : Char} (h : c ∈ joined stem) :
    c.isAlphanum = true := by
  have hmem : c.toLower ∈ Text.toLower (joined stem) := List.mem_map_of_mem h
  rw [toLower_joined] at hmem
  obtain ⟨d, hd, heq⟩ := List.mem_map.1 hmem
  rw [← isAlphanum_toLower, ← heq, isAlphanum_toLower]
  exact (List.mem_filter.1 hd).2

/-- The first character is that of a part, made a capital letter if it is a letter. -/
theorem isLower_head?_joined (stem : Text) : ∀ c ∈ (joined stem).head?, c.isLower = false := by
  unfold joined
  induction stem.splitBy fun c => !c.isAlphanum with
  | nil => intro c hc; cases hc
  | cons part parts ih =>
      cases part with
      | nil => exact ih
      | cons d rest =>
          intro c hc
          cases hc
          exact Char.isLower_toUpper_eq_false d

/-! ### Class names -/

/-- Whatever the stem is, its class name has one of the two forms. -/
theorem isClassName_className (stem : Text) : IsClassName (className stem) := by
  rcases className_cases stem with ⟨-, hname⟩ | ⟨c, rest, hjoined, hname⟩
  · rw [hname]
    exact .capital rfl (by decide)
  · have halphanum : ∀ d ∈ c :: rest, d.isAlphanum = true := by
      intro d hd
      rw [← hjoined] at hd
      exact isAlphanum_of_mem_joined hd
    obtain ⟨hfirst, hrest⟩ := List.forall_mem_cons.1 halphanum
    rw [hname]
    cases hdigit : c.isDigit with
    | true => exact .digit hdigit (List.all_eq_true.2 hrest)
    | false =>
        -- A letter that is not small.
        have hlower : c.isLower = false := isLower_head?_joined stem c (by rw [hjoined]; rfl)
        have hupper : c.isUpper = true := by
          simpa [Char.isAlphanum, Char.isAlpha, hdigit, hlower] using hfirst
        exact .capital hupper (List.all_eq_true.2 hrest)

/-- The name without the low line before a digit. -/
def withoutMark : Text → Text
  | '_' :: rest => rest
  | name => name

/-- Without the mark the parts are left. -/
theorem withoutMark_className {stem : Text} (h : joined stem ≠ []) :
    withoutMark (className stem) = joined stem := by
  rcases className_cases stem with ⟨hnil, -⟩ | ⟨c, rest, hjoined, hname⟩
  · exact absurd hnil h
  · rw [hname, hjoined]
    split
    · rfl
    · have hc : c.isAlphanum = true := isAlphanum_of_mem_joined (hjoined ▸ List.mem_cons_self)
      have hmark : c ≠ '_' := by
        rintro rfl
        cases hc
      simp [withoutMark, hmark]

theorem toLower_withoutMark_className (stem : Text) :
    Text.toLower (withoutMark (className stem)) =
      if stem.filter Char.isAlphanum = [] then "program".toList
      else Text.toLower (stem.filter Char.isAlphanum) := by
  have hlower := toLower_joined stem
  split
  · next hnone =>
      rw [hnone] at hlower
      have hnil : joined stem = [] := List.map_eq_nil_iff.1 hlower
      rcases className_cases stem with ⟨-, hname⟩ | ⟨c, rest, hjoined, -⟩
      · rw [hname]
        rfl
      · rw [hnil] at hjoined
        cases hjoined
  · next hsome =>
      rw [withoutMark_className, hlower]
      intro hnil
      rw [hnil] at hlower
      exact hsome (List.map_eq_nil_iff.1 hlower.symm)

theorem className_toLower (stem : Text) : className (Text.toLower stem) = className stem := by
  unfold className
  rw [show List.flatMap _ _ = List.flatMap _ _ from joined_toLower stem]

/-- Class names do not tell capital from small letters. -/
theorem className_eq_of_toLower_eq {stem other : Text}
    (h : Text.toLower other = Text.toLower stem) : className other = className stem := by
  rw [← className_toLower other, h, className_toLower]

/-! ### The line that opens the class -/

def classLine (name : Text) : Text := "public class ".toList ++ name ++ " \x7b".toList

theorem newline_not_mem_classLine {name : Text} (h : '\n' ∉ name) : '\n' ∉ classLine name := by
  unfold classLine
  rw [List.mem_append, List.mem_append]
  rintro ((hfront | hname) | hback)
  · exact absurd hfront (by decide)
  · exact h hname
  · exact absurd hback (by decide)

theorem dropReturn_classLine (name : Text) : (classLine name).dropReturn = classLine name := by
  have hlast : (classLine name).getLast? = some '\x7b' := by
    unfold classLine
    rw [List.getLast?_append_of_ne_nil _ (by decide)]
    rfl
  unfold Text.dropReturn
  rw [hlast, if_neg (by decide)]

/-- Three lines and the start of a fourth one. -/
theorem append_three_lines (first second front name back more rest : Text) :
    first ++ '\n' :: (second ++ '\n' :: front) ++ name ++ (back ++ '\n' :: more) ++ rest =
      first ++ '\n' :: (second ++ '\n' :: (front ++ name ++ back ++ '\n' :: (more ++ rest))) := by
  simp

/-- Two lines stand before the one that opens the class. -/
theorem preamble_append (name rest : Text) :
    ∃ more, preamble name ++ rest =
      "import java.util.*;".toList ++ '\n' :: ("import java.sql.*;".toList ++ '\n' ::
        (classLine name ++ '\n' :: more)) := by
  have hfront : "import java.util.*;\nimport java.sql.*;\npublic class ".toList =
      "import java.util.*;".toList ++ '\n' :: ("import java.sql.*;".toList ++ '\n' ::
        "public class ".toList) := by
    repeat rw [String.toList_ofList]
    rfl
  have hback :
      " \x7b\n    public static void main(String[] args) throws SQLException \x7b\n".toList =
        " \x7b".toList ++ '\n' ::
          "    public static void main(String[] args) throws SQLException \x7b\n".toList := by
    repeat rw [String.toList_ofList]
    rfl
  have hpreamble := congrArg₂ (fun front back => front ++ name ++ back ++ rest) hfront hback
  exact ⟨_, hpreamble.trans (append_three_lines _ _ _ name _ _ rest)⟩

/-- The third line opens the class, whatever follows. -/
theorem third_line_preamble {name : Text} (h : '\n' ∉ name) (rest : Text) :
    (preamble name ++ rest).lines[2]? = some (classLine name) := by
  obtain ⟨more, hlines⟩ := preamble_append name rest
  rw [hlines, Text.lines_append_newline (by decide), Text.lines_append_newline (by decide),
    Text.lines_append_newline (newline_not_mem_classLine h), dropReturn_classLine]
  rfl

/-- There is code for every source that has a tree, and its third line opens the class. -/
theorem third_line_convert {rules : RuleSet} {source : Text} {root : Node} {options : Options}
    (hjava : options.target = .java) (hname : '\n' ∉ options.className) (symbols : SymbolTable)
    (h : rules.parse source = .ok root) :
    ∃ code, rules.convert options symbols source = .ok code ∧
      code.lines[2]? = some (classLine options.className) := by
  obtain ⟨tokens, -, hroot⟩ := RuleSet.parse_eq_ok_iff.1 h
  obtain ⟨statements, rfl⟩ := Node.shaped_program_iff.1 (Node.shaped_ofTokens hroot)
  refine ⟨classText options symbols statements, ?_, ?_⟩
  · rw [RuleSet.convert_of_parse h, Node.generate, hjava]
    exact mapError_eq_ok_iff.2 (generate_ofStatements options symbols statements)
  · rw [classText, List.append_assoc]
    exact third_line_preamble hname _

/-! ### Class and file -/

theorem slash_not_mem_className (stem : Text) : '/' ∉ className stem :=
  (isClassName_className stem).isIdentifier.not_mem rfl

theorem newline_not_mem_className (stem : Text) : '\n' ∉ className stem :=
  (isClassName_className stem).isIdentifier.not_mem rfl

/-- A class name with an extension is the name of a file. -/
theorem isFileName_className (stem : Text) : Path.IsFileName (className stem ++ ".java".toList) := by
  apply Path.isFileName_of_length
  · simp
  · simp [slash_not_mem_className]

/-- **Class and file have one name**: the name that follows from a stem is a legal identifier of one
of two forms. It has the letters and digits of the stem in order, or says `Program` if there are
none, and it does not depend on the case of the letters. Where neither an output nor a name is
given, the planned output is the file of this name in the directory for outputs, and the third line
of the code opens the class of the same name. -/
theorem className_names_class_and_file :
    (∀ stem : Text,
      IsClassName (className stem) ∧ IsIdentifier (className stem) ∧
      Text.toLower (withoutMark (className stem)) =
        (if stem.filter Char.isAlphanum = [] then "program".toList
          else Text.toLower (stem.filter Char.isAlphanum)) ∧
      ∀ other, Text.toLower other = Text.toLower stem → className other = className stem) ∧
    ∀ (choices : CodeChoices) (input directory : Path),
      choices.target = .java → choices.className = none →
      let name := className (input.stem?.getD [])
      let job := Job.plan choices input none directory
      job.output = Path.join directory (name ++ ".java".toList) ∧
      job.output.components = directory.components ++ [.name (name ++ ".java".toList)] ∧
      ∀ (rules : RuleSet) (symbols : SymbolTable) (source : Text) (root : Node),
        rules.parse source = .ok root →
        ∃ code, rules.convert job.options symbols source = .ok code ∧
          code.lines[2]? = some ("public class ".toList ++ name ++ " \x7b".toList) := by
  constructor
  · intro stem
    have hname := isClassName_className stem
    exact ⟨hname, hname.isIdentifier, toLower_withoutMark_className stem,
      fun other hother => className_eq_of_toLower_eq hother⟩
  · intro choices input directory htarget hgiven name job
    have hclass : Job.className choices input = name := by
      unfold Job.className
      rw [hgiven]
      rfl
    have houtput : job.output = Path.join directory (name ++ ".java".toList) := by
      show Job.defaultOutput choices.target (Job.className choices input) input directory = _
      rw [htarget, hclass]
      rfl
    refine ⟨houtput, ?_, ?_⟩
    · rw [houtput]
      exact (isFileName_className _).components_join directory
    · intro rules symbols source root hparse
      have hoptions : job.options.className = name := hclass
      have hline := third_line_convert htarget
        (hoptions ▸ newline_not_mem_className _ : '\n' ∉ job.options.className) symbols hparse
      rwa [hoptions] at hline

/-- A stem with a digit in front, a second point in it and letters of both cases. -/
theorem className_names_class_and_file_digit :
    let job := Job.plan {} "jobs/2024-PAY.roll.cob".toList none "out/".toList
    job.output = "out/_2024PayRoll.java".toList ∧
      job.output.components = [.name "out".toList, .name "_2024PayRoll.java".toList] ∧
      className "2024-Pay.Roll".toList = "_2024PayRoll".toList ∧
      ∃ code, RuleSet.standard.convert job.options {} "STOP RUN.".toList = .ok code ∧
        code.lines[2]? = some "public class _2024PayRoll \x7b".toList := by
  intro job
  have hparse : RuleSet.standard.parse "STOP RUN.".toList = .ok (.program [.stopRun]) := by
    rw [RuleSet.standard_eq_spelled, String.toList_ofList]
    decide +kernel
  obtain ⟨hstem, hplan⟩ := className_names_class_and_file
  obtain ⟨-, -, -, hcase⟩ := hstem "2024-PAY.roll".toList
  obtain ⟨houtput, hcomponents, hcode⟩ :=
    hplan {} "jobs/2024-PAY.roll.cob".toList "out/".toList rfl rfl
  exact ⟨houtput, hcomponents, hcase "2024-Pay.Roll".toList (by decide), hcode _ {} _ _ hparse⟩

end Java

end CobolSubset

import CobolSubset.Command.Line
import CobolSubset.Proofs.JobEffect
import CobolSubset.Proofs.ShapeContract

/-!
# All or nothing

To convert a file the program goes through four stages before it changes anything: reading, cutting
the source into tokens, finding its tree, and generating code. If one of them fails (`StageFails`),
the program fails and all files are as they were. If it ends well, the planned output holds the
code, and apart from that there is nothing new but directories above the output (`Stored`). Both are
said of whole command lines, in `runArguments_transpile`.

There is one more way to fail: there is code, but no room for it. Then directories may have been
made for it, but nothing has been written.
-/

namespace CobolSubset

open FileTree

/-! ### The stages -/

/-- One of the stages fails on the way from a file to the code for it. -/
inductive StageFails (tree : FileTree) (input : Path) (options : Options) (symbols : SymbolTable) :
    Prop
  | read {e : FileError} (hread : tree.read input = .error e)
  | lex {source : Text} {e : LexError} (hread : tree.read input = .ok source)
      (htokens : RuleSet.standard.tokenize source = .error e)
  | parse {source : Text} {tokens : List Token} {e : ParseError}
      (hread : tree.read input = .ok source)
      (htokens : RuleSet.standard.tokenize source = .ok tokens)
      (hroot : Node.ofTokens tokens = .error e)
  | generate {source : Text} {tokens : List Token} {root : Node} {e : GenerateError}
      (hread : tree.read input = .ok source)
      (htokens : RuleSet.standard.tokenize source = .ok tokens)
      (hroot : Node.ofTokens tokens = .ok root) (hcode : root.generate options symbols = .error e)

/-- A job translates if all stages succeed, one after the other. -/
theorem Job.translates_iff {tree : FileTree} {job : Job} {symbols : SymbolTable} {code : Text} :
    job.Translates tree symbols code ↔
      ∃ source tokens root, tree.read job.input = .ok source ∧
        RuleSet.standard.tokenize source = .ok tokens ∧ Node.ofTokens tokens = .ok root ∧
        root.generate job.options symbols = .ok code := by
  constructor
  · rintro ⟨source, hread, hconvert⟩
    obtain ⟨root, hparse, hcode⟩ := bind_eq_ok_iff.1 hconvert
    obtain ⟨tokens, htokens, hroot⟩ := RuleSet.parse_eq_ok_iff.1 hparse
    exact ⟨source, tokens, root, hread, htokens, hroot, mapError_eq_ok_iff.1 hcode⟩
  · rintro ⟨source, tokens, root, hread, htokens, hroot, hcode⟩
    have hparse := RuleSet.parse_eq_ok_iff.2 ⟨tokens, htokens, hroot⟩
    exact ⟨source, hread, bind_eq_ok_iff.2 ⟨root, hparse, mapError_eq_ok_iff.2 hcode⟩⟩

/-- Where a stage fails there is no code. -/
theorem StageFails.not_translates {tree : FileTree} {job : Job} {symbols : SymbolTable}
    (h : StageFails tree job.input job.options symbols) (code : Text) :
    ¬ job.Translates tree symbols code := by
  intro htranslates
  obtain ⟨source, tokens, root, hread, htokens, hroot, hcode⟩ := Job.translates_iff.1 htranslates
  cases h with
  | read hread' => simp [hread] at hread'
  | lex hread' htokens' =>
      cases hread.symm.trans hread'
      simp [htokens] at htokens'
  | parse hread' htokens' hroot' =>
      cases hread.symm.trans hread'
      cases htokens.symm.trans htokens'
      simp [hroot] at hroot'
  | generate hread' htokens' hroot' hcode' =>
      cases hread.symm.trans hread'
      cases htokens.symm.trans htokens'
      cases hroot.symm.trans hroot'
      simp [hcode] at hcode'

/-- If no stage fails there is code. -/
theorem Job.exists_translates_of_stages {tree : FileTree} (job : Job) {symbols : SymbolTable}
    (h : ¬ StageFails tree job.input job.options symbols) :
    ∃ code, job.Translates tree symbols code := by
  cases hread : tree.read job.input with
  | error e => exact absurd (.read hread) h
  | ok source =>
      cases htokens : RuleSet.standard.tokenize source with
      | error e => exact absurd (.lex hread htokens) h
      | ok tokens =>
          cases hroot : Node.ofTokens tokens with
          | error e => exact absurd (.parse hread htokens hroot) h
          | ok root =>
              cases hcode : root.generate job.options symbols with
              | error e => exact absurd (.generate hread htokens hroot hcode) h
              | ok code =>
                  refine ⟨code, Job.translates_iff.2 ?_⟩
                  exact ⟨source, tokens, root, hread, htokens, hroot, hcode⟩

/-! ### Room for the output -/

/-- A location is as it was, or a directory above the output was made there, where nothing had been.
-/
def KeptOrRoom (output : Path) (before after : FileTree) (location : Location) : Prop :=
  after.get? location = before.get? location ∨
    (before.get? location = none ∧ after.get? location = some .directory ∧
      ∃ directory, Path.Above directory output ∧ Names after directory location)

theorem keptOrRoom_of_became {output : Path} {before after : FileTree} {location : Location}
    (h : Edits.Became (Path.Above · output) (fun _ _ => False) before after location) :
    KeptOrRoom output before after location := by
  rcases h with hsame | hmade | ⟨-, -, hwritten, -⟩
  · exact .inl hsame
  · exact .inr hmade
  · exact hwritten.elim

/-- The code stands in the output, and nothing else is new but room for it. -/
structure Stored (output : Path) (code : Text) (before after : FileTree) : Prop where
  home : after.home = before.home
  read : after.read output = .ok code
  frame : ∃ place, Names after output place ∧ after.get? place = some (.text code) ∧
    ∀ location, location ≠ place → KeptOrRoom output before after location

/-- If room is made first, then writing the code is all that is left to be done. -/
theorem stored_put {output : Path} {code : Text} {before room : FileTree} {place : Location}
    (h : Edits (Path.Above · output) (fun _ _ => False) before room)
    (hnames : Names room output place) (hfree : room.get? place ≠ some .directory) :
    Stored output code before (room.put place (.text code)) := by
  have hgrows : Grows room (room.put place (.text code)) := (Grows.refl room).put hnames hfree
  have htext : (room.put place (.text code)).get? place = some (.text code) := by
    rw [get?_put _ hnames.ne_nil, if_pos rfl]
  refine ⟨hgrows.home.trans h.grows.home, ?_, place, hgrows.names hnames, htext, ?_⟩
  · exact (read_of_locate (hgrows.names hnames).locate).2 htext
  · intro location hplace
    -- Writing the output changes no other location.
    exact keptOrRoom_of_became ((h.get?_cases location).put hnames hfree hplace)

/-- Either the job fails and there is nothing new but room, or its code is stored. -/
theorem Job.run_kept_or_stored (symbols : SymbolTable) (job : Job) (before : FileTree) :
    (∃ e after, Job.run disk symbols job before = (.error e, after) ∧
        ∀ location, KeptOrRoom job.output before after location) ∨
      ∃ code lines after, job.Translates before symbols code ∧
        Job.run disk symbols job before = (.ok lines, after) ∧
        Stored job.output code before after := by
  rcases Job.run_cases symbols job before with
    ⟨-, e, hrun⟩ | ⟨code, room, htranslates, hroom, ⟨e, hrun⟩ | ⟨place, hnames, hfree, hrun⟩⟩
  · exact .inl ⟨e, before, hrun, fun location => .inl rfl⟩
  · exact .inl ⟨e, room, hrun, fun location => keptOrRoom_of_became (hroom.get?_cases location)⟩
  · exact .inr ⟨code, _, _, htranslates, hrun, stored_put hroom hnames hfree⟩

/-! ### Command lines -/

section CommandLine

variable {arguments : List Text} {invocation : Invocation} {input : Path} {output : Option Path}
  {choices : CodeChoices}

/-- A command line that converts one file does to the files what its job does, and its exit code
tells whether the job has failed. -/
theorem runArguments_of_run (hparse : Arguments.parse arguments = .ok invocation)
    (hcommand : invocation.command = .transpile input output choices) {before after : FileTree}
    {result : Except Failure Nat}
    (hrun : Job.run disk choices.symbols (Invocation.singleJob input output choices) before =
      (result, after)) :
    (runArguments disk arguments before).1.code = (if result.isOk then 0 else 1) ∧
      (runArguments disk arguments before).2 = after := by
  obtain ⟨run, hinvocation, hcode⟩ : ∃ run : Run,
      Invocation.run disk invocation before = (run, after) ∧
        run.outcome.code = if result.isOk then 0 else 1 := by
    unfold Invocation.run
    rw [hcommand]
    cases result with
    | ok lines => exact ⟨_, bind_state_eq hrun, rfl⟩
    | error failure => exact ⟨_, bind_state_eq hrun, rfl⟩
  have hended : runArguments disk arguments before = (run.outcome, after) := by
    unfold runArguments
    rw [hparse]
    exact bind_state_eq hinvocation
  rw [hended]
  exact ⟨hcode, rfl⟩

/-- **All or nothing**: a command line that converts one file fails and leaves all files as they
are if the input cannot be read, cut into tokens, made a tree or turned into code. If it ends well,
the planned output holds the code for what the input held before, with the options and the
declarations of the command line, and nothing else is new but directories above the output.

However it fails, nothing is written; and it does not fail if there is code and a place for it. -/
theorem runArguments_transpile (before : FileTree)
    (hparse : Arguments.parse arguments = .ok invocation)
    (hcommand : invocation.command = .transpile input output choices) :
    let options : Options :=
      { target := choices.target
        stripQuotes := !choices.keepQuotes
        className := choices.className.getD (Java.className (input.stem?.getD []))
        includeHeader := choices.header
        database := choices.database }
    let symbols := SymbolTable.ofList choices.declarations
    let planned := (Invocation.singleJob input output choices).output
    let ended := runArguments disk arguments before
    (StageFails before input options symbols → ended.1.code = 1 ∧ ended.2 = before) ∧
    (ended.1.code = 0 → ∃ source code, before.read input = .ok source ∧
      RuleSet.standard.convert options symbols source = .ok code ∧
      Stored planned code before ended.2) ∧
    (ended.1.code ≠ 0 → ended.1.code = 1 ∧
      ∀ location, KeptOrRoom planned before ended.2 location) ∧
    (¬ StageFails before input options symbols → ∀ place, Names before planned place →
      before.get? place ≠ some .directory → ended.1.code = 0) := by
  intro options symbols planned ended
  let job := Invocation.singleJob input output choices
  -- The exit code tells how the job has ended, and the files are as it has left them.
  refine ⟨?_, ?_, ?_, ?_⟩
  · intro (hfails : StageFails before job.input job.options symbols)
    obtain ⟨e, hrun⟩ := Job.run_of_not_translates hfails.not_translates
    exact runArguments_of_run hparse hcommand hrun
  · intro hzero
    rcases Job.run_kept_or_stored symbols job before with
      ⟨e, after, hrun, -⟩ | ⟨code, lines, after, ⟨source, hread, hconvert⟩, hrun, hstored⟩
    · obtain ⟨hone, -⟩ := runArguments_of_run hparse hcommand hrun
      rw [hzero] at hone
      cases hone
    · obtain ⟨-, hafter⟩ := runArguments_of_run hparse hcommand hrun
      exact ⟨source, code, hread, hconvert, hafter ▸ hstored⟩
  · intro hne
    rcases Job.run_kept_or_stored symbols job before with
      ⟨e, after, hrun, hkept⟩ | ⟨code, lines, after, -, hrun, -⟩
    · obtain ⟨hone, hafter⟩ := runArguments_of_run hparse hcommand hrun
      exact ⟨hone, hafter ▸ hkept⟩
    · exact absurd (runArguments_of_run hparse hcommand hrun).1 hne
  · intro hfails place hnames hfree
    obtain ⟨code, htranslates⟩ := job.exists_translates_of_stages hfails
    exact (runArguments_of_run hparse hcommand (Job.run_of_names htranslates hnames hfree)).1

/-- The directory for the one output is missing, and the other output is there already. -/
theorem runArguments_transpile_two_files :
    let before : FileTree :=
      { entries := [(["good.cob".toList], .text "MOVE 1 TO X.".toList),
          (["bad.cob".toList], .text "STOP.".toList), (["Bad.java".toList], .text [])] }
    let good :=
      ["transpile", "good.cob", "-o", "out/X.java", "--declare", "X=NUM"].map String.toList
    let bad := ["transpile", "bad.cob"].map String.toList
    (runArguments disk good before).1.code = 0 ∧
      (∃ code, RuleSet.standard.convert { className := "Good".toList }
          (.ofList [("X".toList, "NUM".toList)]) "MOVE 1 TO X.".toList = .ok code ∧
        Stored "out/X.java".toList code before (runArguments disk good before).2) ∧
      (runArguments disk bad before).1.code = 1 ∧ (runArguments disk bad before).2 = before := by
  intro before good bad
  have hgood : Arguments.parse good = .ok
      { command := .transpile "good.cob".toList (some "out/X.java".toList)
          { declarations := [("X".toList, "NUM".toList)] } } := by decide
  have hbad : Arguments.parse bad = .ok { command := .transpile "bad.cob".toList none {} } := by
    decide
  have hzero : (runArguments disk good before).1.code = 0 := by decide +kernel
  have htokens : RuleSet.standard.tokenize "STOP.".toList =
      .ok [⟨.keyword, "STOP".toList⟩, ⟨.punctuation, ".".toList⟩] := by
    rw [RuleSet.standard_eq_spelled]
    decide +kernel
  have hroot : Node.ofTokens [⟨.keyword, "STOP".toList⟩, ⟨.punctuation, ".".toList⟩] =
      .error (.unexpectedToken "RUN".toList ".".toList 1) := by decide +kernel
  obtain ⟨-, hstored, -⟩ := runArguments_transpile before hgood rfl
  obtain ⟨source, code, hread, hconvert, hstored⟩ := hstored hzero
  cases hread
  obtain ⟨hfails, -⟩ := runArguments_transpile before hbad rfl
  exact ⟨hzero, ⟨code, hconvert, hstored⟩, hfails (.parse rfl htokens hroot)⟩

end CommandLine

end CobolSubset

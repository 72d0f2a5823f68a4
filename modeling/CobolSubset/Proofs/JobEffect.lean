import CobolSubset.Command.Job
import CobolSubset.Proofs.TreeEdits

/-!
# What a job does to the files

A job reads its input, converts it, makes the directories for its output and writes it.
`Job.run_cases` says what can come of that. If the input cannot be read or converted, nothing
happens. Otherwise directories may be made above the output, and then the job fails, or the code
stands in the output.

A job whose output already holds the code leaves all files as they are (`Job.run_again`).
-/

namespace CobolSubset

/-! ### Paths above a path -/

namespace Path

/-- The first path is the other one up to one of its slashes. -/
def Above (directory path : Path) : Prop := ∃ rest, path = directory ++ '/' :: rest

theorem Above.trans {a b c : Path} (h : Above a b) (h' : Above b c) : Above a c := by
  obtain ⟨rest, rfl⟩ := h
  obtain ⟨rest', rfl⟩ := h'
  exact ⟨rest ++ '/' :: rest', by simp⟩

theorem splitStart_fst_mem (path : Path) : (splitStart path).1 ∈ [[], ['/'], ['.']] := by
  unfold splitStart
  split
  · next hstart =>
      cases path with
      | nil => simp
      | cons c path =>
          by_cases hslash : c = '/'
          · simp [hslash]
          · by_cases hpoint : c = '.'
            · simp [hpoint]
            · simp [isAbsolute, startsHere, hslash, hpoint] at hstart
  · simp

theorem trimEnd_isPrefix (pieces : List Text) : trimEnd pieces <+: pieces := by
  unfold trimEnd
  rw [← List.reverse_suffix, List.reverse_reverse]
  exact List.dropWhile_suffix _

/-- Some of the pieces of a path, from the first on, are a path above it. -/
theorem above_of_join (start : Text) {front back : List Text} (hfront : front ≠ [])
    (hback : back ≠ []) :
    Above (start ++ Text.join ['/'] front) (start ++ Text.join ['/'] (front ++ back)) := by
  refine ⟨Text.join ['/'] back, ?_⟩
  rw [Text.join_append_join _ hfront hback]
  simp

/-- A path without its last component is nothing but a start, or it is above the path. -/
theorem parent?_cases {path directory : Path} (h : path.parent? = some directory) :
    directory ∈ [[], ['/'], ['.']] ∨ Above directory path := by
  have hpath := splitStart_append_splitStart path
  have hstart := splitStart_fst_mem path
  unfold parent? at h
  generalize splitStart path = parts at hpath hstart h
  obtain ⟨start, body⟩ := parts
  dsimp only at hpath hstart h
  split at h
  · split at h
    · cases h
      exact .inl List.mem_cons_self
    · cases h
  · next all hne =>
      cases h
      obtain ⟨back, hback⟩ : trimEnd (trimEnd (pieces body)).dropLast <+: pieces body :=
        (trimEnd_isPrefix _).trans ((List.dropLast_prefix _).trans (trimEnd_isPrefix _))
      have hlength : (trimEnd (trimEnd (pieces body)).dropLast).length < (pieces body).length := by
        have hle := (trimEnd_isPrefix (trimEnd (pieces body)).dropLast).length_le
        have hle' := (trimEnd_isPrefix (pieces body)).length_le
        have hpositive := List.length_pos_iff.2 hne
        rw [List.length_dropLast] at hle
        omega
      rcases eq_or_ne (trimEnd (trimEnd (pieces body)).dropLast) [] with hnil | hfront
      · left
        rw [hnil]
        simpa [Text.join] using hstart
      · right
        have hmore : back ≠ [] := by
          rintro rfl
          rw [List.append_nil] at hback
          rw [hback] at hlength
          exact Nat.lt_irrefl _ hlength
        have habove := above_of_join start hfront hmore
        rwa [hback, join_pieces, hpath] at habove

theorem exists_join_concat (front : List Text) (last : Text) :
    ∃ before, Text.join ['/'] (front ++ [last]) = before ++ last := by
  rcases eq_or_ne front [] with rfl | hfront
  · exact ⟨[], by simp [Text.join]⟩
  · refine ⟨Text.join ['/'] front ++ ['/'], ?_⟩
    rw [Text.join_append_join _ hfront (List.cons_ne_nil _ _)]
    simp [Text.join]

/-- A directory that is made for a file, if it is missing. -/
structure RoomFor (output directory : Path) : Prop where
  above : Above directory output
  ne_nil : directory ≠ []
  solid : directory.getLast? ≠ some '/'

/-- The directories that are tried for a file are all above it. -/
theorem roomFor_of_suffix {output directory : Path} (h : output.parent? = some directory)
    {piece : Text} {above : List Text}
    (hsuffix : piece :: above <:+ (pieces (splitStart directory).2).reverse)
    (hidle : isIdle piece = false) :
    RoomFor output ((splitStart directory).1 ++ Text.join ['/'] (piece :: above).reverse) := by
  have hmem : piece ∈ pieces (splitStart directory).2 :=
    List.mem_reverse.1 (hsuffix.mem List.mem_cons_self)
  have hpiece : piece ≠ [] := by
    rintro rfl
    cases hidle
  -- A path that is only a start has no piece that could be tried.
  have habove : Above directory output := by
    rcases parent?_cases h with hstart | habove
    · have hempty : pieces (splitStart directory).2 = [[]] := by
        simp only [List.mem_cons, List.not_mem_nil, or_false] at hstart
        rcases hstart with rfl | rfl | rfl <;> rfl
      rw [hempty, List.mem_singleton] at hmem
      exact absurd hmem hpiece
    · exact habove
  obtain ⟨before, hbefore⟩ := exists_join_concat above.reverse piece
  rw [List.reverse_cons]
  refine ⟨?_, ?_, ?_⟩
  · obtain ⟨back, hback⟩ := List.reverse_prefix.2 hsuffix
    rw [List.reverse_reverse, List.reverse_cons] at hback
    have hdirectory := splitStart_append_splitStart directory
    rw [← join_pieces (splitStart directory).2, ← hback] at hdirectory
    rcases eq_or_ne back [] with rfl | hmore
    · rw [List.append_nil] at hdirectory
      rwa [hdirectory]
    · have hpieces : above.reverse ++ [piece] ≠ [] := by simp
      have hfurther := above_of_join (splitStart directory).1 hpieces hmore
      rw [hdirectory] at hfurther
      exact hfurther.trans habove
  · simp [hbefore, hpiece]
  · intro hslash
    rw [hbefore, List.getLast?_append_of_ne_nil _ (by simp [hpiece]),
      List.getLast?_append_of_ne_nil _ hpiece] at hslash
    exact slash_not_mem_of_mem_pieces hmem (List.mem_of_getLast? hslash)

end Path

/-! ### Making directories -/

namespace FileTree

variable {tree : FileTree} {path : Path}

theorem ensureDirectory_eq (tree : FileTree) (path : Path) :
    disk.ensureDirectory path tree =
      match tree.createDirectory path with
      | .ok changed => (.ok (), changed)
      | .error e => (if tree.isDirectory path then .ok () else .error e, tree) := by
  have hcreate : disk.createDirectory path tree =
      match tree.createDirectory path with
      | .ok changed => (.ok (), changed)
      | .error e => (.error e, tree) := rfl
  unfold Disk.ensureDirectory
  cases hresult : tree.createDirectory path with
  | ok changed =>
      rw [hresult] at hcreate
      rw [bind_state_eq hcreate]
      rfl
  | error e =>
      rw [hresult] at hcreate
      have hask : disk.isDirectory path tree = (tree.isDirectory path, tree) := rfl
      rw [bind_state_eq hcreate]
      refine (bind_state_eq hask).trans ?_
      cases tree.isDirectory path <;> rfl

/-- To ensure a directory makes at most this one. -/
theorem edits_ensureDirectory (hpath : path.getLast? ≠ some '/') {made : Path → Prop}
    (hmade : made path) (tree : FileTree) :
    Edits made (fun _ _ => False) tree (disk.ensureDirectory path tree).2 := by
  rw [ensureDirectory_eq]
  cases hresult : tree.createDirectory path with
  | ok changed =>
      obtain ⟨location, hnames, hfree, rfl⟩ := (createDirectory_eq_ok_iff hpath).1 hresult
      exact Edits.none.make hmade hnames hfree
  | error e => exact .none

/-- A directory that is there is left alone. -/
theorem ensureDirectory_of_isDirectory (hpath : path.getLast? ≠ some '/')
    (h : tree.isDirectory path = true) : disk.ensureDirectory path tree = (.ok (), tree) := by
  rw [ensureDirectory_eq]
  cases hresult : tree.createDirectory path with
  | ok changed =>
      obtain ⟨location, hnames, hfree, -⟩ := (createDirectory_eq_ok_iff hpath).1 hresult
      obtain ⟨location', hlocate, hdirectory⟩ := isDirectory_iff.1 h
      cases hnames.locate.symm.trans hlocate
      rw [hfree] at hdirectory
      cases hdirectory
  | error e => simp [h]

/-- Creating the directory that some pieces lead to makes directories under some first pieces of
them. -/
theorem edits_createPieces {made : Path → Prop} {start : Text} {pieces : List Text}
    (h : ∀ piece above, piece :: above <:+ pieces → Path.isIdle piece = false →
      made (start ++ Text.join ['/'] (piece :: above).reverse) ∧
        (start ++ Text.join ['/'] (piece :: above).reverse).getLast? ≠ some '/')
    (tree : FileTree) :
    Edits made (fun _ _ => False) tree (disk.createPieces start pieces tree).2 := by
  induction pieces generalizing tree with
  | nil => exact .none
  | cons piece above ih =>
      have habove : ∀ tree, Edits made (fun _ _ => False) tree
          (disk.createPieces start above tree).2 := by
        apply ih
        intro piece' above' hsuffix
        exact h piece' above' (hsuffix.trans (List.suffix_cons piece above))
      cases hidle : Path.isIdle piece with
      | true =>
          simp only [Disk.createPieces, hidle, if_true]
          exact habove tree
      | false =>
          obtain ⟨hmade, hpath⟩ := h piece above List.suffix_rfl hidle
          have hfirst := edits_ensureDirectory hpath hmade tree
          simp only [Disk.createPieces, hidle, Bool.false_eq_true, if_false]
          generalize hensure : disk.ensureDirectory
            (start ++ Text.join ['/'] (piece :: above).reverse) tree = ensured at hfirst
          obtain ⟨result, tree'⟩ := ensured
          rw [bind_state_eq hensure]
          -- Only where the directory above is missing more is done.
          split
          · have hsecond := hfirst.trans (habove tree')
            generalize hcreate : disk.createPieces start above tree' = created at hsecond
            obtain ⟨result', tree''⟩ := created
            rw [bind_state_eq hcreate]
            cases result' with
            | ok => exact hsecond.trans (edits_ensureDirectory hpath hmade tree'')
            | error e => exact hsecond
          · exact hfirst

theorem createPieces_of_isDirectory {start : Text} {pieces : List Text}
    (h : ∀ piece above, piece :: above <:+ pieces → Path.isIdle piece = false →
      tree.isDirectory (start ++ Text.join ['/'] (piece :: above).reverse) = true ∧
        (start ++ Text.join ['/'] (piece :: above).reverse).getLast? ≠ some '/') :
    disk.createPieces start pieces tree = (.ok (), tree) := by
  induction pieces with
  | nil => rfl
  | cons piece above ih =>
      cases hidle : Path.isIdle piece with
      | true =>
          simp only [Disk.createPieces, hidle, if_true]
          apply ih
          intro piece' above' hsuffix
          exact h piece' above' (hsuffix.trans (List.suffix_cons piece above))
      | false =>
          obtain ⟨hdirectory, hpath⟩ := h piece above List.suffix_rfl hidle
          simp only [Disk.createPieces, hidle, Bool.false_eq_true, if_false]
          rw [bind_state_eq (ensureDirectory_of_isDirectory hpath hdirectory)]
          rfl

end FileTree

/-! ### Jobs -/

namespace Job

open FileTree

variable {tree : FileTree} {symbols : SymbolTable} {job : Job} {code : Text}

/-- Room is made by creating the directory that the output is to stand in, if it has one. -/
theorem makeRoom_eq (output : Path) (tree : FileTree) :
    makeRoom disk output tree = (.ok (), tree) ∨
      ∃ directory, output.parent? = some directory ∧
        makeRoom disk output tree =
          ((disk.createDirectories directory tree).1.mapError
              (Failure.ofFile "Failed to create" directory),
            (disk.createDirectories directory tree).2) := by
  unfold makeRoom
  cases output.parent? with
  | none => exact .inl rfl
  | some directory =>
      cases directory with
      | nil => exact .inl rfl
      | cons c rest => exact .inr ⟨c :: rest, rfl, rfl⟩

/-- Only directories above the output are made for it. -/
theorem edits_makeRoom (output : Path) (tree : FileTree) :
    Edits (Path.Above · output) (fun _ _ => False) tree (makeRoom disk output tree).2 := by
  rcases makeRoom_eq output tree with hroom | ⟨directory, hparent, hroom⟩
  · rw [hroom]
    exact .none
  · rw [hroom]
    apply edits_createPieces
    intro piece above hsuffix hidle
    have hfor := Path.roomFor_of_suffix hparent hsuffix hidle
    exact ⟨hfor.above, hfor.solid⟩

/-- No directory has to be made for a file that is there. -/
theorem makeRoom_of_locate {output : Path} {location : Location}
    (h : tree.locate output = .ok location) : makeRoom disk output tree = (.ok (), tree) := by
  rcases makeRoom_eq output tree with hroom | ⟨directory, hparent, hroom⟩
  · exact hroom
  · have hcreate : disk.createDirectories directory tree = (.ok (), tree) := by
      apply createPieces_of_isDirectory
      intro piece above hsuffix hidle
      have hfor := Path.roomFor_of_suffix hparent hsuffix hidle
      refine ⟨?_, hfor.solid⟩
      obtain ⟨rest, rfl⟩ := hfor.above
      exact isDirectory_iff.2 (exists_directory_of_locate hfor.ne_nil h)
    rw [hroom, hcreate]
    rfl

/-- The input can be read, and this is the code for it. -/
def Translates (tree : FileTree) (symbols : SymbolTable) (job : Job) (code : Text) : Prop :=
  ∃ source, tree.read job.input = .ok source ∧
    RuleSet.standard.convert job.options symbols source = .ok code

/-- Once there is code for the input, what remains is to put it into the output. -/
theorem run_of_translates (h : job.Translates tree symbols code) :
    Job.run disk symbols job tree =
      (do makeRoom disk job.output
          writeCode disk job.output code
          return code.lines.length : ExceptT Failure (StateM FileTree) Nat) tree := by
  obtain ⟨source, hread, hconvert⟩ := h
  have hsource : readSource disk job.input tree = (.ok source, tree) := by
    show ((tree.read job.input).mapError _, tree) = _
    rw [hread]
    rfl
  unfold Job.run
  rw [bind_state_ok hsource, hconvert]
  rfl

/-- A job whose source cannot be translated fails and leaves the files as they are. -/
theorem run_of_not_translates (h : ∀ code, ¬ job.Translates tree symbols code) :
    ∃ e, Job.run disk symbols job tree = (.error e, tree) := by
  have hsource : readSource disk job.input tree = ((tree.read job.input).mapError
      (Failure.ofFile "Failed to read" job.input), tree) := rfl
  unfold Job.run
  cases hread : tree.read job.input with
  | error e =>
      rw [hread] at hsource
      exact ⟨_, bind_state_error hsource⟩
  | ok source =>
      rw [hread] at hsource
      rw [bind_state_ok hsource]
      cases hconvert : RuleSet.standard.convert job.options symbols source with
      | error e => exact ⟨_, rfl⟩
      | ok code => exact absurd ⟨source, hread, hconvert⟩ (h code)

theorem writeCode_eq (output : Path) (code : Text) (tree : FileTree) :
    writeCode disk output code tree =
      match tree.write output code with
      | .ok changed => (.ok (), changed)
      | .error e => (.error (Failure.ofFile "Failed to write" output e), tree) := by
  have hchange : change (·.write output code) tree =
      match tree.write output code with
      | .ok changed => (.ok (), changed)
      | .error e => (.error e, tree) := rfl
  show ((change (·.write output code) tree).1.mapError _, (change (·.write output code) tree).2) = _
  rw [hchange]
  cases tree.write output code <;> rfl

/-- What can come of a job. -/
theorem run_cases (symbols : SymbolTable) (job : Job) (tree : FileTree) :
    ((∀ code, ¬ job.Translates tree symbols code) ∧
        ∃ e, Job.run disk symbols job tree = (.error e, tree)) ∨
      ∃ code room, job.Translates tree symbols code ∧
        Edits (Path.Above · job.output) (fun _ _ => False) tree room ∧
        ((∃ e, Job.run disk symbols job tree = (.error e, room)) ∨
          ∃ location, Names room job.output location ∧
            room.get? location ≠ some .directory ∧
            Job.run disk symbols job tree =
              (.ok code.lines.length, room.put location (.text code))) := by
  by_cases htranslates : ∃ code, job.Translates tree symbols code
  · obtain ⟨code, htranslates⟩ := htranslates
    have hedits := edits_makeRoom job.output tree
    generalize hroom : makeRoom disk job.output tree = outcome at hedits
    obtain ⟨result, room⟩ := outcome
    refine .inr ⟨code, room, htranslates, hedits, ?_⟩
    rw [run_of_translates htranslates]
    cases result with
    | error e => exact .inl ⟨e, bind_state_error hroom⟩
    | ok =>
        have hwrite := writeCode_eq job.output code room
        rw [bind_state_ok hroom]
        cases hresult : room.write job.output code with
        | error e =>
            rw [hresult] at hwrite
            exact .inl ⟨_, bind_state_error hwrite⟩
        | ok changed =>
            rw [hresult] at hwrite
            obtain ⟨location, hnames, hfree, rfl⟩ := write_eq_ok_iff.1 hresult
            exact .inr ⟨location, hnames, hfree, bind_state_ok hwrite⟩
  · have hnone := not_exists.1 htranslates
    exact .inl ⟨hnone, run_of_not_translates hnone⟩

/-- If there is code, and nothing is in its way, it is written without further ado. -/
theorem run_of_names (htranslates : job.Translates tree symbols code) {location : Location}
    (hnames : Names tree job.output location) (hfree : tree.get? location ≠ some .directory) :
    Job.run disk symbols job tree = (.ok code.lines.length, tree.put location (.text code)) := by
  have hwrite := writeCode_eq job.output code tree
  rw [write_eq_ok_iff.2 ⟨location, hnames, hfree, rfl⟩] at hwrite
  rw [run_of_translates htranslates, bind_state_ok (makeRoom_of_locate hnames.locate),
    bind_state_ok hwrite]
  rfl

/-- A job whose output already holds the code changes nothing. -/
theorem run_again (htranslates : job.Translates tree symbols code) {location : Location}
    (hnames : Names tree job.output location) (htext : tree.get? location = some (.text code)) :
    Job.run disk symbols job tree = (.ok code.lines.length, tree) := by
  rw [run_of_names htranslates hnames (by simp [htext]), put_eq_self hnames.ne_nil htext]

end Job

end CobolSubset

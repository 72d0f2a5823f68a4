import CobolSubset.Command.Batch
import CobolSubset.Proofs.FileNames
import CobolSubset.Proofs.JavaNames
import CobolSubset.Proofs.PathLookup

/-!
# Outputs of a batch

Every source of a batch has its output below the output directory, at the place that the source has
below the input directory. Its name is that of the class, or that of the source with another
extension (`output_planFile`).

Two outputs are one file only if they are written in the same way, provided that a class name that
was given does not lead upwards (`output_eq_of_names`). So a batch finds all collisions by looking at
paths alone.
-/

namespace CobolSubset

namespace FileTree

open CobolSubset.Path

/-! ### Names and locations -/

/-- Idle pieces lead nowhere. -/
theorem foldl_turn_names (path : Path) (location : Location) :
    (pieces path).foldl turn location = (names path).foldl turn location := by
  unfold names
  induction pieces path generalizing location with
  | nil => rfl
  | cons piece rest ih =>
      cases hidle : isIdle piece with
      | true =>
          have hturn : turn location piece = location := by simp [turn, hidle]
          rw [List.foldl_cons, hturn, List.filter_cons_of_neg (by simp [hidle])]
          exact ih location
      | false =>
          rw [List.filter_cons_of_pos (by simp [hidle]), List.foldl_cons, List.foldl_cons]
          exact ih _

/-- Names that go down are added to the location. -/
theorem foldl_turn_down {list : List Text} (h : ∀ name ∈ list, isIdle name = false ∧ name ≠ ['.', '.'])
    (location : Location) : list.foldl turn location = location ++ list := by
  induction list generalizing location with
  | nil => simp
  | cons name list ih =>
      rw [List.forall_mem_cons] at h
      have hturn : turn location name = location ++ [name] := by simp [turn, h.1]
      rw [List.foldl_cons, hturn, ih h.2, List.append_assoc]
      rfl

end FileTree

namespace Batch

open FileTree CobolSubset.Path

variable {choices : BatchChoices} {list list' : List Text}

/-! ### What outputs are called -/

/-- The name of the output for a source, which may be a path if a class name was given. -/
def outputName (choices : CodeChoices) (input : Path) : Text :=
  match choices.target with
  | .java => Job.className choices input ++ ".java".toList
  | .rust =>
    let stem := (Path.cutExtension (input.fileName?.getD [])).1
    if stem = ['.'] then ['.', '.'] else stem ++ ".rs".toList

def outputPlace (choices : BatchChoices) (names : List Text) : Path :=
  Path.join choices.outputDirectory (Text.join ['/'] names.dropLast)

theorem exists_of_isSource {path : Path} (h : isSource path = true) :
    ∃ name, path.fileName? = some name ∧
      ∃ stem extension, stem ≠ [] ∧ '.' ∉ extension ∧ name = stem ++ '.' :: extension ∧
        isCobolExtension extension = true := by
  obtain ⟨extension, hextension, hcobol⟩ := (Option.any_eq_true _ _).1 h
  obtain ⟨name, hname, hcut⟩ := Option.bind_eq_some_iff.1 hextension
  obtain ⟨stem, hstem, hpoint, hsplit⟩ := Path.exists_of_cutExtension hcut
  exact ⟨name, hname, stem, extension, hstem, hpoint, hsplit, hcobol⟩

theorem output_planFile (h : isSource (filePath choices.input list) = true) :
    (planFile choices list).output =
      Path.join (outputPlace choices list)
        (outputName choices.code (filePath choices.input list)) := by
  obtain ⟨name, hname, stem, extension, hstem, hpoint, rfl, -⟩ := exists_of_isSource h
  show Job.defaultOutput choices.code.target _ _ (outputPlace choices list) = _
  unfold Job.defaultOutput outputName
  cases choices.code.target with
  | java => rfl
  | rust =>
      dsimp only
      rw [hname, Option.getD_some, cutExtension_append hstem hpoint,
        withExtension_join (isFileName_of_fileName? hname) hstem hpoint _ (by decide)]
      rfl

/-- The last piece of the output has another extension than a COBOL file. It can be a file name,
unless the output is nothing but two points. -/
theorem exists_last_outputName (choices : CodeChoices) (input : Path) :
    ∃ front last, pieces (outputName choices input) = front ++ [last] ∧
      isCobolName last = false ∧
      (IsFileName last ∨ outputName choices input = ['.', '.']) := by
  have hlast : ∀ text extension : Text, '/' ∉ extension → '.' ∉ extension → 1 < extension.length →
      isCobolExtension extension = false →
      ∃ front last, pieces (text ++ '.' :: extension) = front ++ [last] ∧
        isCobolName last = false ∧ IsFileName last := by
    intro text extension hslash hpoint hlength hplain
    have hmore : '/' ∉ '.' :: extension := by simp [hslash]
    obtain ⟨front, last, -, hpieces⟩ := exists_pieces_append text hmore
    refine ⟨front, last ++ '.' :: extension, hpieces, ?_, ?_⟩
    · unfold isCobolName
      rw [behindLastPoint?_append last hpoint]
      exact hplain
    · apply isFileName_of_length
      · simp only [List.length_append, List.length_cons]
        omega
      · have hmem : last ++ '.' :: extension ∈ pieces (text ++ '.' :: extension) := by
          simp [hpieces]
        exact slash_not_mem_of_mem_pieces hmem
  unfold outputName
  cases choices.target with
  | java =>
      obtain ⟨front, last, hpieces, hplain, hname⟩ := hlast (Job.className choices input)
        "java".toList (by decide) (by decide) (by decide) (by decide)
      exact ⟨front, last, hpieces, hplain, .inl hname⟩
  | rust =>
      dsimp only
      split
      · exact ⟨[], ['.', '.'], rfl, rfl, .inr rfl⟩
      · obtain ⟨front, last, hpieces, hplain, hname⟩ :=
          hlast (cutExtension (input.fileName?.getD [])).1 "rs".toList (by decide) (by decide)
            (by decide) (by decide)
        exact ⟨front, last, hpieces, hplain, .inl hname⟩

/-- Without a class name that was given the output is called by a single name. -/
theorem isFileName_outputName {code : CodeChoices} {input : Path}
    (hgiven : code.target = .java → code.className = none) (h : isSource input = true) :
    IsFileName (outputName code input) ∨ outputName code input = ['.', '.'] := by
  obtain ⟨name, hname, stem, extension, hstem, hpoint, rfl, -⟩ := exists_of_isSource h
  unfold outputName
  cases htarget : code.target with
  | java =>
      left
      apply isFileName_of_length
      · simp
      · rw [Job.className, hgiven htarget]
        intro hslash
        rcases List.mem_append.1 hslash with hslash | hslash
        · exact Java.slash_not_mem_className _ hslash
        · revert hslash
          decide
  | rust =>
      rw [hname, Option.getD_some, cutExtension_append hstem hpoint]
      dsimp only
      split
      · exact .inr rfl
      · left
        apply isFileName_of_length
        · simp
        · intro hslash
          rcases List.mem_append.1 hslash with hslash | hslash
          · exact (isFileName_of_fileName? hname).2 (List.mem_append_left _ hslash)
          · revert hslash
            decide

/-! ### Where outputs are -/

/-- Where an output stands can be told from the directory it is put in. -/
theorem location_output {tree : FileTree} {file : Text} {location : Location}
    (hlist : ∀ name ∈ list, IsFileName name) (hfile : isAbsolute file = false)
    (hdown : ['.', '.'] ∉ pieces file)
    (h : tree.locate (join (outputPlace choices list) file) = .ok location) :
    location = (names choices.outputDirectory).foldl turn (tree.start choices.outputDirectory) ++
      (list.dropLast ++ names file) := by
  have hfront : ∀ name ∈ list.dropLast, IsFileName name :=
    fun name hname => hlist name ((List.dropLast_sublist list).subset hname)
  have habsolute := isAbsolute_join_names hfront
  have hstart : tree.start (join (outputPlace choices list) file) =
      tree.start choices.outputDirectory := by
    unfold FileTree.start outputPlace
    rw [isAbsolute_join hfile, isAbsolute_join habsolute]
  have hnames : names (join (outputPlace choices list) file) =
      names choices.outputDirectory ++ (list.dropLast ++ names file) := by
    unfold outputPlace
    rw [names_join hfile, names_join habsolute, names_join_names hfront, List.append_assoc]
  rw [location_of_locate h, foldl_turn_names, hstart, hnames, List.foldl_append]
  apply foldl_turn_down
  intro name hname
  rcases List.mem_append.1 hname with hname | hname
  · have hvalid := hfront name hname
    refine ⟨hvalid.isIdle_eq, ?_⟩
    rintro rfl
    exact hvalid.1 (by decide)
  · obtain ⟨hmem, hidle⟩ := List.mem_filter.1 hname
    refine ⟨by simpa using hidle, ?_⟩
    rintro rfl
    exact hdown hmem

end Batch

/-- A class name that was given does not lead upwards. -/
def BatchChoices.Straight (choices : BatchChoices) : Prop :=
  ∀ name, choices.code.className = some name → ['.', '.'] ∉ Path.pieces name

namespace Batch

open FileTree CobolSubset.Path

variable {choices : BatchChoices} {list list' : List Text}

theorem outputName_of_given {code : CodeChoices} {name : Text} (htarget : code.target = .java)
    (hname : code.className = some name) (input : Path) :
    outputName code input = name ++ ".java".toList := by
  unfold outputName
  rw [htarget, Job.className, hname]
  rfl

theorem up_not_mem_pieces_java {name : Text} (h : ['.', '.'] ∉ pieces name) :
    ['.', '.'] ∉ pieces (name ++ ".java".toList) := by
  have hslash : '/' ∉ ".java".toList := by decide
  obtain ⟨front, last, hpieces, happend⟩ := exists_pieces_append name hslash
  rw [hpieces] at h
  rw [happend]
  intro hmem
  rcases List.mem_append.1 hmem with hmem | hmem
  · exact h (List.mem_append_left _ hmem)
  · have hlength := congrArg List.length (List.mem_singleton.1 hmem)
    simp at hlength

/-- An output that can be written does not end in two points. -/
theorem isFileName_of_names (hgiven : choices.code.target = .java → choices.code.className = none)
    (hsource : isSource (filePath choices.input list) = true) {tree : FileTree}
    {location : Location} (h : Names tree (join (outputPlace choices list)
      (outputName choices.code (filePath choices.input list))) location) :
    IsFileName (outputName choices.code (filePath choices.input list)) := by
  rcases isFileName_outputName hgiven hsource with hname | hup
  · exact hname
  · obtain ⟨front, name, -, hpieces, hname, -⟩ := h
    obtain ⟨front', hjoin⟩ := exists_pieces_join (outputPlace choices list) ['.', '.']
    rw [hup, hjoin] at hpieces
    have hlast : [['.', '.']] = [name] := (List.append_inj' hpieces rfl).2
    rw [← List.singleton_inj.1 hlast] at hname
    exact absurd hname (by decide)

/-- Two outputs that lead to the same place are the same path. -/
theorem output_eq_of_names (hstraight : choices.Straight)
    (hlist : ∀ name ∈ list, IsFileName name) (hlist' : ∀ name ∈ list', IsFileName name)
    (hsource : isSource (filePath choices.input list) = true)
    (hsource' : isSource (filePath choices.input list') = true) {tree : FileTree}
    {location : Location} (h : Names tree (planFile choices list).output location)
    (h' : Names tree (planFile choices list').output location) :
    (planFile choices list).output = (planFile choices list').output := by
  rw [output_planFile hsource] at h ⊢
  rw [output_planFile hsource'] at h' ⊢
  by_cases hgiven : choices.code.target = .java → choices.code.className = none
  · -- Names that are not given are single, so directory and name can be told apart.
    have hname := isFileName_of_names hgiven hsource h
    have hname' := isFileName_of_names hgiven hsource' h'
    have hsame :=
      (location_output hlist hname.not_isAbsolute hname.up_not_mem_pieces h.locate).symm.trans
        (location_output hlist' hname'.not_isAbsolute hname'.up_not_mem_pieces h'.locate)
    rw [hname.names_eq, hname'.names_eq] at hsame
    obtain ⟨hfront, hfile⟩ := List.append_inj' (List.append_cancel_left hsame) rfl
    rw [List.singleton_inj.1 hfile]
    unfold outputPlace
    rw [hfront]
  · -- A class name that was given is the same for all outputs, so the directories are the same.
    obtain ⟨htarget, hne⟩ := Classical.not_imp.1 hgiven
    obtain ⟨name, hname⟩ := Option.ne_none_iff_exists'.1 hne
    rw [outputName_of_given htarget hname] at h h'
    rw [outputName_of_given htarget hname, outputName_of_given htarget hname]
    cases habsolute : isAbsolute (name ++ ".java".toList) with
    | true =>
        unfold join
        rw [habsolute]
        rfl
    | false =>
        have hdown := up_not_mem_pieces_java (hstraight name hname)
        have hsame := (location_output hlist habsolute hdown h.locate).symm.trans
          (location_output hlist' habsolute hdown h'.locate)
        unfold outputPlace
        rw [List.append_cancel_right (List.append_cancel_left hsame)]

end Batch

end CobolSubset

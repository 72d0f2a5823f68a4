import CobolSubset.Proofs.Sources
import Mathlib.Data.List.Forall2

/-!
# COBOL files with hidden names

There are two ways to tell a COBOL file. `isCobolName` cuts the text of a path at its last point,
wherever this stands. A batch looks at the extension of the file name, and a point at the start of a
name begins no extension.

Both come down to the file name (`isCobolName_join`, `isSource_iff`). Points in the names of
directories do no harm, because what stands behind them has a slash in it, and no extension of COBOL
files has. So the two differ on one kind of names alone, those with nothing before the extension:
`.cob` is a COBOL file, but no batch takes it.
-/

namespace CobolSubset

/-! ### Extensions in small and capital letters -/

/-- An extension of COBOL files, each letter of it small or capital. -/
def IsCobolSpelling (extension : Text) : Prop :=
  ∃ plain ∈ cobolExtensions,
    List.Forall₂ (fun c letter => c = letter ∨ c = letter.toUpper) extension plain

theorem isLower_of_mem_cobolExtensions {plain : Text} (h : plain ∈ cobolExtensions) :
    ∀ letter ∈ plain, letter.isLower = true := by
  simp only [cobolExtensions, List.mem_cons, List.not_mem_nil, or_false] at h
  rcases h with rfl | rfl | rfl <;> simp [Char.isLower]

/-- A small letter is the small form of two characters. -/
theorem toLower_eq_iff {letter : Char} (h : letter.isLower = true) (c : Char) :
    c.toLower = letter ↔ c = letter ∨ c = letter.toUpper := by
  have hsmall : letter.toLower = letter :=
    Char.toLower_eq_of_not_isUpper (Char.not_isUpper_of_isLower h)
  constructor
  · rintro rfl
    by_cases hupper : c.isUpper = true
    · right
      rw [Char.toUpper_toLower_eq_toUpper,
        Char.toUpper_eq_of_not_isLower (Char.not_isLower_of_isUpper hupper)]
    · exact .inl (Char.toLower_eq_of_not_isUpper hupper).symm
  · rintro (rfl | rfl)
    · exact hsmall
    · rw [Char.toLower_toUpper_eq_toLower, hsmall]

theorem toLower_eq_iff_forall₂ {plain : Text} (h : ∀ letter ∈ plain, letter.isLower = true)
    (text : Text) :
    Text.toLower text = plain ↔
      List.Forall₂ (fun c letter => c = letter ∨ c = letter.toUpper) text plain := by
  induction plain generalizing text with
  | nil => simp [Text.toLower]
  | cons letter plain ih =>
      rw [List.forall_mem_cons] at h
      cases text with
      | nil => simp [Text.toLower]
      | cons c text =>
          rw [List.forall₂_cons, ← ih h.2, ← toLower_eq_iff h.1]
          exact List.cons_eq_cons

/-- The case of letters is all that the test for extensions leaves open. -/
theorem isCobolExtension_iff {extension : Text} :
    isCobolExtension extension = true ↔ IsCobolSpelling extension := by
  unfold isCobolExtension IsCobolSpelling
  rw [List.contains_iff_mem]
  constructor
  · intro hmem
    exact ⟨_, hmem, (toLower_eq_iff_forall₂ (isLower_of_mem_cobolExtensions hmem) _).1 rfl⟩
  · rintro ⟨plain, hplain, hspelling⟩
    rw [(toLower_eq_iff_forall₂ (isLower_of_mem_cobolExtensions hplain) _).2 hspelling]
    exact hplain

/-- There are only letters in an extension of COBOL files. -/
theorem not_mem_of_isCobolExtension {extension : Text} (h : isCobolExtension extension = true)
    {c : Char} (hc : c.isAlpha = false) : c ∉ extension := by
  intro hmem
  have hlower := isLower_of_mem_cobolExtensions (List.contains_iff_mem.1 h) c.toLower
    (List.mem_map_of_mem hmem)
  rw [Char.isLower_toLower_eq_isAlpha, hc] at hlower
  cases hlower

theorem point_not_mem_of_isCobolExtension {extension : Text} (h : isCobolExtension extension = true) :
    '.' ∉ extension :=
  not_mem_of_isCobolExtension h (by decide)

/-! ### The last point of a path -/

theorem exists_of_behindLastPoint? {text extension : Text}
    (h : behindLastPoint? text = some extension) : ∃ stem, text = stem ++ '.' :: extension := by
  induction text with
  | nil => cases h
  | cons c text ih =>
      rw [behindLastPoint?, Option.or_eq_some_iff] at h
      rcases h with h | ⟨-, h⟩
      · obtain ⟨stem, hstem⟩ := ih h
        exact ⟨c :: stem, congrArg (c :: ·) hstem⟩
      · obtain ⟨rfl, hrest⟩ := Option.ite_none_right_eq_some.1 h
        cases hrest
        exact ⟨[], rfl⟩

/-- The test by name asks for an extension and nothing else, so nothing has to stand before the
point. -/
theorem isCobolName_iff {text : Text} :
    isCobolName text = true ↔
      ∃ stem extension, text = stem ++ '.' :: extension ∧ isCobolExtension extension = true := by
  unfold isCobolName
  rw [Option.any_eq_true]
  constructor
  · rintro ⟨extension, hbehind, hcobol⟩
    obtain ⟨stem, hstem⟩ := exists_of_behindLastPoint? hbehind
    exact ⟨stem, extension, hstem, hcobol⟩
  · rintro ⟨stem, extension, rfl, hcobol⟩
    have hpoint := point_not_mem_of_isCobolExtension hcobol
    exact ⟨extension, Path.behindLastPoint?_append stem hpoint, hcobol⟩

/-- What stands before the last slash does not matter. -/
theorem isCobolName_append (directory name : Text) :
    isCobolName (directory ++ '/' :: name) = true ↔ isCobolName name = true := by
  rw [isCobolName_iff, isCobolName_iff]
  constructor
  · rintro ⟨stem, extension, heq, hcobol⟩
    rcases List.append_eq_append_iff.1 heq with ⟨more, -, hmore⟩ | ⟨more, -, hmore⟩
    · -- The point is behind the slash.
      cases more with
      | nil => cases hmore
      | cons c more => exact ⟨more, extension, (List.cons.inj hmore).2, hcobol⟩
    · -- The point is before the slash, which then is in the extension.
      cases more with
      | nil => cases hmore
      | cons c more =>
          have hslash : '/' ∈ extension := by simp [(List.cons.inj hmore).2]
          exact absurd hslash (not_mem_of_isCobolExtension hcobol (by decide))
  · rintro ⟨stem, extension, rfl, hcobol⟩
    exact ⟨directory ++ '/' :: stem, extension, by simp, hcobol⟩

namespace Path

variable {path : Path} {name : Text}

/-- A path that ends in a file name is a directory joined with it. -/
theorem exists_eq_join (hname : IsFileName name) (hlast : (pieces path).getLast? = some name) :
    ∃ directory, path = join directory name := by
  obtain ⟨front, hpieces⟩ := List.getLast?_eq_some_iff.1 hlast
  have hpath := join_pieces path
  have hsingle : Text.join ['/'] [name] = name := List.intercalate_singleton
  rw [hpieces] at hpath
  rcases eq_or_ne front [] with rfl | hfront
  · refine ⟨[], ?_⟩
    rw [← hpath, List.nil_append, hsingle]
    simp [join]
  · rw [Text.join_append_join _ hfront (List.cons_ne_nil _ _), hsingle] at hpath
    refine ⟨Text.join ['/'] front ++ ['/'], ?_⟩
    rw [← hpath]
    simp [join, hname.not_isAbsolute]

theorem isCobolName_join (hname : IsFileName name) (directory : Path) :
    isCobolName (join directory name) = true ↔ isCobolName name = true := by
  rcases join_cases hname.not_isAbsolute directory with ⟨-, hjoin⟩ | ⟨-, front, -, hjoin⟩
  · rw [hjoin]
  · rw [hjoin, isCobolName_append]

end Path

/-! ### Files that a batch takes -/

/-- Above an entry there are only directories. -/
theorem FileTree.WellFormed.directory_of_get?_append {tree : FileTree} (h : tree.WellFormed)
    {location names : List Text} {entry : Entry} (hentry : tree.get? (location ++ names) = some entry)
    (hnames : names ≠ []) : tree.get? location = some .directory := by
  induction names using List.reverseRecOn generalizing entry with
  | nil => exact absurd rfl hnames
  | append_singleton front name ih =>
      have hparent := h.parent_of_get? hentry
      rw [← List.append_assoc, List.dropLast_concat] at hparent
      rcases eq_or_ne front [] with rfl | hfront
      · rwa [List.append_nil] at hparent
      · exact ih hparent hfront

namespace Batch

variable {tree : FileTree} {choices : BatchChoices} {files : List (List Text)} {path : Path}
  {name : Text}

/-- The test of a batch asks for something before the point as well. -/
theorem isSource_iff (h : path.fileName? = some name) :
    isSource path = true ↔
      ∃ stem extension, stem ≠ [] ∧ name = stem ++ '.' :: extension ∧
        isCobolExtension extension = true := by
  constructor
  · intro hsource
    obtain ⟨name', hname', stem, extension, hstem, -, hsplit, hcobol⟩ := exists_of_isSource hsource
    cases h.symm.trans hname'
    exact ⟨stem, extension, hstem, hsplit, hcobol⟩
  · rintro ⟨stem, extension, hstem, rfl, hcobol⟩
    have hpoint := point_not_mem_of_isCobolExtension hcobol
    unfold isSource Path.extension?
    rw [h, Option.bind_some, Path.cutExtension_append hstem hpoint]
    exact hcobol

/-- There is a file with the path where a batch looks for sources: the input itself, or a file in the
input directory, or anywhere below it if all directories are searched. -/
def Reaches (tree : FileTree) (choices : BatchChoices) (path : Path) : Prop :=
  ∃ location names entry, tree.locate choices.input = .ok location ∧
    tree.get? (location ++ names) = some entry ∧ entry.isFile = true ∧
    (choices.recursive = true ∨ names.length ≤ 1) ∧ path = filePath choices.input names

/-- A batch has a job for the file with the path. -/
def Selects (tree : FileTree) (choices : BatchChoices) (path : Path) : Prop :=
  ∃ files, tree.scan choices.input choices.recursive = .ok files ∧
    path ∈ (plan choices files).map Job.input

/-- A batch takes the files that it finds and that pass its test. -/
theorem mem_inputs_plan :
    path ∈ (plan choices files).map Job.input ↔
      path ∈ files.map (filePath choices.input) ∧ isSource path = true := by
  rw [List.mem_map, List.mem_map]
  constructor
  · rintro ⟨job, hjob, rfl⟩
    obtain ⟨names, hmem, hsource, rfl⟩ := mem_plan_iff.1 hjob
    exact ⟨⟨names, hmem, rfl⟩, hsource⟩
  · rintro ⟨⟨names, hmem, rfl⟩, hsource⟩
    exact ⟨planFile choices names, mem_plan_iff.2 ⟨names, hmem, hsource, rfl⟩, rfl⟩

/-- A scan finds the files that it can reach. -/
theorem Reaches.mem_scan (h : Reaches tree choices path) (htree : tree.WellFormed) :
    ∃ files, tree.scan choices.input choices.recursive = .ok files ∧
      path ∈ files.map (filePath choices.input) := by
  obtain ⟨location, names, entry, hlocate, hentry, hfile, hdepth, rfl⟩ := h
  rcases eq_or_ne names [] with rfl | hnames
  · rw [List.append_nil] at hentry
    exact ⟨_, FileTree.scan_file hlocate hentry hfile _, List.mem_singleton_self _⟩
  · have hdirectory := htree.directory_of_get?_append hentry hnames
    refine ⟨_, FileTree.scan_directory hlocate hdirectory _, List.mem_map_of_mem ?_⟩
    have hmem : (location ++ names, entry) ∈ tree.entries :=
      FileTree.mem_of_get?_eq_some (by simp [hnames]) hentry
    refine List.mem_filter.2 ⟨FileTree.mem_filesBelow.2 ⟨entry, hfile, hmem⟩, ?_⟩
    have hpositive := List.length_pos_iff.2 hnames
    rw [Bool.or_eq_true, beq_iff_eq]
    exact hdepth.imp_right fun hshort => by omega

/-- For a file that a batch finds its test decides. -/
theorem Reaches.selects_iff (h : Reaches tree choices path) (htree : tree.WellFormed) :
    Selects tree choices path ↔ isSource path = true := by
  obtain ⟨files, hscan, hmem⟩ := h.mem_scan htree
  constructor
  · rintro ⟨files', -, hplan⟩
    exact (mem_inputs_plan.1 hplan).2
  · intro hsource
    exact ⟨files, hscan, mem_inputs_plan.2 ⟨hmem, hsource⟩⟩

/-! ### Where the two differ -/

/-- With nothing before an extension the point at its start is the only one, so a name cannot be both
hidden and divided at another point. -/
theorem differ_iff {name : Text} :
    ¬ ((∃ stem extension, name = stem ++ '.' :: extension ∧ IsCobolSpelling extension) ↔
        ∃ stem extension, stem ≠ [] ∧ name = stem ++ '.' :: extension ∧
          IsCobolSpelling extension) ↔
      ∃ extension, name = '.' :: extension ∧ IsCobolSpelling extension := by
  constructor
  · intro hdiffer
    by_contra hnot
    apply hdiffer
    constructor
    · rintro ⟨stem, extension, rfl, hspelling⟩
      refine ⟨stem, extension, ?_, rfl, hspelling⟩
      rintro rfl
      exact hnot ⟨extension, rfl, hspelling⟩
    · rintro ⟨stem, extension, -, hname, hspelling⟩
      exact ⟨stem, extension, hname, hspelling⟩
  · rintro ⟨extension, rfl, hspelling⟩ hsame
    obtain ⟨stem, other, hstem, heq, -⟩ := hsame.1 ⟨[], extension, rfl, hspelling⟩
    obtain ⟨c, stem, rfl⟩ := List.exists_cons_of_ne_nil hstem
    have hpoint : '.' ∈ extension := by simp [(List.cons.inj heq).2]
    exact point_not_mem_of_isCobolExtension (isCobolExtension_iff.2 hspelling) hpoint

/-- **Two tests of COBOL files**: a path that ends in a file name belongs to a COBOL file if the name
is anything with an extension of COBOL files, in small or capital letters. A batch that reaches the
file has a job for it if there is something before the extension. So the two differ exactly on names
that are hidden and nothing but an extension. -/
theorem source_tests_differ_iff_hidden {path : Path} {name : Text} (hname : Path.IsFileName name)
    (hlast : (Path.pieces path).getLast? = some name) :
    (isCobolName path = true ↔
      ∃ stem extension, name = stem ++ '.' :: extension ∧ IsCobolSpelling extension) ∧
    ∀ (tree : FileTree) (choices : BatchChoices), tree.WellFormed → Reaches tree choices path →
      (Selects tree choices path ↔
        ∃ stem extension, stem ≠ [] ∧ name = stem ++ '.' :: extension ∧
          IsCobolSpelling extension) ∧
      (¬ (isCobolName path = true ↔ Selects tree choices path) ↔
        ∃ extension, name = '.' :: extension ∧ IsCobolSpelling extension) := by
  obtain ⟨directory, rfl⟩ := Path.exists_eq_join hname hlast
  have hcobol : isCobolName (Path.join directory name) = true ↔
      ∃ stem extension, name = stem ++ '.' :: extension ∧ IsCobolSpelling extension := by
    rw [Path.isCobolName_join hname, isCobolName_iff]
    simp only [isCobolExtension_iff]
  refine ⟨hcobol, ?_⟩
  intro tree choices htree hreaches
  have hselects : Selects tree choices (Path.join directory name) ↔
      ∃ stem extension, stem ≠ [] ∧ name = stem ++ '.' :: extension ∧
        IsCobolSpelling extension := by
    rw [hreaches.selects_iff htree, isSource_iff (Path.fileName?_join hname directory)]
    simp only [isCobolExtension_iff]
  refine ⟨hselects, ?_⟩
  rw [hcobol, hselects]
  exact differ_iff

/-- Of two files in a directory with a point in its name, a batch takes the one that is not hidden. -/
theorem source_tests_differ_iff_hidden_capitals :
    let choices : BatchChoices := { input := "v1.2".toList }
    let tree : FileTree :=
      { entries := [(["v1.2".toList], .directory), (["v1.2".toList, ".CbL".toList], .text []),
          (["v1.2".toList, "a.b.CbL".toList], .text [])] }
    tree.WellFormed ∧ isCobolName "v1.2/.CbL".toList = true ∧
      Reaches tree choices "v1.2/.CbL".toList ∧ ¬ Selects tree choices "v1.2/.CbL".toList ∧
      Reaches tree choices "v1.2/a.b.CbL".toList ∧ Selects tree choices "v1.2/a.b.CbL".toList := by
  intro choices tree
  have htree : tree.WellFormed := by decide
  have hspelling : IsCobolSpelling "CbL".toList := isCobolExtension_iff.1 (by decide)
  have hhidden : Reaches tree choices "v1.2/.CbL".toList :=
    ⟨["v1.2".toList], [".CbL".toList], .text [], by decide, by decide, rfl, by decide, by decide⟩
  have hplain : Reaches tree choices "v1.2/a.b.CbL".toList :=
    ⟨["v1.2".toList], ["a.b.CbL".toList], .text [], by decide, by decide, rfl, by decide, by decide⟩
  obtain ⟨hcobol, hbatch⟩ :=
    @source_tests_differ_iff_hidden "v1.2/.CbL".toList ".CbL".toList (by decide) (by decide)
  obtain ⟨-, hbatch'⟩ :=
    @source_tests_differ_iff_hidden "v1.2/a.b.CbL".toList "a.b.CbL".toList (by decide) (by decide)
  have hname := hcobol.2 ⟨[], "CbL".toList, by decide, hspelling⟩
  have hdiffer := (hbatch tree choices htree hhidden).2.2 ⟨"CbL".toList, by decide, hspelling⟩
  have hselects := (hbatch' tree choices htree hplain).1.2
    ⟨"a.b".toList, "CbL".toList, by decide, by decide, hspelling⟩
  refine ⟨htree, hname, hhidden, ?_, hplain, hselects⟩
  intro hboth
  exact hdiffer ⟨fun _ => hboth, fun _ => hname⟩

end Batch

end CobolSubset

import CobolSubset.Proofs.BatchRun
import CobolSubset.Proofs.OutputPaths
import CobolSubset.Proofs.TreeEdits

/-!
# Sources of a batch

A scan gives the files of a directory by the names that lead to them. In a well-formed tree these
names lead to the files also as paths (`WellFormed.locate_filePath`), no file is found twice
(`WellFormed.nodup_scan`), and what the batch takes as a source is a COBOL file
(`isCobolName_of_isSource`).

When no COBOL file was written, the sources read as before (`Edits.read_eq`), and another scan leads
to the same plan (`Edits.exists_plan_eq`), whatever else has been written below the directory.
-/

namespace CobolSubset

namespace FileTree

open CobolSubset.Path

variable {tree : FileTree} {base path : Path} {location : Location} {entry : Entry}
  {files : List (List Text)}

/-! ### Paths of files -/

theorem locate_join {name : Text} (hname : IsFileName name) (h : tree.locate base = .ok location)
    (hdirectory : tree.get? location = some .directory) :
    tree.locate (join base name) = .ok (location ++ [name]) := by
  obtain ⟨hbase, hfollow⟩ := locate_eq_ok_iff.1 h
  have hpieces : pieces name = [name] := pieces_of_slash_not_mem hname.2
  rcases join_cases hname.not_isAbsolute base with ⟨hnil, -⟩ | ⟨-, front, rfl | rfl, hjoin⟩
  · exact absurd hnil hbase
  · rw [hjoin, locate_eq_ok_iff, start_append hbase, pieces_append, hpieces,
      follow_concat_eq_ok_iff]
    exact ⟨by simp, location, hfollow, hdirectory, (turn_of_isFileName hname).symm⟩
  · -- The empty piece behind the slash leads nowhere else.
    rw [pieces_append] at hfollow
    obtain ⟨directory, hfront, -, hsame⟩ := follow_concat_eq_ok_iff.1 hfollow
    have hlocation : location = directory := hsame
    have hstart : tree.start (front ++ '/' :: name) = tree.start (front ++ ['/']) := by
      rw [← List.singleton_append, ← List.append_assoc, start_append hbase]
    rw [← hlocation] at hfront
    rw [hjoin, locate_eq_ok_iff, hstart, pieces_append, hpieces, follow_concat_eq_ok_iff]
    exact ⟨by simp, location, hfront, hdirectory, (turn_of_isFileName hname).symm⟩

/-- The path of a file that was found leads to it. -/
theorem WellFormed.locate_filePath (h : tree.WellFormed) (hlocate : tree.locate path = .ok location)
    {list : List Text} (hentry : tree.get? (location ++ list) = some entry) :
    tree.locate (Batch.filePath path list) = .ok (location ++ list) := by
  induction list using List.reverseRecOn generalizing entry with
  | nil =>
      rw [List.append_nil]
      exact hlocate
  | append_singleton list name ih =>
      rw [← List.append_assoc] at hentry ⊢
      have hdirectory := h.parent_of_get? hentry
      rw [List.dropLast_concat] at hdirectory
      have hname : IsFileName name := h.isFileName_of_get? hentry name (by simp)
      have hpath : Batch.filePath path (list ++ [name]) = join (Batch.filePath path list) name :=
        List.foldl_append
      rw [hpath]
      exact locate_join hname (ih hdirectory) hdirectory

theorem getLast?_of_locate {name : Text} (h : tree.locate path = .ok location)
    (hname : path.fileName? = some name) : location.getLast? = some name := by
  obtain ⟨front, hnames, hup⟩ := exists_names_of_fileName? hname
  have hturn : ∀ above, turn above name = above ++ [name] :=
    fun above => turn_of_isFileName (isFileName_of_fileName? hname)
  rw [location_of_locate h, foldl_turn_names, hnames, List.foldl_append, List.foldl_cons,
    List.foldl_nil, hturn, List.getLast?_concat]

/-- What a batch takes as a source is a COBOL file. -/
theorem isCobolName_of_isSource (h : tree.locate path = .ok location)
    (hsource : Batch.isSource path = true) : location.getLast?.any isCobolName = true := by
  obtain ⟨extension, hextension, hcobol⟩ := (Option.any_eq_true _ _).1 hsource
  obtain ⟨name, hname, hcut⟩ := Option.bind_eq_some_iff.1 hextension
  rw [getLast?_of_locate h hname]
  apply isCobolName_of_cutExtension
  rw [hcut]
  exact hcobol

/-! ### Scans -/

/-- A file below a location is given by the names behind it. -/
theorem drop_eq_some_iff {other : Location} {list : List Text} :
    (if entry.isFile && location.isPrefixOf other then some (other.drop location.length) else none) =
        some list ↔
      entry.isFile = true ∧ other = location ++ list := by
  rw [Option.ite_none_right_eq_some, Bool.and_eq_true, List.isPrefixOf_iff_prefix, and_assoc,
    Option.some.injEq]
  refine and_congr_right fun _ => ?_
  constructor
  · rintro ⟨⟨rest, rfl⟩, hdrop⟩
    rw [← hdrop, List.drop_left]
  · rintro rfl
    exact ⟨List.prefix_append _ _, List.drop_left⟩

theorem mem_filesBelow {list : List Text} :
    list ∈ tree.filesBelow location ↔
      ∃ entry, entry.isFile = true ∧ (location ++ list, entry) ∈ tree.entries := by
  unfold filesBelow
  rw [List.mem_filterMap]
  constructor
  · rintro ⟨⟨other, entry⟩, hmem, hsome⟩
    obtain ⟨hfile, rfl⟩ := drop_eq_some_iff.1 hsome
    exact ⟨entry, hfile, hmem⟩
  · rintro ⟨entry, hfile, hmem⟩
    exact ⟨_, hmem, drop_eq_some_iff.2 ⟨hfile, rfl⟩⟩

theorem scan_directory (hlocate : tree.locate path = .ok location)
    (hdirectory : tree.get? location = some .directory) (recursive : Bool) :
    tree.scan path recursive =
      .ok ((tree.filesBelow location).filter fun names => recursive || names.length == 1) := by
  unfold scan
  rw [hlocate]
  simp only [bind, Except.bind, hdirectory]

theorem scan_file (hlocate : tree.locate path = .ok location)
    (hentry : tree.get? location = some entry) (hfile : entry.isFile = true) (recursive : Bool) :
    tree.scan path recursive = .ok [[]] := by
  unfold scan
  rw [hlocate]
  simp only [bind, Except.bind, hentry]
  cases entry with
  | directory => cases hfile
  | text content => rfl
  | bytes content => rfl

theorem scan_cases {recursive : Bool} (h : tree.scan path recursive = .ok files) :
    ∃ location, tree.locate path = .ok location ∧
      (tree.get? location = some .directory ∧
          files = (tree.filesBelow location).filter (fun names => recursive || names.length == 1) ∨
        ∃ entry, tree.get? location = some entry ∧ entry.isFile = true ∧ files = [[]]) := by
  obtain ⟨location, hlocate, hentry⟩ := bind_eq_ok_iff.1 h
  refine ⟨location, hlocate, ?_⟩
  cases hget : tree.get? location with
  | none =>
      rw [hget] at hentry
      cases hentry
  | some entry =>
      by_cases hfile : entry.isFile = true
      · rw [scan_file hlocate hget hfile] at h
        cases h
        exact .inr ⟨entry, rfl, hfile, rfl⟩
      · have hdirectory : entry = .directory := by
          cases entry <;> simp_all [Entry.isFile]
        subst hdirectory
        rw [scan_directory hlocate hget] at h
        cases h
        exact .inl ⟨rfl, rfl⟩

variable {recursive : Bool}

/-- A file that was found is there, under its path. -/
theorem WellFormed.of_mem_scan (h : tree.WellFormed) (hscan : tree.scan path recursive = .ok files)
    {list : List Text} (hmem : list ∈ files) :
    ∃ location entry, tree.locate (Batch.filePath path list) = .ok location ∧
      tree.get? location = some entry ∧ entry.isFile = true ∧ ∀ name ∈ list, IsFileName name := by
  obtain ⟨location, hlocate, ⟨-, rfl⟩ | ⟨entry, hentry, hfile, rfl⟩⟩ := scan_cases hscan
  · obtain ⟨entry, hfile, hmem⟩ := mem_filesBelow.1 (List.mem_of_mem_filter hmem)
    have hentry := h.get?_of_mem hmem
    refine ⟨_, entry, h.locate_filePath hlocate hentry, hentry, hfile, ?_⟩
    intro name hname
    exact h.isFileName_of_get? hentry name (List.mem_append_right _ hname)
  · rw [List.mem_singleton.1 hmem]
    refine ⟨location, entry, hlocate, hentry, hfile, ?_⟩
    intro name hname
    cases hname

theorem WellFormed.nodup_scan (h : tree.WellFormed)
    (hscan : tree.scan path recursive = .ok files) : files.Nodup := by
  obtain ⟨location, -, ⟨-, rfl⟩ | ⟨-, -, -, rfl⟩⟩ := scan_cases hscan
  · apply List.Nodup.filter
    unfold filesBelow
    have hkeys : tree.entries.Pairwise fun a b => a.1 ≠ b.1 := List.pairwise_map.1 h.nodup
    apply List.pairwise_filterMap.2
    apply hkeys.imp
    rintro ⟨a, entry⟩ ⟨b, entry'⟩ hne names hnames names' hnames' rfl
    exact hne ((drop_eq_some_iff.1 hnames).2.trans (drop_eq_some_iff.1 hnames').2.symm)
  · exact List.nodup_singleton _

/-! ### After edits -/

theorem filter_filterMap_filter {α β : Type} {g : α → Option β} {p : α → Bool} {q : β → Bool}
    {list : List α} (h : ∀ a ∈ list, ∀ b, g a = some b → q b = true → p a = true) :
    ((list.filter p).filterMap g).filter q = (list.filterMap g).filter q := by
  induction list with
  | nil => rfl
  | cons a list ih =>
      rw [List.forall_mem_cons] at h
      have hrest := ih h.2
      cases hp : p a with
      | true =>
          rw [List.filter_cons_of_pos hp]
          cases hg : g a with
          | none => rw [List.filterMap_cons_none hg, List.filterMap_cons_none hg, hrest]
          | some b =>
              rw [List.filterMap_cons_some hg, List.filterMap_cons_some hg, List.filter_cons,
                List.filter_cons, hrest]
      | false =>
          rw [List.filter_cons_of_neg (by simp [hp])]
          cases hg : g a with
          | none => rw [List.filterMap_cons_none hg, hrest]
          | some b =>
              have hq : ¬ q b = true := by
                intro hq
                rw [h.1 b hg hq] at hp
                cases hp
              rw [List.filterMap_cons_some hg, List.filter_cons_of_neg hq, hrest]

/-- The sources below a directory are all among the COBOL files. -/
theorem WellFormed.filter_filesBelow (h : tree.WellFormed) (hlocate : tree.locate path = .ok location)
    (wanted : List Text → Bool) :
    ((FileTree.mk [] tree.cobolFiles).filesBelow location).filter
        (fun names => Batch.isSource (Batch.filePath path names) && wanted names) =
      (tree.filesBelow location).filter
        (fun names => Batch.isSource (Batch.filePath path names) && wanted names) := by
  unfold filesBelow cobolFiles
  apply filter_filterMap_filter
  rintro ⟨other, entry⟩ hmem names hsome hwanted
  obtain ⟨hfile, rfl⟩ := drop_eq_some_iff.1 hsome
  have hpath := h.locate_filePath hlocate (h.get?_of_mem hmem)
  have hname := isCobolName_of_isSource hpath (Bool.and_eq_true_iff.1 hwanted).1
  exact Bool.and_eq_true_iff.2 ⟨hfile, hname⟩

section Edited

variable {made : Path → Prop} {written : Path → Text → Prop} {after : FileTree}
  (hedits : Edits made written tree after) (htree : tree.WellFormed)
  (hplain : ∀ path content, written path content →
    (pieces path).getLast?.any isCobolName = false)
include hedits htree hplain

/-- COBOL files keep their content. -/
theorem Edits.get?_cobolFile (hentry : tree.get? location = some entry) (hfile : entry.isFile = true)
    (hname : location.getLast?.any isCobolName = true) : after.get? location = some entry := by
  apply (hedits.wellFormed htree).get?_of_mem_cobolFiles
  rw [hedits.cobolFiles_eq hplain]
  exact mem_cobolFiles hentry hfile hname

/-- A source reads as before. -/
theorem Edits.read_eq (hlocate : tree.locate path = .ok location)
    (hentry : tree.get? location = some entry) (hfile : entry.isFile = true)
    (hsource : Batch.isSource path = true) : after.read path = tree.read path := by
  have hname := isCobolName_of_isSource hlocate hsource
  apply read_congr hlocate (hedits.grows.locate hlocate)
  rw [hentry]
  exact hedits.get?_cobolFile htree hplain hentry hfile hname

/-- Another scan leads to the same plan. -/
theorem Edits.exists_plan_eq {choices : BatchChoices}
    (hscan : tree.scan choices.input choices.recursive = .ok files) :
    ∃ files', after.scan choices.input choices.recursive = .ok files' ∧
      Batch.plan choices files' = Batch.plan choices files := by
  obtain ⟨location, hlocate, hcases⟩ := scan_cases hscan
  have hafter := hedits.grows.locate hlocate
  rcases hcases with ⟨hdirectory, rfl⟩ | ⟨entry, hentry, hfile, rfl⟩
  · have hdirectory' := hedits.grows.directories _ hdirectory
    refine ⟨_, scan_directory hafter hdirectory' _, ?_⟩
    unfold Batch.plan
    rw [List.filter_filter, List.filter_filter, ← htree.filter_filesBelow hlocate,
      ← (hedits.wellFormed htree).filter_filesBelow hafter, hedits.cobolFiles_eq hplain]
  · -- A file may have been written, but it is still a file.
    obtain ⟨entry', hentry', hfile'⟩ :
        ∃ entry', after.get? location = some entry' ∧ entry'.isFile = true := by
      rcases hedits.get?_cases location with hsame | ⟨hnone, -⟩ | ⟨-, content, -, -, htext⟩
      · exact ⟨entry, hsame.trans hentry, hfile⟩
      · rw [hentry] at hnone
        cases hnone
      · exact ⟨.text content, htext, rfl⟩
    exact ⟨_, scan_file hafter hentry' hfile' _, rfl⟩

end Edited

end FileTree

end CobolSubset

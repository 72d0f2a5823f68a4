import CobolSubset.Files.SourceName
import CobolSubset.Proofs.PathLookup

/-!
# What happens to a tree of files

A command changes a tree by making directories and writing files, one after the other. `Edits` is
the relation between the tree before and the tree after. It says under which paths directories were
made, and what was written under which paths, but not how often or in which order.

All laws about changed trees are seen by induction on it. Directories stay (`Edits.grows`). A
location is as it was, or a directory was made there where nothing had been, or a file was written
there (`Edits.get?_cases`). Where no COBOL file was written, the COBOL files are the same as before
and still come in the same order (`Edits.cobolFiles_eq`).
-/

namespace CobolSubset.FileTree

variable {tree tree' : FileTree} {path : Path} {location : Location} {entry : Entry}
  {entries : List (Location × Entry)}

/-! ### Lists of entries -/

theorem mem_of_get?_eq_some (hlocation : location ≠ []) (h : tree.get? location = some entry) :
    (location, entry) ∈ tree.entries := by
  unfold get? at h
  rw [if_neg (by simpa using hlocation)] at h
  obtain ⟨found, hfind, rfl⟩ := Option.map_eq_some_iff.1 h
  have hkey : found.1 = location := by simpa using List.find?_some hfind
  rw [← hkey]
  exact List.mem_of_find?_eq_some hfind

theorem get?_ne_none_of_mem (h : (location, entry) ∈ tree.entries) : tree.get? location ≠ none := by
  unfold get?
  split
  · exact Option.some_ne_none _
  · intro hnone
    have hnot := List.find?_eq_none.1 (Option.map_eq_none_iff.1 hnone) _ h
    exact hnot (beq_self_eq_true location)

theorem mem_of_mem_insert {found : Location × Entry} (h : found ∈ insert location entry entries) :
    found = (location, entry) ∨ found ∈ entries := by
  induction entries with
  | nil => exact .inl (List.mem_singleton.1 h)
  | cons head rest ih =>
      obtain ⟨key, old⟩ := head
      unfold insert at h
      split at h
      · rcases List.mem_cons.1 h with h | h
        · exact .inl h
        · exact .inr (List.mem_cons_of_mem _ h)
      · rcases List.mem_cons.1 h with h | h
        · exact .inr (h ▸ List.mem_cons_self)
        · exact (ih h).imp_right (List.mem_cons_of_mem _)

/-- An entry at a location takes the place of another one there. -/
theorem nodup_map_fst_insert (h : (entries.map Prod.fst).Nodup) :
    ((insert location entry entries).map Prod.fst).Nodup := by
  induction entries with
  | nil => exact List.nodup_singleton _
  | cons head rest ih =>
      obtain ⟨key, old⟩ := head
      obtain ⟨hkey, hrest⟩ := List.nodup_cons.1 h
      unfold insert
      split
      · next heq =>
          subst heq
          exact h
      · next hne =>
          refine List.nodup_cons.2 ⟨?_, ih hrest⟩
          intro hmem
          obtain ⟨found, hfound, hfst⟩ := List.mem_map.1 hmem
          rcases mem_of_mem_insert hfound with rfl | hfound
          · exact hne hfst.symm
          · exact hkey (List.mem_map.2 ⟨found, hfound, hfst⟩)

/-- A list of entries looks the same through a filter that lets neither the new entry pass nor the
one that it replaces. -/
theorem filter_insert {p : Location × Entry → Bool} (hnew : p (location, entry) = false)
    (hold : ∀ old, (location, old) ∈ entries → p (location, old) = false) :
    (insert location entry entries).filter p = entries.filter p := by
  induction entries with
  | nil => simp [insert, hnew]
  | cons head rest ih =>
      obtain ⟨key, old⟩ := head
      unfold insert
      split
      · next heq =>
          subst heq
          simp [hnew, hold old List.mem_cons_self]
      · rw [List.filter_cons, List.filter_cons, ih]
        intro other hother
        exact hold other (List.mem_cons_of_mem _ hother)

/-! ### Well-formed trees -/

/-- A tree as a file system has it: no two entries at one location, names that files can have, and
every entry in a directory. -/
@[mk_iff]
structure WellFormed (tree : FileTree) : Prop where
  nodup : (tree.entries.map Prod.fst).Nodup
  ne_nil : ∀ entry ∈ tree.entries, entry.1 ≠ []
  isFileName : ∀ entry ∈ tree.entries, ∀ name ∈ entry.1, Path.IsFileName name
  parent : ∀ entry ∈ tree.entries, tree.get? entry.1.dropLast = some .directory

instance (tree : FileTree) : Decidable tree.WellFormed :=
  decidable_of_iff _ (wellFormed_iff tree).symm

namespace WellFormed

variable (h : tree.WellFormed)
include h

theorem get?_of_mem (hmem : (location, entry) ∈ tree.entries) : tree.get? location = some entry := by
  obtain ⟨found, hfound⟩ := Option.ne_none_iff_exists'.1 (get?_ne_none_of_mem hmem)
  have hmem' := mem_of_get?_eq_some (h.ne_nil _ hmem) hfound
  have hsame := List.inj_on_of_nodup_map h.nodup hmem hmem' rfl
  rw [hfound, (Prod.mk.inj hsame).2]

theorem isFileName_of_get? (hentry : tree.get? location = some entry) :
    ∀ name ∈ location, Path.IsFileName name := by
  rcases eq_or_ne location [] with rfl | hne
  · intro name hname
    cases hname
  · exact h.isFileName _ (mem_of_get?_eq_some hne hentry)

/-- Every entry stands in a directory. -/
theorem parent_of_get? (hentry : tree.get? location = some entry) :
    tree.get? location.dropLast = some .directory := by
  rcases eq_or_ne location [] with rfl | hne
  · rfl
  · exact h.parent _ (mem_of_get?_eq_some hne hentry)

/-- A new entry under a name in a directory keeps the tree well formed, unless it replaces a
directory. -/
theorem put (hnames : Names tree path location) (hfree : tree.get? location ≠ some .directory) :
    (tree.put location entry).WellFormed where
  nodup := nodup_map_fst_insert h.nodup
  ne_nil := by
    intro found hfound
    rcases mem_of_mem_insert hfound with rfl | hfound
    · exact hnames.ne_nil
    · exact h.ne_nil found hfound
  isFileName := by
    intro found hfound
    rcases mem_of_mem_insert hfound with rfl | hfound
    · obtain ⟨-, name, directory, -, hname, -, hdirectory, rfl⟩ := hnames
      intro other hother
      rcases List.mem_append.1 hother with hother | hother
      · exact h.isFileName_of_get? hdirectory other hother
      · exact List.mem_singleton.1 hother ▸ hname
    · exact h.isFileName found hfound
  parent := by
    intro found hfound
    rw [get?_put _ hnames.ne_nil]
    rcases mem_of_mem_insert hfound with rfl | hfound
    · obtain ⟨-, name, directory, -, -, -, hdirectory, rfl⟩ := hnames
      rw [List.dropLast_concat, if_neg]
      · exact hdirectory
      · exact fun heq => List.cons_ne_nil _ _ (List.self_eq_append_right.1 heq)
    · have hparent := h.parent found hfound
      rw [if_neg]
      · exact hparent
      · rintro heq
        exact hfree (heq ▸ hparent)

end WellFormed

/-! ### COBOL files -/

/-- Whether an entry is a file with the name of a COBOL file. -/
def isCobolFile (entry : Location × Entry) : Bool :=
  entry.2.isFile && entry.1.getLast?.any isCobolName

/-- The COBOL files, wherever they are. -/
def cobolFiles (tree : FileTree) : List (Location × Entry) := tree.entries.filter isCobolFile

theorem mem_cobolFiles (h : tree.get? location = some entry) (hfile : entry.isFile = true)
    (hname : location.getLast?.any isCobolName = true) : (location, entry) ∈ tree.cobolFiles := by
  refine List.mem_filter.2 ⟨mem_of_get?_eq_some ?_ h, ?_⟩
  · rintro rfl
    cases hname
  · exact Bool.and_eq_true_iff.2 ⟨hfile, hname⟩

theorem WellFormed.get?_of_mem_cobolFiles (h : tree.WellFormed)
    (hmem : (location, entry) ∈ tree.cobolFiles) : tree.get? location = some entry :=
  h.get?_of_mem (List.mem_of_mem_filter hmem)

theorem Names.getLast?_eq (h : Names tree path location) :
    location.getLast? = (Path.pieces path).getLast? := by
  obtain ⟨front, name, directory, hpieces, -, -, -, rfl⟩ := h
  rw [hpieces, List.getLast?_concat, List.getLast?_concat]

/-! ### Edits -/

/-- From the first tree one comes to another by making directories under some paths, where nothing
was, and writing files under some paths, where no directory was. -/
inductive Edits (made : Path → Prop) (written : Path → Text → Prop) (first : FileTree) :
    FileTree → Prop
  | none : Edits made written first first
  | make {tree : FileTree} {path : Path} {location : Location} :
      Edits made written first tree → made path → Names tree path location →
      tree.get? location = none → Edits made written first (tree.put location .directory)
  | write {tree : FileTree} {path : Path} {location : Location} {content : Text} :
      Edits made written first tree → written path content → Names tree path location →
      tree.get? location ≠ some .directory →
      Edits made written first (tree.put location (.text content))

namespace Edits

variable {made made' : Path → Prop} {written written' : Path → Text → Prop} {first last : FileTree}

theorem mono (h : Edits made written first tree) (hmade : ∀ path, made path → made' path)
    (hwritten : ∀ path content, written path content → written' path content) :
    Edits made' written' first tree := by
  induction h with
  | none => exact .none
  | make _ hpath hnames hfree ih => exact ih.make (hmade _ hpath) hnames hfree
  | write _ hpath hnames hfree ih => exact ih.write (hwritten _ _ hpath) hnames hfree

/-- Edits can be made one after the other. -/
theorem trans (h : Edits made written first tree) (h' : Edits made written tree last) :
    Edits made written first last := by
  induction h' with
  | none => exact h
  | make _ hpath hnames hfree ih => exact ih.make hpath hnames hfree
  | write _ hpath hnames hfree ih => exact ih.write hpath hnames hfree

/-- Edits never take a directory away. -/
theorem grows (h : Edits made written first tree) : Grows first tree := by
  induction h with
  | none => exact .refl _
  | make _ _ hnames hfree ih => exact ih.put hnames (by simp [hfree])
  | write _ _ hnames hfree ih => exact ih.put hnames hfree

/-- Edits keep a tree well formed. -/
theorem wellFormed (h : Edits made written first tree) (hfirst : first.WellFormed) :
    tree.WellFormed := by
  induction h with
  | none => exact hfirst
  | make _ _ hnames hfree ih => exact ih.put hnames (by simp [hfree])
  | write _ _ hnames hfree ih => exact ih.put hnames hfree

/-- What can have become of a location: it is as it was, or a directory was made there where nothing
had been, or it was written last with the content that it has. -/
def Became (made : Path → Prop) (written : Path → Text → Prop) (first tree : FileTree)
    (location : Location) : Prop :=
  tree.get? location = first.get? location ∨
    (first.get? location = .none ∧ tree.get? location = some .directory ∧
      ∃ path, made path ∧ Names tree path location) ∨
    ∃ path content, written path content ∧ Names tree path location ∧
      tree.get? location = some (.text content)

/-- Nothing becomes of a location when an entry is put elsewhere. -/
theorem Became.put {place : Location} (h : Became made written first tree location)
    (hnames : Names tree path place) (hfree : tree.get? place ≠ some .directory)
    (hplace : location ≠ place) : Became made written first (tree.put place entry) location := by
  have hgrows : Grows tree (tree.put place entry) := (Grows.refl tree).put hnames hfree
  unfold Became
  rw [get?_put _ hnames.ne_nil, if_neg hplace]
  rcases h with hsame | ⟨hnone, hdirectory, path', hpath', hnames'⟩ |
    ⟨path', content, hpath', hnames', htext⟩
  · exact .inl hsame
  · exact .inr (.inl ⟨hnone, hdirectory, path', hpath', hgrows.names hnames'⟩)
  · exact .inr (.inr ⟨path', content, hpath', hgrows.names hnames', htext⟩)

/-- There are three things that edits can make of a location. The induction is on the edits. -/
theorem get?_cases (h : Edits made written first tree) (location : Location) :
    Became made written first tree location := by
  induction h with
  | none => exact .inl rfl
  | @make tree path place _ hpath hnames hfree ih =>
      have hdirectory : tree.get? place ≠ some .directory := by simp [hfree]
      by_cases hplace : location = place
      · subst hplace
        refine .inr (.inl ⟨?_, ?_, path, hpath, ?_⟩)
        · -- What is not there now was not there before.
          rcases ih with hsame | ⟨hnone, -⟩ | ⟨-, content, -, -, htext⟩
          · rw [← hsame, hfree]
          · exact hnone
          · rw [hfree] at htext
            cases htext
        · rw [get?_put _ hnames.ne_nil, if_pos rfl]
        · exact ((Grows.refl tree).put hnames hdirectory).names hnames
      · exact ih.put hnames hdirectory hplace
  | @write tree path place content _ hpath hnames hfree ih =>
      by_cases hplace : location = place
      · subst hplace
        refine .inr (.inr ⟨path, content, hpath, ?_, ?_⟩)
        · exact ((Grows.refl tree).put hnames hfree).names hnames
        · rw [get?_put _ hnames.ne_nil, if_pos rfl]
      · exact ih.put hnames hfree hplace

/-- COBOL files stay where they are and as they are, unless one of them was written. -/
theorem cobolFiles_eq (h : Edits made written first tree)
    (hplain : ∀ path content, written path content →
      (Path.pieces path).getLast?.any isCobolName = false) :
    tree.cobolFiles = first.cobolFiles := by
  induction h with
  | none => rfl
  | make _ _ hnames hfree ih =>
      rw [← ih]
      apply filter_insert
      · rfl
      · intro old hold
        exact absurd hfree (get?_ne_none_of_mem hold)
  | write _ hpath hnames _ ih =>
      have hplace := hplain _ _ hpath
      rw [← hnames.getLast?_eq] at hplace
      rw [← ih]
      apply filter_insert
      · simp [isCobolFile, hplace]
      · intro old hold
        simp [isCobolFile, hplace]

end Edits

end CobolSubset.FileTree

import EventTracking.Proofs.PathComponents
import EventTracking.Proofs.Walks

/-!
# Loading a directory of sources

Sources are found by a walk. If everything in a file tree can be looked at and all names are texts,
the walk finds exactly the source files beneath the directory, in the order of the names that lead
there. So what is loaded does not depend on how the walk is made, but only on which files there are.

The order is that of names, one after the other, and not that of the texts of the paths: `a/b.rs`
comes before `a.rs`.

Main statements: the source files beneath a directory are all found (`mem_sourceFiles`), in order
(`pairwise_sourceFiles`), and each of them is loaded or warned of (`forall₂_readAt`).
-/

namespace EventTracking

open Code Text

/-! ## Source files -/

/-- Everything in a file tree can be looked at: the file system refuses nothing that it is asked for,
and all names are texts. -/
structure FileTree.IsReadable (tree : FileTree) : Prop where
  /-- Nothing that is asked for is refused. -/
  refusal? : ∀ request path, tree.system.refusal? request path = none
  /-- All names are texts. -/
  texts : ∀ found ∈ tree.entries, ∀ name ∈ found.1, (name.text?).isSome = true

/-- What is no text is not found. -/
theorem FileTree.IsReadable.exists_text {tree : FileTree} (h : tree.IsReadable)
    {front names : Place} {entry : FileEntry} (hget : tree.get? (front ++ names) = some entry) :
    ∃ texts : List String, names = texts.map Encoded.text := by
  have htexts : ∀ name ∈ names, (name.text?).isSome = true := fun name hname =>
    h.texts _ (FileTree.mem_entries_iff.2 hget) name (List.mem_append_right _ hname)
  refine ⟨names.map Encoded.shown, ?_⟩
  rw [List.map_map]
  refine (List.map_id names).symm.trans (List.map_congr_left fun name hname => ?_)
  have hname := htexts name hname
  cases name with
  | text value => rfl
  | bytes value => cases hname

variable {tree : FileTree} {root : String}

/-- What is not ignored neither begins with a dot nor is called `target`. -/
theorem isHidden_text_eq_false_iff {name : String} :
    isHidden name = false ↔ name.toList.head? ≠ some '.' ∧ name ≠ "target" := by
  rw [isHidden, Bool.or_eq_false_iff, decide_eq_false_iff_not, decide_eq_false_iff_not]
  rfl

/-- A source file stands beneath a directory: it is a file, its name has the extension `rs`, and
none of the names that lead to it from the directory is ignored. -/
structure IsSourceAt (tree : FileTree) (root : String) (names : List String) (content : Encoded) :
    Prop where
  /-- The file stands there. -/
  stands : ∃ place, tree.locate? root = some place ∧
    tree.get? (place ++ names.map Encoded.text) = some (.file content)
  /-- Its name has the extension. -/
  extension : ∃ directories stem, stem ≠ "" ∧ names = directories ++ [stem ++ ".rs"]
  /-- No name is ignored. -/
  shown : ∀ name ∈ names, name.toList.head? ≠ some '.' ∧ name ≠ "target"

/-- Some name leads to a source file. -/
theorem IsSourceAt.ne_nil {names : List String} {content : Encoded}
    (h : IsSourceAt tree root names content) : names ≠ [] := by
  obtain ⟨directories, stem, -, rfl⟩ := h.extension
  exact List.concat_ne_nil _ _

/-- The names that lead to a source file are plain. -/
theorem IsSourceAt.isPlain (h : tree.IsWellFormed) {names : List String} {content : Encoded}
    (hsource : IsSourceAt tree root names content) : ∀ name ∈ names, Path.IsPlain name := by
  obtain ⟨place, -, hget⟩ := hsource.stands
  intro name hname
  exact Encoded.isPlain_text.1 (h.plain _ (FileTree.mem_entries_iff.2 hget) name
    (List.mem_append_right _ (List.mem_map_of_mem hname)))

/-- A walk has come across a source file if the name of the file has the extension. -/
theorem isSource_file_iff {names : List String} :
    isSource (names.map Encoded.text, .file) = true ↔
      ∃ directories stem, stem ≠ "" ∧ names = directories ++ [stem ++ ".rs"] := by
  have hlast : isSource (names.map Encoded.text, .file) =
      names.getLast?.any Path.isSourceName := by
    rw [isSource]
    dsimp only
    rw [List.getLast?_map, Option.any_map]
    rfl
  rw [hlast]
  simp only [Option.any_eq_true, List.getLast?_eq_some_iff, Path.isSourceName_iff]
  constructor
  · rintro ⟨name, ⟨directories, hnames⟩, stem, hstem, rfl⟩
    exact ⟨directories, stem, hstem, hnames⟩
  · rintro ⟨directories, stem, hstem, hnames⟩
    exact ⟨_, ⟨directories, hnames⟩, stem, hstem, rfl⟩

/-- What a walk finds of the sources are the source files beneath the directory. -/
theorem mem_sourcesIn (h : tree.IsWellFormed) (hreadable : tree.IsReadable) {names : Place}
    {found : FileTree.Found} :
    (names, found) ∈ sourcesIn tree root ↔
      found = .file ∧ ∃ texts content, names = texts.map Encoded.text ∧
        IsSourceAt tree root texts content := by
  have hkept (texts : List String) :
      (∀ name ∈ texts.map Encoded.text, (!isHidden name) = true) ↔
        ∀ name ∈ texts, name.toList.head? ≠ some '.' ∧ name ≠ "target" := by
    rw [List.forall_mem_map]
    refine forall₂_congr fun name _ => ?_
    rw [Bool.not_eq_true', isHidden_text_eq_false_iff]
  rw [sourcesIn]
  cases hroot : tree.locate? root with
  | none =>
      constructor
      · intro hmem
        cases hmem
      · rintro ⟨-, texts, content, -, ⟨place, hplace, -⟩, -, -⟩
        rw [hroot] at hplace
        cases hplace
  | some place =>
      dsimp only
      rw [List.mem_filter, FileTree.mem_walk h fun path => hreadable.refusal? .list path]
      constructor
      · rintro ⟨⟨rfl, -, -, hkeep, content, hget⟩, hsource⟩
        obtain ⟨texts, rfl⟩ := hreadable.exists_text hget
        exact ⟨rfl, texts, content, rfl, ⟨place, hroot, hget⟩, isSource_file_iff.1 hsource,
          (hkept texts).1 hkeep⟩
      · rintro ⟨rfl, texts, content, rfl, hsource⟩
        obtain ⟨other, hother, hget⟩ := hsource.stands
        obtain rfl : place = other := Option.some.inj (hroot.symm.trans hother)
        have hheight := FileTree.length_le_height (FileTree.mem_entries_iff.2 hget)
        rw [List.length_append] at hheight
        refine ⟨⟨rfl, ?_, by omega, (hkept texts).2 hsource.shown, content, hget⟩,
          isSource_file_iff.2 hsource.extension⟩
        exact fun hnil => hsource.ne_nil (List.map_eq_nil_iff.1 hnil)

/-- What a walk finds of the sources comes in the order of the names. -/
theorem pairwise_sourcesIn (tree : FileTree) (root : Encoded) :
    (sourcesIn tree root).Pairwise fun a b => a.1 < b.1 := by
  unfold sourcesIn
  split
  · exact .nil
  · exact (FileTree.pairwise_walk tree _ _ _ _).filter _

/-- The source file that a walk has come across beneath a place, with what it holds. -/
def sourceAt? (tree : FileTree) (root : String) (found : Place × FileTree.Found) :
    Option (List String × Encoded) :=
  match (tree.locate? root).bind fun place => tree.get? (place ++ found.1) with
  | some (.file content) => some (found.1.map Encoded.shown, content)
  | _ => none

/-- A source file is found where it stands. -/
theorem sourceAt?_of_isSourceAt {names : List String} {content : Encoded} {kind : FileTree.Found}
    (h : IsSourceAt tree root names content) :
    sourceAt? tree root (names.map Encoded.text, kind) = some (names, content) := by
  obtain ⟨place, hplace, hget⟩ := h.stands
  have hnames : (names.map Encoded.text).map Encoded.shown = names := by
    rw [List.map_map]
    exact List.map_id names
  rw [sourceAt?, hplace, Option.bind_some, hget]
  dsimp only
  rw [hnames]

/-- The source files beneath a directory, by the names that lead there, with what they hold. -/
def sourceFiles (tree : FileTree) (root : String) : List (List String × Encoded) :=
  (sourcesIn tree root).filterMap (sourceAt? tree root)

/-- The source files beneath a directory are all found, and nothing else is. -/
theorem mem_sourceFiles (h : tree.IsWellFormed) (hreadable : tree.IsReadable)
    {names : List String} {content : Encoded} :
    (names, content) ∈ sourceFiles tree root ↔ IsSourceAt tree root names content := by
  rw [sourceFiles, List.mem_filterMap]
  constructor
  · rintro ⟨⟨below, kind⟩, hfound, hsource⟩
    obtain ⟨rfl, texts, held, rfl, hat⟩ := (mem_sourcesIn h hreadable).1 hfound
    rw [sourceAt?_of_isSourceAt hat] at hsource
    obtain ⟨rfl, rfl⟩ := Prod.mk.inj (Option.some.inj hsource)
    exact hat
  · intro hsource
    exact ⟨(names.map Encoded.text, .file),
      (mem_sourcesIn h hreadable).2 ⟨rfl, names, content, rfl, hsource⟩,
      sourceAt?_of_isSourceAt hsource⟩

/-- Names in order are in order as bytes. -/
theorem lt_of_map_text_lt {names others : List String}
    (h : names.map Encoded.text < others.map Encoded.text) : names < others := by
  induction names generalizing others with
  | nil =>
      cases others with
      | nil => exact absurd h (List.lt_irrefl _)
      | cons name rest => exact List.nil_lt_cons _ _
  | cons first rest ih =>
      cases others with
      | nil => exact absurd h (List.not_lt_nil _)
      | cons name more =>
          rcases List.cons_lt_cons_iff.1 h with hlt | ⟨heq, hlt⟩
          · exact List.cons_lt_cons_iff.2 (.inl (Encoded.text_lt_text.1 hlt))
          · exact List.cons_lt_cons_iff.2 (.inr ⟨Encoded.text.inj heq, ih hlt⟩)

/-- The source files are found in the order of their names. -/
theorem pairwise_sourceFiles (h : tree.IsWellFormed) (hreadable : tree.IsReadable) :
    (sourceFiles tree root).Pairwise fun a b => a.1 < b.1 := by
  refine List.pairwise_filterMap.2 ((pairwise_sourcesIn tree root).imp_of_mem ?_)
  rintro ⟨below, kind⟩ ⟨next, other⟩ hfirst hsecond hlt source hsource following hfollowing
  obtain ⟨-, texts, held, rfl, hat⟩ := (mem_sourcesIn h hreadable).1 hfirst
  obtain ⟨-, more, content, rfl, hmore⟩ := (mem_sourcesIn h hreadable).1 hsecond
  rw [sourceAt?_of_isSourceAt hat] at hsource
  rw [sourceAt?_of_isSourceAt hmore] at hfollowing
  rw [← Option.some.inj hsource, ← Option.some.inj hfollowing]
  exact lt_of_map_text_lt hlt

/-! ## What is read -/

/-- Whether a source file can be read and makes sense. -/
def canLoad (source : List String × Encoded) : Bool :=
  match source.2.text? with
  | none => false
  | some text => (Outline.ofSource text).isOk

/-- A file has been loaded from a source file below a directory. -/
structure IsLoadedFrom (root : String) (source : List String × Encoded) (file : File) : Prop where
  /-- The file has the path of the source file. -/
  path : file.path = Path.pathBelow root source.1
  /-- The file defines the module that its path stands for. -/
  place : file.place = Path.moduleFor root file.path
  /-- The file holds what the text of the source file makes. -/
  outline : ∃ text, source.2.text? = some text ∧ Outline.ofSource text = .ok file.outline

/-- A diagnostic warns that a source file below a directory is left out. -/
structure IsLeftOutBy (root : String) (source : List String × Encoded) (warning : Diagnostic) :
    Prop where
  /-- The diagnostic is a warning. -/
  severity : warning.severity = .warning
  /-- The diagnostic belongs to loading. -/
  step : warning.step = .loadSources
  /-- The diagnostic says which file is left out: it is no text, or its text makes no sense. -/
  message : (source.2.text? = none ∧ warning.message =
      "cannot read `" ++ Path.pathBelow root source.1 ++
        "`: stream did not contain valid UTF-8, skipping") ∨
    ∃ text fault, source.2.text? = some text ∧ Outline.ofSource text = .error fault ∧
      warning.message =
        "cannot parse `" ++ Path.pathBelow root source.1 ++ "`: " ++ fault.message ++ ", skipping"

/-- Reading a source file, once its content is known. -/
def readAt (root : String) (source : List String × Encoded) : Except Diagnostic File :=
  let path := Path.pathBelow root source.1
  match source.2.text? with
  | none =>
    .error (.general .warning .loadSources
      ("cannot read `" ++ path ++ "`: " ++ FileTree.Failure.notText.message ++ ", skipping"))
  | some text =>
    match Outline.ofSource text with
    | .error fault =>
      .error (.located .warning .loadSources
        ("cannot parse `" ++ path ++ "`: " ++ fault.message ++ ", skipping") path fault.line)
    | .ok outline => .ok ⟨path, Path.moduleFor root path, outline⟩

/-- A source file that can be loaded is. -/
theorem readAt_of_canLoad (root : String) {source : List String × Encoded}
    (h : canLoad source = true) :
    ∃ file, readAt root source = .ok file ∧ IsLoadedFrom root source file := by
  unfold canLoad at h
  unfold readAt
  cases htext : source.2.text? with
  | none =>
      rw [htext] at h
      cases h
  | some text =>
      rw [htext] at h
      dsimp only at h ⊢
      cases houtline : Outline.ofSource text with
      | error fault =>
          rw [houtline] at h
          cases h
      | ok outline => exact ⟨_, rfl, rfl, rfl, text, htext, houtline⟩

/-- A source file that cannot be loaded is warned of. -/
theorem readAt_of_not_canLoad (root : String) {source : List String × Encoded}
    (h : canLoad source = false) :
    ∃ warning, readAt root source = .error warning ∧ IsLeftOutBy root source warning := by
  unfold canLoad at h
  unfold readAt
  cases htext : source.2.text? with
  | none =>
      have hreason : "`: " ++ (FileTree.Failure.notText.message ++ ", skipping") =
          "`: stream did not contain valid UTF-8, skipping" := by decide
      refine ⟨_, rfl, rfl, rfl, .inl ⟨htext, ?_⟩⟩
      rw [← hreason, ← String.append_assoc, ← String.append_assoc]
      rfl
  | some text =>
      rw [htext] at h
      dsimp only at h ⊢
      cases houtline : Outline.ofSource text with
      | error fault => exact ⟨_, rfl, rfl, rfl, .inr ⟨text, fault, htext, houtline, rfl⟩⟩
      | ok outline =>
          rw [houtline] at h
          cases h

/-- Each of the source files in a list is loaded or warned of, in order. -/
theorem forall₂_readAt (root : String) (sources : List (List String × Encoded)) :
    List.Forall₂ (IsLoadedFrom root) (sources.filter canLoad)
        ((sources.map (readAt root)).filterMap Except.toOption) ∧
      List.Forall₂ (IsLeftOutBy root) (sources.filter (!canLoad ·))
        ((sources.map (readAt root)).filterMap warning?) := by
  induction sources with
  | nil => exact ⟨.nil, .nil⟩
  | cons first rest ih =>
      obtain ⟨hfiles, hwarnings⟩ := ih
      rw [List.map_cons]
      cases hload : canLoad first with
      | true =>
          obtain ⟨file, hread, hfile⟩ := readAt_of_canLoad root hload
          rw [hread, List.filter_cons_of_pos hload, List.filter_cons_of_neg (by simp [hload])]
          exact ⟨.cons hfile hfiles, hwarnings⟩
      | false =>
          obtain ⟨warning, hread, hwarning⟩ := readAt_of_not_canLoad root hload
          rw [hread, List.filter_cons_of_neg (by simp [hload]),
            List.filter_cons_of_pos (by simp [hload])]
          exact ⟨hfiles, .cons hwarning hwarnings⟩

/-- A source file is read where it stands. -/
theorem readFound_of_isSourceAt (h : tree.IsWellFormed) (hreadable : tree.IsReadable)
    {names : List String} {content : Encoded} (hsource : IsSourceAt tree root names content) :
    readFound tree root (names.map Encoded.text, .file) = readAt root (names, content) := by
  obtain ⟨place, hplace, hget⟩ := hsource.stands
  have hlocate : tree.locate? (Path.pathBelow root names) =
      some (place ++ names.map Encoded.text) := by
    rw [← Path.pathBelow_text]
    exact FileTree.locate?_pathBelow h hplace hget fun hnil =>
      hsource.ne_nil (List.map_eq_nil_iff.1 hnil)
  have hread := FileTree.readText_of_get? (hreadable.refusal? .read _) hlocate hget
  rw [readFound]
  dsimp only
  rw [Path.pathBelow_text, readSource, hread, readAt]
  dsimp only
  cases content.text? with
  | none => rfl
  | some text => rfl

/-- Loading a directory loads or warns of the source files in it. -/
theorem loadProject_eq (h : tree.IsWellFormed) (hreadable : tree.IsReadable)
    (hroot : tree.isDirectory root = true) :
    loadProject tree root =
      ⟨⟨((sourceFiles tree root).map (readAt root)).filterMap Except.toOption⟩,
        ((sourceFiles tree root).map (readAt root)).filterMap warning?⟩ := by
  have hread : readSources tree root = (sourceFiles tree root).map (readAt root) := by
    rw [readSources, sourceFiles, List.map_filterMap, ← List.filterMap_eq_map]
    refine List.filterMap_congr fun found hfound => ?_
    obtain ⟨below, kind⟩ := found
    obtain ⟨rfl, texts, content, rfl, hsource⟩ := (mem_sourcesIn h hreadable).1 hfound
    rw [sourceAt?_of_isSourceAt hsource, Option.map_some, Function.comp,
      readFound_of_isSourceAt h hreadable hsource]
  rw [loadProject, if_pos hroot, hread]

/-- Files that have been loaded from source files have their paths. -/
theorem map_path_of_forall₂ {sources : List (List String × Encoded)} {files : List File}
    (h : List.Forall₂ (IsLoadedFrom root) sources files) :
    files.map File.path = sources.map fun source => Path.pathBelow root source.1 := by
  induction h with
  | nil => rfl
  | cons hfirst _ ih => rw [List.map_cons, List.map_cons, hfirst.path, ih]

/-- Loading is complete and in order. There is a list of exactly the source files beneath the
directory, in strictly increasing order of the components of their paths. Those that can be read and
make sense are loaded, one for one and in that order, each with the module that its path stands for.
Each of the others has one warning, again in that order, and nothing else is told. -/
theorem loads_sources (hwell : tree.IsWellFormed) (hreadable : tree.IsReadable)
    (hroot : tree.isDirectory root = true) :
    ∃ sources : List (List String × Encoded),
      (∀ names content, (names, content) ∈ sources ↔ IsSourceAt tree root names content) ∧
      (sources.Pairwise fun a b =>
        Path.texts (Path.pathBelow root a.1) < Path.texts (Path.pathBelow root b.1)) ∧
      List.Forall₂ (IsLoadedFrom root) (sources.filter canLoad)
        (loadProject tree root).project.files ∧
      List.Forall₂ (IsLeftOutBy root) (sources.filter (!canLoad ·))
        (loadProject tree root).warnings ∧
      (loadProject tree root).project.files.Pairwise fun a b =>
        Path.texts a.path < Path.texts b.path := by
  have hmem (names : List String) (content : Encoded) :
      (names, content) ∈ sourceFiles tree root ↔ IsSourceAt tree root names content :=
    mem_sourceFiles hwell hreadable
  have hsorted : (sourceFiles tree root).Pairwise fun a b =>
      Path.texts (Path.pathBelow root a.1) < Path.texts (Path.pathBelow root b.1) := by
    obtain ⟨place, hplace, -⟩ := FileTree.exists_of_isDirectory hroot
    have hne : root.toList ≠ [] := Encoded.ne_nil_of_isEmpty (FileTree.isEmpty_of_locate? hplace)
    refine (pairwise_sourceFiles hwell hreadable).imp_of_mem ?_
    intro a b ha hb hlt
    exact Path.texts_pathBelow_lt hne (((hmem _ _).1 ha).isPlain hwell)
      (((hmem _ _).1 hb).isPlain hwell) hlt
  obtain ⟨hfiles, hwarnings⟩ := forall₂_readAt root (sourceFiles tree root)
  rw [loadProject_eq hwell hreadable hroot]
  refine ⟨sourceFiles tree root, hmem, hsorted, hfiles, hwarnings, ?_⟩
  rw [← List.pairwise_map (R := fun a b => Path.texts a < Path.texts b) (f := File.path),
    map_path_of_forall₂ hfiles]
  exact List.pairwise_map.2 (hsorted.filter _)

/-- A file tree in which a directory of sources holds files of every kind: two sources, one of which
makes no sense, a source in a directory, a text, and files that are ignored. -/
def mixedFiles : FileTree :=
  let sources := (FileTree.workspace "work").makeDirectory "src/a"
  let ignored := (sources.makeDirectory "src/target").makeDirectory "src/.git"
  (((((ignored.put ["work", "src", "a", "b.rs"] (.file (.text ""))).put
    ["work", "src", "a.rs"] (.file (.text "fn"))).put
    ["work", "src", "lib.rs"] (.file (.text "mod a;"))).put
    ["work", "src", "notes.txt"] (.file (.text "a"))).put
    ["work", "src", "target", "c.rs"] (.file (.text ""))).put
    ["work", "src", ".git", "d.rs"] (.file (.text ""))

/-- Loading that directory loads two files, the one in the directory first, and warns of one. -/
theorem loads_mixedFiles :
    mixedFiles.IsWellFormed ∧ mixedFiles.IsReadable ∧ mixedFiles.isDirectory "src" = true ∧
      (loadProject mixedFiles "src").project.files.map File.path = ["src/a/b.rs", "src/lib.rs"] ∧
      (loadProject mixedFiles "src").warnings.length = 1 ∧
      (loadProject mixedFiles "src").project.files.Pairwise fun a b =>
        Path.texts a.path < Path.texts b.path := by
  have hwell : mixedFiles.IsWellFormed := by decide +kernel
  have hreadable : mixedFiles.IsReadable := ⟨fun _ _ => rfl, by decide +kernel⟩
  have hroot : mixedFiles.isDirectory "src" = true := by decide +kernel
  obtain ⟨-, -, -, -, -, hsorted⟩ := loads_sources hwell hreadable hroot
  exact ⟨hwell, hreadable, hroot, by decide +kernel, by decide +kernel, hsorted⟩

end EventTracking

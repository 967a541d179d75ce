import EventTracking.Proofs.ArtifactReading
import EventTracking.Proofs.ParsedSources

/-!
# Readable artifacts

Almost every name in an artifact comes from a source that was read, so it was a name there and can
be written as one again. Two are not of this kind. The modules on the way to a file are named after
directories and files, whose names may be anything; and a field may be the word `_`, which has no
raw form. Where both can be written, the artifact is a file with one function, which is not marked.

Main statements: what is loaded and declared can be written (`isSpelled_of_mem_declarations`), and
so its artifact can be read (`readable_artifact`).
-/

namespace EventTracking

open Code Text

variable {tree : FileTree} {root : Encoded}

/-! ## Loaded files -/

/-- The module that a file defines is the crate's root or stands below it. -/
theorem Path.segments_moduleFor (root file : String) :
    (moduleFor root file).segments = "crate" :: (moduleFor root file).segments.tail := by
  rw [moduleFor]
  split
  · rfl
  · rename_i relative hbelow
    rw [moduleOf]
    split
    · rfl
    · dsimp only
      split <;> rfl

/-- A loaded file defines a module whose path begins at the crate. -/
theorem segments_place {file : File} (h : file ∈ (loadProject tree root).project.files) :
    file.place.segments = "crate" :: file.place.segments.tail := by
  rw [(exists_source_of_mem_files h).1]
  exact Path.segments_moduleFor root.shown file.path

/-! ## Groups -/

/-- A group that is declared in a loaded file can be written if the module of the file can be and no
field is a blank. -/
theorem isSpelled_of_mem_declarations {file : File} {declaration : Declaration}
    {group : EventGroup} (hfile : file ∈ (loadProject tree root).project.files)
    (hmem : declaration ∈ file.declarations (loadProject tree root).project.scope)
    (hgroup : declaration.toGroup = .ok group)
    (hnames : ∀ name ∈ file.place.segments.tail, IsWritable name)
    (hblank : ∀ event ∈ group.registry.events, "_" ∉ event.fields) : group.IsSpelled := by
  have hlisted : declaration ∈ (loadProject tree root).project.declarations :=
    List.mem_flatMap.2 ⟨file, hfile, hmem⟩
  have hfound : group ∈ (loadProject tree root).project.groups :=
    Project.mem_groups_iff.2 ⟨declaration, hlisted, hgroup⟩
  have hparsed := isParsed_loadProject tree root
  obtain ⟨placed, hplaced, hdescribe⟩ := List.mem_filterMap.1 hmem
  have hspelled := hparsed.isSpelled_of_mem_placed hfile hplaced
  obtain ⟨heligible, -, rfl⟩ := Declaration.toGroup_eq_ok_iff.1 hgroup
  obtain ⟨⟨word, hkind⟩, -⟩ := Declaration.ineligible?_eq_none_iff.1 heligible
  obtain ⟨attributes, name, generics, variants, hitem, hname⟩ :=
    PlacedItem.exists_enum_of_closed hdescribe hkind
  obtain ⟨-, -, -, hmembers⟩ := PlacedItem.eq_of_declaration?_enum hitem hdescribe
  have hspells := hspelled.item
  rw [hitem] at hspells
  -- the group stands in the module of the file, or in one inside it
  obtain ⟨names, hinside, hplace⟩ := hspelled.inside
  have hgroupSegments : declaration.group.name.segments =
      "crate" :: (file.place.segments.tail ++ names ++ [name.text]) := by
    rw [Declaration.group, hname, QualifiedName.segments_child, hinside, segments_place hfile,
      List.tail_cons, List.cons_append, List.cons_append]
  refine ⟨?_, ?_, ?_, ?_, ?_⟩
  · rw [hgroupSegments, List.tail_cons]
  · rw [hgroupSegments, List.tail_cons]
    exact List.append_ne_nil_of_right_ne_nil _ (List.cons_ne_nil _ _)
  · rw [hgroupSegments, List.tail_cons]
    exact List.forall_mem_append.2 ⟨List.forall_mem_append.2 ⟨hnames, hplace⟩,
      List.forall_mem_singleton.2 hspells.1⟩
  · intro event hevent
    obtain ⟨variant, -, heventName, hvariantName, hfields⟩ :=
      hparsed.exists_spelled_variant hfile hplaced hitem hdescribe hevent
    refine ⟨?_, ?_, suits_of_mem_events hfound hevent⟩
    · rw [heventName, QualifiedName.simple_child]
      exact hvariantName
    · intro field hfield
      rcases hfields field hfield with rfl | hok
      · exact absurd hfield (hblank event hevent)
      · exact hok
  · intro left hleft
    obtain ⟨member, hmember, rfl⟩ := List.mem_map.1 hleft
    have hmember' := (List.mem_filter.1 hmember).1
    rw [hmembers] at hmember'
    obtain ⟨variant, -, rfl⟩ := List.mem_map.1 hmember'
    rw [Variant.member, QualifiedName.simple_child]
    exact variant.name.isWord_text

/-- The artifact of a group that is declared in a loaded file, with the runtime library by its
default name, is a source file with one item, a function without the marker, if the names that lead
to the file can be written and no field is a blank. -/
theorem readable_artifact {file : File} {declaration : Declaration} {group : EventGroup}
    (hfile : file ∈ (loadProject tree root).project.files)
    (hmem : declaration ∈ file.declarations (loadProject tree root).project.scope)
    (hgroup : declaration.toGroup = .ok group)
    (hnames : ∀ name ∈ file.place.segments.tail, IsWritable name)
    (hblank : ∀ event ∈ group.registry.events, "_" ∉ event.fields) :
    ∃ (attributes : List Attribute) (name : Identifier),
      (∀ written ∈ attributes, written.isMarker = false) ∧
        Outline.ofSource (group.artifact defaultRuntime).contents =
          .ok ⟨[.named attributes .function name]⟩ := by
  have hspelled := isSpelled_of_mem_declarations hfile hmem hgroup hnames hblank
  obtain ⟨attributes, hattributes, hread⟩ := EventGroup.ofSource_contents hspelled
  exact ⟨attributes, _, hattributes, hread⟩

/-- A file tree with an enum whose variants have every form, in a file of a directory that is named
by a keyword. -/
def keywordFiles : FileTree :=
  (((FileTree.workspace "work").makeDirectory "src/loop").put
    ["work", "src", "loop", "events.rs"] (.file (.text
      "struct Seen \x7b at: u32, r#type: u8 \x7d
      #[auto_analytics_event]
      enum Screen<'a>
      \x7b Hidden, Shown \x7b name: &'a str, r#in: u8 \x7d, Seen(Seen), Left() \x7d")))

/-- The artifact of that enum is a file with one function. -/
theorem readable_artifact_of_keywordFiles :
    ∃ group ∈ (loadProject keywordFiles "src").project.groups,
      group.name.display = "crate::loop::events::Screen" ∧ group.registry.size = 4 ∧
        ∃ (attributes : List Attribute) (name : Identifier),
          (∀ written ∈ attributes, written.isMarker = false) ∧
            Outline.ofSource (group.artifact defaultRuntime).contents =
              .ok ⟨[.named attributes .function name]⟩ := by
  have hnames : ∀ file ∈ (loadProject keywordFiles "src").project.files,
      ∀ name ∈ file.place.segments.tail, IsWritable name := by decide +kernel
  have hblank : ∀ group ∈ (loadProject keywordFiles "src").project.groups,
      ∀ event ∈ group.registry.events, "_" ∉ event.fields := by decide +kernel
  obtain ⟨group, hgroup, hname, hsize⟩ :
      ∃ group ∈ (loadProject keywordFiles "src").project.groups,
        group.name.display = "crate::loop::events::Screen" ∧ group.registry.size = 4 := by
    decide +kernel
  obtain ⟨declaration, hlisted, hmade⟩ := Project.mem_groups_iff.1 hgroup
  obtain ⟨file, hfile, hmem⟩ := List.mem_flatMap.1 hlisted
  exact ⟨group, hgroup, hname, hsize,
    readable_artifact hfile hmem hmade (hnames file hfile) (hblank group hgroup)⟩

/-- A file tree with an enum in a file whose name is no word. -/
def hyphenFiles : FileTree :=
  (((FileTree.workspace "work").makeDirectory "src/bin").put
    ["work", "src", "bin", "my-tool.rs"] (.file (.text
      "#[auto_analytics_event]\nenum Event \x7b\n    Started,\n\x7d\n")))

/-- The group of that enum, in a module that is named after the file. -/
def hyphenGroup : EventGroup where
  name := ⟨["crate", "bin", "my-tool", "Event"]⟩
  lifetimes := 0
  location := ⟨"src/bin/my-tool.rs", 1⟩
  registry := ⟨[⟨⟨["crate", "bin", "my-tool", "Event", "Started"]⟩, .unit, []⟩]⟩
  excluded := []

/-- That group is discovered, and its artifact makes no sense. -/
theorem unreadable_artifact_of_hyphenFiles :
    (loadProject hyphenFiles "src").project.groups = [hyphenGroup] ∧
      (Outline.ofSource (hyphenGroup.artifact defaultRuntime).contents).isOk = false := by
  have hcontents : (hyphenGroup.artifact defaultRuntime).contents.toList =
      (hyphenGroup.lines (runtimeText defaultRuntime)).flatMap fun line => line.shown ++ ['\n'] :=
    Line.toList_render _
  refine ⟨by decide +kernel, ?_⟩
  -- the text is taken line by line, which the kernel evaluates sooner than the joined text
  rw [Outline.ofSource, hcontents]
  decide +kernel

end EventTracking

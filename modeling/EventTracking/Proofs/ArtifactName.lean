import EventTracking.Proofs.Discovery
import EventTracking.Proofs.Words
import EventTracking.Proofs.Writing

/-!
# Names of artifact files

An artifact is named after its group, whose simple name is a word of the source. So the artifact of
a discovered group always lies directly in the output directory.

Main statements: the file of a discovered group has a plain name (`isPlain_fileName`), and plain
names have different paths (`fileName_eq_of_path_eq`).
-/

namespace EventTracking

open Code Text

/-! ## Files of groups -/

/-- The file of a group that is named after a word has a plain name. -/
theorem isPlain_artifactFile {group : QualifiedName} (h : isWord group.simple.toList = true) :
    Path.IsPlain (artifactFile group) := by
  have htext : (artifactFile group).toList =
      fileStart.toList ++ (snakeName group).toList ++ ".rs".toList := by
    rw [artifactFile, String.toList_append, String.toList_append]
  have hsnake : '/' ∉ (snakeName group).toList :=
    notMem_snakeCase (by decide) (by decide) (notMem_of_isWord h (by decide) (by decide))
  have hlong : 3 ≤ (artifactFile group).toList.length := by
    rw [htext, List.length_append]
    exact Nat.le_add_left 3 _
  refine ⟨?_, ?_, ?_, ?_⟩
  · intro hn
    rw [hn] at hlong
    cases hlong
  · intro hn
    rw [hn] at hlong
    exact absurd hlong (by decide)
  · intro hn
    rw [hn] at hlong
    exact absurd hlong (by decide)
  · rw [htext, List.mem_append, List.mem_append, not_or, not_or]
    exact ⟨⟨by decide, hsnake⟩, by decide⟩

namespace EventGroup

/-- The name of the file that a group's artifact is written to. -/
def fileName (group : EventGroup) : String := artifactFile group.name

/-- The path of a group's artifact in an output directory. -/
def path (output : Encoded) (group : EventGroup) : Encoded := output.join group.fileName

/-- The file of a discovered group has a plain name. -/
theorem isPlain_fileName {project : Project} {group : EventGroup} (h : group ∈ project.groups) :
    Path.IsPlain group.fileName := by
  obtain ⟨identifier, hi⟩ := Project.exists_simple_eq_text h
  apply isPlain_artifactFile
  rw [hi]
  exact identifier.isWord_text

/-- Groups with plain file names have one path only if they have one file name. -/
theorem fileName_eq_of_path_eq {output : Encoded} {group other : EventGroup}
    (houtput : output.isEmpty = false) (hg : Path.IsPlain group.fileName)
    (ho : Path.IsPlain other.fileName) (h : group.path output = other.path output) :
    group.fileName = other.fileName :=
  Encoded.text.inj (Encoded.join_injective houtput (Encoded.isPlain_text.2 hg)
    (Encoded.isPlain_text.2 ho) h)

end EventGroup

end EventTracking

import Mathlib.Data.List.Forall2
import CodeAtlas.Proofs.Failures

/-!
# A tree is given by the depths of its nodes

The nodes of a tree, parents first, say by their depths alone which directory each of them lies in.

- `TreeNode.belowRoot`: the nodes below a root, each with its depth.
- `WalkEntry.Marks`: an entry of a walk that stands for a node at its depth.
- `flattened_iff`: the entries of some trees stand for their nodes, one by one.
- `assemble_belowRoot`: assembling gives back each tree whose nodes the entries stand for, and the
  tree of a scan is the only one for the entries of its walk.
-/

namespace CodeAtlas

namespace TreeNode

mutual

/-- The nodes of a tree that lies `d` steps below a root, parents first, each with its depth. -/
def withDepth (d : Nat) : TreeNode → List (Nat × TreeNode)
  | directory name children => (d, directory name children) :: withDepths (d + 1) children
  | file f => [(d, file f)]

def withDepths (d : Nat) : List TreeNode → List (Nat × TreeNode)
  | [] => []
  | first :: rest => withDepth d first ++ withDepths d rest

end

/-- The nodes below a root, parents first, each with its depth. -/
def belowRoot (t : TreeNode) : List (Nat × TreeNode) := withDepths 1 t.children

theorem files_directory (name : String) (children : List TreeNode) :
    (directory name children).files = fileLists children := by
  rw [files_eq_fileList, fileList]

end TreeNode

/-- An entry that stands for a node at its depth: for a directory of the same name, or for some
file. -/
inductive WalkEntry.Marks : WalkEntry → Nat × TreeNode → Prop where
  | directory (d : Nat) (name : Name) (children : List TreeNode) :
      Marks (.directory d name) (d, .directory (String.ofList name) children)
  | script (d : Nat) (source : ScriptFile) (f : FileNode) : Marks (.script d source) (d, .file f)

theorem exists_marks (p : Nat × TreeNode) : ∃ entry, WalkEntry.Marks entry p := by
  obtain ⟨d, t⟩ := p
  cases t with
  | directory name children =>
    refine ⟨.directory d name.toList, ?_⟩
    have hmarks := WalkEntry.Marks.directory d name.toList children
    rwa [String.ofList_toList] at hmarks
  | file f => exact ⟨.script d ⟨f.name.toList, ⟨[]⟩, f.language⟩, .script d _ f⟩

namespace Flattened

/-- Entries that a tree was flattened to stand for its nodes, one for each. -/
theorem marks {d : Nat} {trees : List TreeNode} {entries : List WalkEntry} {files : List FileNode}
    (h : Flattened d trees entries files) :
    List.Forall₂ WalkEntry.Marks entries (TreeNode.withDepths d trees) := by
  induction h with
  | nil d => exact .nil
  | file _ ih => exact .cons (.script _ _ _) ih
  | directory _ _ ihInner ih =>
    exact .cons (.directory _ _ _) (List.rel_append ihInner ih)

/-- The files of flattened trees are those of the trees, in their order. -/
theorem files_eq {d : Nat} {trees : List TreeNode} {entries : List WalkEntry}
    {files : List FileNode} (h : Flattened d trees entries files) :
    files = TreeNode.fileLists trees := by
  induction h with
  | nil d => rfl
  | file _ ih => rw [TreeNode.fileLists, TreeNode.fileList, List.singleton_append, ← ih]
  | directory _ _ ihInner ih => rw [TreeNode.fileLists, TreeNode.fileList, ← ihInner, ← ih]

end Flattened

/-- Entries that stand for some nodes and then for others part where the nodes do. -/
theorem exists_split_of_forall₂ {α β : Type} {R : α → β → Prop} {as : List α} {bs cs : List β}
    (h : List.Forall₂ R as (bs ++ cs)) :
    ∃ front back, as = front ++ back ∧ List.Forall₂ R front bs ∧ List.Forall₂ R back cs :=
  ⟨_, _, (List.take_append_drop bs.length as).symm, List.forall₂_take_append as bs cs h,
    List.forall₂_drop_append as bs cs h⟩

mutual

/-- The entries of one tree in front of those of others. -/
theorem flattened_cons {d : Nat} {trees : List TreeNode} {more : List WalkEntry}
    {files : List FileNode} (h : Flattened d trees more files) :
    ∀ (t : TreeNode) (entries : List WalkEntry),
      List.Forall₂ WalkEntry.Marks entries (t.withDepth d) →
        Flattened d (t :: trees) (entries ++ more) (t.fileList ++ files)
  | .directory name children, _, hmarks => by
    rw [TreeNode.withDepth] at hmarks
    cases hmarks with
    | cons hroot hinner =>
      cases hroot
      rw [TreeNode.fileList]
      exact .directory (flattened_of_marks (d + 1) children _ hinner) h
  | .file f, _, hmarks => by
    rw [TreeNode.withDepth] at hmarks
    cases hmarks with
    | cons hroot hnone =>
      cases hroot
      cases hnone
      exact .file h

/-- Entries that stand for the nodes of some trees are entries of these trees. -/
theorem flattened_of_marks (d : Nat) :
    ∀ (trees : List TreeNode) (entries : List WalkEntry),
      List.Forall₂ WalkEntry.Marks entries (TreeNode.withDepths d trees) →
        Flattened d trees entries (TreeNode.fileLists trees)
  | [], _, hmarks => by
    rw [TreeNode.withDepths, List.forall₂_nil_right_iff] at hmarks
    exact hmarks ▸ .nil d
  | first :: rest, _, hmarks => by
    rw [TreeNode.withDepths] at hmarks
    obtain ⟨front, back, rfl, hfirst, hrest⟩ := exists_split_of_forall₂ hmarks
    rw [TreeNode.fileLists]
    exact flattened_cons (flattened_of_marks d rest back hrest) first front hfirst

end

/-- The entries of some trees are those that stand for the nodes, one by one. -/
theorem flattened_iff {d : Nat} {trees : List TreeNode} {entries : List WalkEntry}
    {files : List FileNode} : Flattened d trees entries files ↔
      List.Forall₂ WalkEntry.Marks entries (TreeNode.withDepths d trees) ∧
        files = TreeNode.fileLists trees := by
  constructor
  · exact fun h => ⟨h.marks, h.files_eq⟩
  · rintro ⟨hmarks, rfl⟩
    exact flattened_of_marks d trees entries hmarks

/-- Assembling entries that stand for the nodes of a directory gives the directory back. -/
theorem assemble_of_marks {name : String} {children : List TreeNode} {entries : List WalkEntry}
    (h : List.Forall₂ WalkEntry.Marks entries (TreeNode.directory name children).belowRoot) :
    assemble name entries (TreeNode.directory name children).files = .directory name children := by
  rw [TreeNode.files_directory]
  exact assemble_of_flattened name (flattened_of_marks 1 children entries h)

/-- The entries of the walk of a scan stand for the nodes of its tree, and its files are the
scripts, read. -/
theorem Scanner.marks_of_scan {s : Scanner} {fs : FileSystem} (hfs : fs.WellFormed)
    {metadata : ScanMetadata} {map : ProjectMap} (h : s.scan fs metadata = .ok map) :
    ∃ children, map.tree = .directory (lastName s.rootPath) children ∧
      List.Forall₂ WalkEntry.Marks (s.walk fs).entries map.tree.belowRoot ∧
      map.tree.files
        = ((s.walk fs).entries.filterMap WalkEntry.script?).map (outlineFile fs s.config) := by
  rcases s.scan_cases fs metadata with ⟨e, -, herror⟩ |
    ⟨trail, hlocate, ⟨-, herror⟩ | ⟨-, herror⟩ | ⟨entries, hnode, hmap⟩⟩
  · simp [h] at herror
  · simp [h] at herror
  · simp [h] at herror
  · obtain ⟨children, -, hentries⟩ :=
      Walker.walk_lists (w := ⟨fs, s.filter, s.config.followSymlinks⟩) hfs hlocate hnode
    have hflattened := Layout.flattened_fillAll (outlineFile fs s.config) 1 children
    have htree : map.tree = .directory (lastName s.rootPath)
        (Layout.fillAll (outlineFile fs s.config) children) := by
      obtain rfl := Except.ok.inj (h.symm.trans hmap)
      rw [Survey.tree_toMap]
      exact Survey.tree_eq_projectTree hentries fs s.config
    have hwalk : (s.walk fs).entries = Layout.entriesAll 1 children := hentries
    refine ⟨_, htree, ?_, ?_⟩
    · rw [htree, hwalk]
      exact hflattened.marks
    · rw [htree, hwalk, TreeNode.files_directory, ← hflattened.files_eq, Layout.readAll]

/-- Assembling undoes flattening. Each tree has entries that stand for its nodes, and assembling
such entries gives the tree back, whatever the names of its nodes are. So the tree of a scan is the
only one whose nodes the entries of its walk stand for and whose files are the scripts, read. -/
theorem assemble_belowRoot :
    (∀ t : TreeNode, ∃ entries, List.Forall₂ WalkEntry.Marks entries t.belowRoot) ∧
    (∀ name children entries,
      List.Forall₂ WalkEntry.Marks entries (TreeNode.directory name children).belowRoot →
        assemble name entries (TreeNode.directory name children).files
          = .directory name children) ∧
    ∀ (fs : FileSystem) (s : Scanner) (metadata : ScanMetadata) (map : ProjectMap),
      fs.WellFormed → s.scan fs metadata = .ok map →
        ∀ t : TreeNode, t = map.tree ↔ (∃ children, t = .directory (lastName s.rootPath) children) ∧
          List.Forall₂ WalkEntry.Marks (s.walk fs).entries t.belowRoot ∧
          t.files
            = ((s.walk fs).entries.filterMap WalkEntry.script?).map (outlineFile fs s.config) := by
  refine ⟨fun t => ?_, fun name children entries h => assemble_of_marks h, ?_⟩
  · choose entry hentry using exists_marks
    refine ⟨t.belowRoot.map entry, ?_⟩
    rw [List.forall₂_map_left_iff, List.forall₂_same]
    exact fun p _ => hentry p
  · intro fs s metadata map hfs h t
    obtain ⟨children, htree, hmarks, hfiles⟩ := Scanner.marks_of_scan hfs h
    constructor
    · rintro rfl
      exact ⟨⟨children, htree⟩, hmarks, hfiles⟩
    · rintro ⟨⟨children', rfl⟩, hmarks', hfiles'⟩
      -- Both are what is assembled from the same entries and the same files.
      rw [← assemble_of_marks hmarks', hfiles', ← hfiles, htree]
      rw [htree] at hmarks
      exact assemble_of_marks hmarks

/-- Two directories of one name without files, a directory in the first of them, and a file. -/
def emptyDirectories : TreeNode :=
  .directory "r" [.directory "a" [.directory "b" []], .directory "a" [],
    .file ⟨"x.js", [], .javaScript, .parsed⟩]

def emptyDirectoryEntries : List WalkEntry :=
  [.directory 1 "a".toList, .directory 2 "b".toList, .directory 1 "a".toList,
    .script 1 ⟨"x.js".toList, ⟨"/r/x.js".toList⟩, .javaScript⟩]

/-- The second directory of the name closes two others at once. The walk of the small project has
entries that stand for the nodes of its tree. -/
theorem assemble_belowRoot_emptyDirectories :
    List.Forall₂ WalkEntry.Marks emptyDirectoryEntries emptyDirectories.belowRoot ∧
    assemble "r" emptyDirectoryEntries emptyDirectories.files = emptyDirectories ∧
    smallProject.WellFormed ∧ ∃ s map, Scanner.ofConfig smallProject [] strictSettings = .ok s ∧
      s.scan smallProject {} = .ok map ∧
      List.Forall₂ WalkEntry.Marks (s.walk smallProject).entries map.tree.belowRoot := by
  have hmarks : List.Forall₂ WalkEntry.Marks emptyDirectoryEntries emptyDirectories.belowRoot :=
    .cons (.directory 1 "a".toList _) <| .cons (.directory 2 "b".toList _) <|
      .cons (.directory 1 "a".toList _) <| .cons (.script 1 _ _) .nil
  have hscan : ∃ s map, Scanner.ofConfig smallProject [] strictSettings = .ok s ∧
      s.scan smallProject {} = .ok map := ⟨_, _, rfl, rfl⟩
  obtain ⟨s, map, hs, hmap⟩ := hscan
  have htree := (assemble_belowRoot.2.2 _ s _ map smallProject_wellFormed hmap map.tree).1 rfl
  exact ⟨hmarks, assemble_belowRoot.2.1 _ _ _ hmarks, smallProject_wellFormed, s, map, hs, hmap,
    htree.2.1⟩

end CodeAtlas

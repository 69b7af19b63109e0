import CodeAtlas.Scan.Assembly

/-!
# Assembly undoes flattening

- `Flattened`: the entries and the files of some trees, parents first.
- `Nest.placeAll_of_flattened`: what the entries of some trees do to the open directories.
- `assemble_of_flattened`: assembling the entries of some trees gives the trees back.
-/

namespace CodeAtlas

/-- `Flattened d trees entries files`: the nodes of `trees`, whose roots are `d` steps below the
root, are `entries` and their files `files`, parents first and from left to right. -/
inductive Flattened : Nat → List TreeNode → List WalkEntry → List FileNode → Prop where
  | nil (d : Nat) : Flattened d [] [] []
  | file {d : Nat} {f : FileNode} {source : ScriptFile} {trees : List TreeNode}
      {entries : List WalkEntry} {files : List FileNode} :
      Flattened d trees entries files →
        Flattened d (.file f :: trees) (.script d source :: entries) (f :: files)
  | directory {d : Nat} {name : Name} {children trees : List TreeNode}
      {inner entries : List WalkEntry} {innerFiles files : List FileNode} :
      Flattened (d + 1) children inner innerFiles → Flattened d trees entries files →
        Flattened d (.directory (String.ofList name) children :: trees)
          (.directory d name :: (inner ++ entries)) (innerFiles ++ files)

namespace Nest

def addAll (n : Nest) (trees : List TreeNode) : Nest :=
  { n with inner := { n.inner with children := trees.reverse ++ n.inner.children } }

@[simp] theorem addAll_nil (n : Nest) : n.addAll [] = n := rfl

@[simp] theorem depth_addAll (n : Nest) (trees : List TreeNode) :
    (n.addAll trees).depth = n.depth := rfl

@[simp] theorem depth_enter (n : Nest) (name : String) : (n.enter name).depth = n.depth + 1 := rfl

@[simp] theorem depth_addFile (n : Nest) (f : FileNode) : (n.addFile f).depth = n.depth := rfl

/-- Adding a file is adding it first among further children. -/
theorem addAll_addFile (n : Nest) (f : FileNode) (trees : List TreeNode) :
    (n.addFile f).addAll trees = n.addAll (.file f :: trees) := by
  simp [addAll, addFile, OpenDirectory.add]

/-- A directory that was entered, filled and closed is one child more. -/
theorem closeInner_addAll_enter (n : Nest) (name : String) (children trees : List TreeNode) :
    ((n.enter name).addAll children).closeInner.addAll trees
      = n.addAll (.directory name children :: trees) := by
  simp [addAll, enter, closeInner, OpenDirectory.add, OpenDirectory.close]

theorem depth_closeInner {n : Nest} (h : 1 < n.depth) : n.closeInner.depth = n.depth - 1 := by
  obtain ⟨inner, outer⟩ := n
  cases outer with
  | nil => simp [depth] at h
  | cons parent rest => simp [closeInner, depth]

theorem closeTimes_succ (k : Nat) (n : Nest) : closeTimes (k + 1) n = (closeTimes k n).closeInner := by
  induction k generalizing n with
  | zero => rfl
  | succ k ih => rw [closeTimes, ih, ← closeTimes]

/-- Closing directories takes them off one by one, as long as one is left. -/
theorem depth_closeTimes {k : Nat} {n : Nest} (h : k < n.depth) :
    (closeTimes k n).depth = n.depth - k := by
  induction k with
  | zero => rfl
  | succ k ih =>
    have hk : (closeTimes k n).depth = n.depth - k := ih (by omega)
    rw [closeTimes_succ, depth_closeInner (by omega), hk]
    omega

theorem closeTo_of_depth_le {n : Nest} {d : Nat} (h : n.depth ≤ d) : n.closeTo d = n := by
  have hzero : n.depth - d = 0 := by omega
  rw [closeTo, hzero, closeTimes]

/-- Closing down to a depth reaches exactly that depth. -/
theorem depth_closeTo {n : Nest} {d : Nat} (hd : 0 < d) (h : d ≤ n.depth) :
    (n.closeTo d).depth = d := by
  rw [closeTo, depth_closeTimes (by omega)]
  omega

/-- Closing down to some depth is closing down to the next one, and then once more. -/
theorem closeTo_eq_closeInner {n : Nest} {d : Nat} (h : d < n.depth) :
    n.closeTo d = (n.closeTo (d + 1)).closeInner := by
  have hsucc : n.depth - d = n.depth - (d + 1) + 1 := by omega
  rw [closeTo, hsucc, closeTimes_succ, closeTo]

/-! ## Placing entries -/

/-- Placing the entries of some trees adds the trees to the directory at their depth, up to
directories that are still open. What is placed after them finds that directory. -/
theorem placeAll_of_flattened {d : Nat} {trees : List TreeNode} {entries : List WalkEntry}
    {files : List FileNode} (h : Flattened d trees entries files) (hd : 0 < d) (n : Nest)
    (hn : d ≤ n.depth) :
    ∃ m : Nest, d ≤ m.depth ∧ m.closeTo d = (n.closeTo d).addAll trees ∧
      ∀ (moreEntries : List WalkEntry) (moreFiles : List FileNode),
        n.placeAll (files ++ moreFiles) (entries ++ moreEntries)
          = m.placeAll moreFiles moreEntries := by
  induction h generalizing n with
  | nil d => exact ⟨n, hn, rfl, fun _ _ => rfl⟩
  | @file d f source trees entries files _ ih =>
    -- The file goes into the directory at depth `d`, which stays the inner one.
    have hdepth : (n.closeTo d).depth = d := depth_closeTo hd hn
    obtain ⟨m, hm, hclose, hplace⟩ := ih hd ((n.closeTo d).addFile f) (by simp [hdepth])
    refine ⟨m, hm, ?_, fun moreEntries moreFiles => ?_⟩
    · rw [hclose, closeTo_of_depth_le (by simp [hdepth]), addAll_addFile]
    · rw [← hplace moreEntries moreFiles]
      rfl
  | @directory d name children trees inner entries innerFiles files _ _ ihInner ih =>
    -- The directory is entered and filled; the first entry behind it closes it.
    have hdepth : (n.closeTo d).depth = d := depth_closeTo hd hn
    obtain ⟨k, hk, hcloseInner, hplaceInner⟩ :=
      ihInner (by omega) ((n.closeTo d).enter (String.ofList name)) (by simp [hdepth])
    rw [closeTo_of_depth_le (n := (n.closeTo d).enter _) (by simp [hdepth])] at hcloseInner
    obtain ⟨m, hm, hclose, hplace⟩ := ih hd k (by omega)
    refine ⟨m, hm, ?_, fun moreEntries moreFiles => ?_⟩
    · rw [hclose, closeTo_eq_closeInner hk, hcloseInner, closeInner_addAll_enter]
    · rw [← hplace moreEntries moreFiles, ← hplaceInner, List.append_assoc, List.cons_append,
        List.append_assoc]
      rfl

end Nest

/-- Assembling the entries of some trees gives the trees back, below a root with the name given. -/
theorem assemble_of_flattened (rootName : String) {trees : List TreeNode}
    {entries : List WalkEntry} {files : List FileNode} (h : Flattened 1 trees entries files) :
    assemble rootName entries files = .directory rootName trees := by
  have hroot : (⟨⟨rootName, []⟩, []⟩ : Nest).depth = 1 := rfl
  obtain ⟨m, -, hclose, hplace⟩ := Nest.placeAll_of_flattened h (by omega) ⟨⟨rootName, []⟩, []⟩
    (by omega)
  -- Nothing is placed after the last tree, and the root is all that stays open.
  have hall := hplace [] []
  rw [List.append_nil, List.append_nil, Nest.placeAll] at hall
  rw [Nest.closeTo_of_depth_le (n := ⟨⟨rootName, []⟩, []⟩) (by omega)] at hclose
  rw [assemble, hall, Nest.finish, hclose]
  simp [Nest.addAll, OpenDirectory.close]

end CodeAtlas

import CodeAtlas.Ignore.Filter
import CodeAtlas.Proofs.Places

/-!
# The ignore file of a root

- `IgnoreFilter.ruleFile?`: what is read of the ignore file of a root.
- `IgnoreFilter.ruleFile?_of_directory`: if it is no link, the entries of the root tell.
- `IgnoreFilter.readGitignore_eq_ok`: the rules depend on nothing else.
-/

namespace CodeAtlas

/-- Reading a path gives the bytes at the place that it leads to. -/
theorem FileSystem.read_of_locate {fs : FileSystem} {current trail : Trail} {p : Path}
    (h : fs.locate current p = .ok trail) :
    (fs.read current p).toOption = (fs.node trail).bytes? := by
  cases hnode : fs.node trail <;>
    simp [FileSystem.read, h, hnode, bind, Except.bind, Except.toOption, FileTree.bytes?]

namespace IgnoreFilter

/-- What is read of the ignore file of a root, if there is one; it may be there and not be read. -/
def ruleFile? (fs : FileSystem) (root : Location) : Option (Option Bytes) :=
  if fs.hasPath [] (.ofLocation (root ++ [fileName])) then
    some (fs.read [] (.ofLocation (root ++ [fileName]))).toOption
  else none

theorem isProper_fileName : Name.IsProper fileName := by decide

/-- An ignore file that is no link is told by the entries of the directory. -/
theorem ruleFile?_of_directory {fs : FileSystem} {root : Location} {trail : Trail}
    {entries : List (Name × FileTree)} (hlocate : fs.locate [] (.ofLocation root) = .ok trail)
    (hnode : fs.node trail = .directory entries)
    (hsolid : ∀ target, FileTree.child? entries fileName ≠ some (.link target)) :
    ruleFile? fs root = (FileTree.child? entries fileName).map FileTree.bytes? := by
  cases hchild : FileTree.child? entries fileName with
  | none =>
    have hfree := FileSystem.stepPiece_of_no_child isProper_fileName hnode hchild
    have hfind := FileSystem.find_append isProper_fileName hlocate
      (FileSystem.followLinks_of_free hfree)
    have hmissing : fs.hasPath [] (.ofLocation (root ++ [fileName])) = false := by
      simp [FileSystem.hasPath, FileSystem.locate, hfind, Except.toOption]
    simp [ruleFile?, hmissing]
  | some t =>
    have ht : t.IsSolid := by
      cases t with
      | link target => exact absurd hchild (hsolid target)
      | _ => trivial
    have hstep := FileSystem.stepPiece_of_child? isProper_fileName hnode hchild ht
    have hthere := FileSystem.locate_append isProper_fileName hlocate hstep
    have hpath : fs.hasPath [] (.ofLocation (root ++ [fileName])) = true := by
      simp [FileSystem.hasPath, hthere, Except.toOption]
    rw [ruleFile?, if_pos hpath, FileSystem.read_of_locate hthere]
    rfl

/-- The rules of a root are those of what is read of its ignore file. -/
theorem readGitignore_eq_ok {fs : FileSystem} {root : Location} {g : Option Gitignore} :
    readGitignore fs root = .ok g ↔ (ruleFile? fs root = none ∧ g = none) ∨
      ∃ bytes rules, ruleFile? fs root = some (some bytes) ∧
        Gitignore.ofBytes root bytes = .ok rules ∧ g = some rules := by
  rw [readGitignore, ruleFile?]
  cases hpath : fs.hasPath [] (.ofLocation (root ++ [fileName])) with
  | false => simp [eq_comm]
  | true =>
    cases hread : fs.read [] (.ofLocation (root ++ [fileName])) with
    -- A file that is there and cannot be read is an error, whatever the reason is.
    | error e => cases e <;> simp [Except.toOption]
    | ok bytes =>
      cases hrules : Gitignore.ofBytes root bytes <;>
        simp [Except.toOption, hrules, eq_comm]

end IgnoreFilter

end CodeAtlas

import CodeAtlas.Proofs.Document
import CodeAtlas.Proofs.IgnoreLines
import CodeAtlas.Proofs.JoinedTables
import CodeAtlas.Proofs.Ladder
import CodeAtlas.Proofs.Rescan
import CodeAtlas.Proofs.Runs

/-!
# Running twice

A run that wrote its document can be run again, and writes the same document once more. The document
may lie in the project itself, where it was there before or not.

- `Arguments.Inconspicuous`: arguments whose output is not seen by the scan under its own name.
- `Arguments.Repeatable`: arguments whose output is not seen by the scan.
- `runCommand_again`: the second run.
- `runCommand_again_counterexample`: a second run where the file at the output has other names.
-/

namespace CodeAtlas

/-- Arguments with an output that the scan does not see under its own name: no link is followed,
neither by the scan nor at the end of a path, and the output has neither the name of a script nor that
of an ignore file. -/
structure Arguments.Inconspicuous (a : Arguments) (fs : FileSystem) (current : Trail) : Prop where
  linksNotFollowed : a.followSymlinks = false
  saved : a.output ≠ "-"
  noLink : ¬fs.NamesLink current (.ofString a.output)
  noIgnoreFile : (Path.ofString a.output).fileName? ≠ some IgnoreFilter.fileName
  noScript : ∀ extension, (Path.ofString a.output).extension? = some extension →
    String.ofList extension ∉ ["js", "jsx", "ts", "tsx"]
  ignoreFile : a.gitignore = true → ¬fs.NamesLink []
    (.ofLocation (a.config.root.resolve current.location ++ [IgnoreFilter.fileName]))

/-- The file at the output has no other name that the scan reads either. -/
structure Arguments.Repeatable (a : Arguments) (fs : FileSystem) (current : Trail) : Prop
    extends a.Inconspicuous fs current where
  otherNames : ∀ found root, fs.find current (.ofString a.output) = .ok found →
    fs.place? (.ofLocation (a.config.root.resolve current.location)) = some root →
      FileSystem.Unread root a.gitignore (fs.otherNames found.location)

namespace Arguments.Repeatable

variable {a : Arguments} {fs : FileSystem} {current : Trail}

/-- The name of the output is neither that of a script nor that of an ignore file. -/
theorem name (h : a.Repeatable fs current) {place : Trail} {name : Name}
    (hend : fs.EndsAt current (.ofString a.output) place name) :
    Language.ofFileName? name = none ∧ name ≠ IgnoreFilter.fileName := by
  have hname := hend.fileName?
  constructor
  · cases hlanguage : Language.ofFileName? name with
    | none => rfl
    | some language =>
      obtain ⟨extension, hextension, hof⟩ := Option.bind_eq_some_iff.1 hlanguage
      have houtput : (Path.ofString a.output).extension? = some extension := by
        rw [Path.extension?, hname, Option.bind_some, hextension]
      exact absurd (Language.mem_of_ofExtension? hof) (h.noScript extension houtput)
  · rintro rfl
    exact h.noIgnoreFile hname

/-- What is written to the output is not seen by a scan, can be read, and can be written again
without any change. -/
theorem written (h : a.Repeatable fs current) (hfs : fs.WellFormed) (hcurrent : fs.Leads current)
    {bytes : Bytes} {written : FileSystem}
    (hwrite : fs.write current (.ofString a.output) bytes = .ok written) :
    (∃ names, fs.WroteUnseen written names bytes ∧ ∀ root,
      fs.place? (.ofLocation (a.config.root.resolve current.location)) = some root →
        FileSystem.Unread root a.gitignore names) ∧
      ∀ here, fs.SamePlace written current here →
        written.read here (.ofString a.output) = .ok bytes ∧
          written.write here (.ofString a.output) bytes = .ok written := by
  obtain ⟨found, hopen, hfree, rfl⟩ := FileSystem.write_eq_ok_iff.1 hwrite
  have hfind := FileSystem.find_of_openPath hopen
  have hadmits := (FileSystem.find_reaches hcurrent hfind).admits hfree
  -- The file went to the name at the end of the path, since this is no link.
  have hslash := FileSystem.getLast?_pieces_of_openPath hopen hfree
  obtain ⟨place, name, hend, hlocation⟩ :=
    FileSystem.exists_endsAt hcurrent hfind hadmits hslash h.noLink
  obtain ⟨hscript, hignore⟩ := h.name hend
  have hothers := h.otherNames found
  rw [hlocation] at hadmits hothers ⊢
  have hunseen := FileSystem.wroteUnseen_allNames hfs hadmits hend.proper hscript bytes
  exact ⟨⟨_, hunseen, fun root hroot => (hothers root hfind hroot).cons hscript hignore⟩,
    fun here hhere => hunseen.wrote.again hend hhere hopen⟩

end Arguments.Repeatable

/-! ## Runs that write -/

end CodeAtlas

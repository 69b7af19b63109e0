import CodeAtlas.Proofs.TwoScans

/-!
# Strict and lenient scans

A lenient scan differs from a strict one only in scripts with errors, which it gives the symbols of
the reading by their own grammar.

- `DiffersByErrors`: how the strict and the lenient reading of a script may differ.
- `StrictlyLenient`: how the maps of a strict and of a lenient scan may differ.
- `scanProject_strict_lenient`: two scans whose settings differ only in this differ in this way.
-/

namespace CodeAtlas

/-- How the strict and the lenient reading of the script at a path may differ. Either they do not, or
the script has errors; then the symbols are those of the grammar of its own language, and never of
the second grammar that was tried. -/
inductive DiffersByErrors (fs : FileSystem) (lines : Bool) (path : Path) :
    FileNode → FileNode → Prop where
  | same {f : FileNode} :
      f.status = .parsed ∨ f.status = .unreadable ∨ f.status = .tooLarge →
        DiffersByErrors fs lines path f f
  | recovered {name : String} {language : Language} {bytes : Bytes} :
      fs.read [] path = .ok bytes →
        DiffersByErrors fs lines path ⟨name, [], language, .unparsable⟩
          ⟨name, (fileSymbols language lines (.ofList (decodeSource bytes))).symbols, language,
            .recovered⟩

namespace DiffersByErrors

variable {fs : FileSystem} {lines : Bool} {path : Path} {strict lenient : FileNode}

/-- A strict reading recovers nothing. -/
theorem strict_ne_recovered (h : DiffersByErrors fs lines path strict lenient) :
    strict.status ≠ .recovered := by
  cases h with
  | same hstatus => rcases hstatus with hstatus | hstatus | hstatus <;> simp [hstatus]
  | recovered => simp

/-- A lenient reading gives nothing up. -/
theorem lenient_ne_unparsable (h : DiffersByErrors fs lines path strict lenient) :
    lenient.status ≠ .unparsable := by
  cases h with
  | same hstatus => rcases hstatus with hstatus | hstatus | hstatus <;> simp [hstatus]
  | recovered => simp

/-- Lenience recovers exactly the scripts that strictness gives up. -/
theorem recovered_iff (h : DiffersByErrors fs lines path strict lenient) :
    lenient.status = .recovered ↔ strict.status = .unparsable := by
  cases h with
  | same hstatus => rcases hstatus with hstatus | hstatus | hstatus <;> simp [hstatus]
  | recovered => simp

/-- All other statuses are the same. -/
theorem status_iff (h : DiffersByErrors fs lines path strict lenient) {status : FileStatus}
    (hrecovered : status ≠ .recovered) (hunparsable : status ≠ .unparsable) :
    strict.status = status ↔ lenient.status = status := by
  cases h with
  | same hstatus => rfl
  | recovered => simp [hrecovered.symm, hunparsable.symm]

end DiffersByErrors

/-- The two readings of a file that is found at a path. -/
theorem outlineFile_differsByErrors {fs : FileSystem} {source : ScriptFile} {trail : Trail}
    (hlocate : fs.locate [] source.path = .ok trail) (c : ScanConfig) :
    DiffersByErrors fs c.lines source.path (outlineFile fs { c with lenient := false } source)
      (outlineFile fs { c with lenient := true } source) := by
  rw [outlineFile_eq, outlineFile_eq, readScript_eq_outline hlocate, readScript_eq_outline hlocate]
  rcases (fs.node trail).outline_cases c source.language with
    ⟨symbols, status, hstatus, houtline⟩ | ⟨bytes, hnode, houtline⟩
  · rw [houtline, houtline]
    exact .same hstatus
  · rw [houtline, houtline, if_pos rfl, if_neg Bool.false_ne_true]
    have hread : fs.read [] source.path = .ok bytes := by
      simp [FileSystem.read, hlocate, hnode, bind, Except.bind]
    dsimp only
    exact .recovered hread

/-- How the maps of a strict and of a lenient scan of a root may differ. -/
structure StrictlyLenient (fs : FileSystem) (lines : Bool) (root : Location)
    (strict lenient : ProjectMap) : Prop where
  /-- The directories, the files, their names, order and languages are the same. -/
  skeleton : strict.tree.skeleton = lenient.tree.skeleton
  nodes : List.Forall₂ (fun p q => p.1 = q.1 ∧
      DiffersByErrors fs lines (placePath root p.1) p.2 q.2)
    strict.tree.placed lenient.tree.placed
  strict_ne_recovered : ∀ f ∈ strict.tree.files, f.status ≠ .recovered
  lenient_ne_unparsable : ∀ f ∈ lenient.tree.files, f.status ≠ .unparsable
  recoveredFiles : lenient.stats.recoveredFiles = strict.stats.unparsableFiles
  parsedFiles : lenient.stats.parsedFiles = strict.stats.parsedFiles
  unreadableFiles : lenient.stats.unreadableFiles = strict.stats.unreadableFiles
  oversizedFiles : lenient.stats.oversizedFiles = strict.stats.oversizedFiles
  totalFiles : lenient.stats.totalFiles = strict.stats.totalFiles
  totalDirectories : lenient.stats.totalDirectories = strict.stats.totalDirectories
  walkErrors : lenient.stats.walkErrors = strict.stats.walkErrors

/-- Two scans whose settings differ only in leniency have the same outcome, and their maps differ only
in scripts with errors. -/
theorem scanProject_strict_lenient {fs : FileSystem} (hfs : fs.WellFormed) (current : Location)
    (c : ScanConfig) (metadata metadata' : ScanMetadata) :
    SameOutcome (StrictlyLenient fs c.lines (c.root.resolve current))
      (scanProject fs current { c with lenient := false } metadata)
      (scanProject fs current { c with lenient := true } metadata') := by
  refine scanProject_sameOutcome rfl fun s hs => ?_
  have hroot : s.root = c.root.resolve current := (surveyProject_eq_ok hfs hs).1
  obtain ⟨trail, children, -, hlays⟩ := Survey.exists_lays hfs hs
  -- Script by script, the two readings differ at most by errors.
  have hscripts : ∀ p ∈ Layout.placedAll children, DiffersByErrors fs c.lines p.2.path
      (outlineFile fs { c with lenient := false } p.2)
      (outlineFile fs { c with lenient := true } p.2) := by
    intro p hp
    obtain ⟨found, hlocate, -⟩ := (hlays.isAt p hp).found
    exact outlineFile_differsByErrors hlocate c
  -- The counts follow, since a count is the number of scripts with a status.
  have hcount := hlays.count_stats fs
  have htotals := hlays.totals fs
  have hsame : ∀ status, status ≠ .recovered → status ≠ .unparsable →
      (s.toMap fs { c with lenient := true } metadata').stats.count status
        = (s.toMap fs { c with lenient := false } metadata).stats.count status := by
    intro status hrecovered hunparsable
    rw [hcount, hcount]
    refine List.countP_congr fun p hp => ?_
    simpa using ((hscripts p hp).status_iff hrecovered hunparsable).symm
  have hrecovered : (s.toMap fs { c with lenient := true } metadata').stats.count .recovered
      = (s.toMap fs { c with lenient := false } metadata).stats.count .unparsable := by
    rw [hcount, hcount]
    refine List.countP_congr fun p hp => ?_
    simpa using (hscripts p hp).recovered_iff
  have hfiles : ∀ (c' : ScanConfig) (f : FileNode), f ∈ (s.tree fs c').files →
      ∃ p ∈ Layout.placedAll children, f = outlineFile fs c' p.2 := by
    intro c' f hf
    rw [TreeNode.files_eq_map_placed, hlays.placed_tree, List.map_map, List.mem_map] at hf
    obtain ⟨p, hp, rfl⟩ := hf
    exact ⟨p, hp, rfl⟩
  exact
    { skeleton := hlays.skeleton_eq ..
      nodes := hlays.nodes fun p hp => by
        rw [Layout.placeRead_fst, Layout.placeRead_fst, Layout.placeRead_snd,
          Layout.placeRead_snd, placePath_map_ofList, ← hroot, ← (hlays.isAt p hp).path]
        exact ⟨rfl, hscripts p hp⟩
      strict_ne_recovered := fun f hf => by
        obtain ⟨p, hp, rfl⟩ := hfiles _ f hf
        exact (hscripts p hp).strict_ne_recovered
      lenient_ne_unparsable := fun f hf => by
        obtain ⟨p, hp, rfl⟩ := hfiles _ f hf
        exact (hscripts p hp).lenient_ne_unparsable
      recoveredFiles := hrecovered
      parsedFiles := hsame .parsed (by simp) (by simp)
      unreadableFiles := hsame .unreadable (by simp) (by simp)
      oversizedFiles := hsame .tooLarge (by simp) (by simp)
      totalFiles := (htotals _ _).2.1.trans (htotals _ _).2.1.symm
      totalDirectories := (htotals _ _).1.trans (htotals _ _).1.symm
      walkErrors := (htotals _ _).2.2.trans (htotals _ _).2.2.symm }

/-- Both scans of the small project succeed. -/
theorem scanProject_strict_lenient_smallProject :
    smallProject.WellFormed ∧ ∃ strict lenient,
      scanProject smallProject [] { readingSettings with lenient := false } {} = .ok strict ∧
      scanProject smallProject [] { readingSettings with lenient := true } {} = .ok lenient ∧
      StrictlyLenient smallProject false [['p']] strict lenient := by
  have houtcome := scanProject_strict_lenient smallProject_wellFormed [] readingSettings {} {}
  have hstrict : ∃ map,
      scanProject smallProject [] { readingSettings with lenient := false } {} = .ok map := ⟨_, rfl⟩
  have hlenient : ∃ map,
      scanProject smallProject [] { readingSettings with lenient := true } {} = .ok map := ⟨_, rfl⟩
  obtain ⟨strict, hstrict⟩ := hstrict
  obtain ⟨lenient, hlenient⟩ := hlenient
  have hroot : readingSettings.root.resolve [] = [['p']] := by decide
  rw [hstrict, hlenient, hroot] at houtcome
  cases houtcome with
  | ok h => exact ⟨smallProject_wellFormed, strict, lenient, hstrict, hlenient, h⟩

end CodeAtlas

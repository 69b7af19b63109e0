import CodeAtlas.Proofs.Places
import CodeAtlas.Proofs.ScanTree

/-!
# Neither a look-up nor a walk looks into a file

In a blank file system all files are empty. What a path leads to and what a walk meets is the same
there, so that neither depends on the bytes of files.

- `FileTree.blank`, `FileSystem.blank`: the same tree with empty files.
- `FileSystem.locate_blank_from`, `FileSystem.locate_blank`: a path leads to the same place.
- `Walker.walk_blank`: a walk meets the same scripts.
- `FileSystem.SameLayout`: file systems that differ only in the bytes of files.
- `surveyProject_eq_of_blank`, `surveyProject_eq_of_sameLayout`: scans of such file systems find the
  same scripts.
-/

namespace CodeAtlas

mutual

def FileTree.blank : FileTree → FileTree
  | .file _ | .sealedFile _ => .file []
  | .directory entries => .directory (FileTree.blankEntries entries)
  | .sealedDirectory => .sealedDirectory
  | .link target => .link target

def FileTree.blankEntries : List (Name × FileTree) → List (Name × FileTree)
  | [] => []
  | (name, t) :: rest => (name, FileTree.blank t) :: FileTree.blankEntries rest

end

def FileSystem.blank (fs : FileSystem) : FileSystem :=
  { entries := FileTree.blankEntries fs.entries }

def Trail.blank (here : Trail) : Trail := here.map fun e => (e.1, e.2.blank)

def Found.blank : Found → Found
  | present trail => present trail.blank
  | vacant directory name => vacant directory.blank name

def FileSystem.PieceStep.blank : PieceStep → PieceStep
  | goes next => goes next.blank
  | crosses start pieces => crosses start.blank pieces
  | free name => free name
  | stops e => stops e

theorem Trail.location_blank (here : Trail) : here.blank.location = here.location := by
  simp [Trail.location, Trail.blank, Function.comp_def]

theorem FileTree.child?_blankEntries (entries : List (Name × FileTree)) (name : Name) :
    child? (blankEntries entries) name = (child? entries name).map blank := by
  induction entries with
  | nil => rfl
  | cons e rest ih =>
    obtain ⟨n, t⟩ := e
    by_cases hname : n = name
    · simp [blankEntries, child?, hname]
    · simpa [blankEntries, child?, hname] using ih

/-! ## Following a path -/

namespace FileSystem

variable (fs : FileSystem)

/-- What is at a place of the emptied file system is what is at that place of the other one,
emptied. -/
theorem node_blank (here : Trail) : fs.blank.node here.blank = (fs.node here).blank := by
  cases here with
  | nil => simp [node, Trail.blank, blank, FileTree.blank]
  | cons e here => rfl

/-- A piece of a path leads to the same place, whatever files hold. -/
theorem stepPiece_blank (here : Trail) (piece : Name) :
    fs.blank.stepPiece here.blank piece = (fs.stepPiece here piece).blank := by
  simp only [stepPiece, node_blank]
  cases hnode : fs.node here with
  | directory entries =>
    simp only [FileTree.blank, FileTree.child?_blankEntries]
    -- Up to the look-up of the name, nothing depends on the entries.
    split
    · rfl
    · split
      · simp [PieceStep.blank, Trail.blank, List.map_tail]
      · split
        · rfl
        · cases hchild : FileTree.child? entries piece with
          | none => rfl
          | some t =>
            cases t with
            | link target =>
              by_cases habsolute : target.isAbsolute <;>
                simp [PieceStep.blank, FileTree.blank, Trail.blank, habsolute]
            | _ => rfl
  | sealedDirectory =>
    simp only [FileTree.blank]
    split <;> rfl
  | _ => rfl

/-- Following pieces does not look into files, if going on behind links does not. -/
theorem followPieces_blank {cross cross' : Trail → List Name → Except FileError Found}
    (hcross : ∀ start pieces, cross' start.blank pieces = (cross start pieces).map Found.blank)
    (here : Trail) (pieces : List Name) :
    fs.blank.followPieces cross' here.blank pieces
      = (fs.followPieces cross here pieces).map Found.blank := by
  induction pieces generalizing here with
  | nil => rfl
  | cons piece rest ih =>
    rw [followPieces, followPieces, stepPiece_blank]
    -- Both look-ups take the same step, and the places that they reach correspond.
    cases fs.stepPiece here piece with
    | goes next => exact ih next
    | crosses start more => exact hcross start (more ++ rest)
    | free name =>
      by_cases hend : atEnd rest <;> simp [PieceStep.blank, hend, Except.map, Found.blank]
    | stops e => rfl

/-- Following pieces and links does not look into files. -/
theorem followLinks_blank (n : Nat) (here : Trail) (pieces : List Name) :
    fs.blank.followLinks n here.blank pieces
      = (fs.followLinks n here pieces).map Found.blank := by
  induction n generalizing here pieces with
  | zero => exact fs.followPieces_blank (fun _ _ => rfl) here pieces
  | succ n ih => exact fs.followPieces_blank ih here pieces

/-- A path leads to the same place, seen from anywhere. -/
theorem locate_blank_from (here : Trail) (p : Path) :
    fs.blank.locate here.blank p = (fs.locate here p).map Trail.blank := by
  have hfind : fs.blank.find here.blank p = (fs.find here p).map Found.blank := by
    rw [find, find]
    split
    · rfl
    · split
      · rfl
      · have hstart : (if p.isAbsolute then [] else here.blank)
            = Trail.blank (if p.isAbsolute then [] else here) := by
          split <;> rfl
        rw [hstart]
        exact fs.followLinks_blank maxLinks _ p.pieces
  rw [locate, locate, hfind]
  cases fs.find here p with
  | error e => rfl
  | ok found => cases found <;> rfl

/-- A path leads to the same place, seen from the root. -/
theorem locate_blank (p : Path) : fs.blank.locate [] p = (fs.locate [] p).map Trail.blank :=
  fs.locate_blank_from [] p

/-- Whether there is something at a path does not depend on what files hold. -/
theorem hasPath_blank (p : Path) : fs.blank.hasPath [] p = fs.hasPath [] p := by
  rw [hasPath, hasPath, locate_blank]
  cases fs.locate [] p <;> rfl

end FileSystem

/-! ## Walks -/

namespace Walker

def blank (w : Walker) : Walker := { w with files := w.files.blank }

variable (w : Walker)

/-- Visiting a link does not look into files, if the visit behind it does not. -/
theorem visitLink_blank {cross cross' : Visit → FileTree → Walked}
    (hcross : ∀ v t, cross' v t.blank = cross v t) (v : Visit) :
    w.blank.visitLink cross' v = w.visitLink cross v := by
  have hlocate : w.blank.files.locate [] v.path = (w.files.locate [] v.path).map Trail.blank :=
    w.files.locate_blank v.path
  have hfollow : w.blank.followLinks = w.followLinks := rfl
  rw [visitLink, visitLink, hlocate, hfollow]
  cases w.files.locate [] v.path with
  | error e => rfl
  | ok trail =>
    have hnode : w.blank.files.node trail.blank = (w.files.node trail).blank :=
      w.files.node_blank trail
    simp only [Except.map, hnode, Trail.location_blank]
    cases w.files.node trail with
    | directory entries =>
      have hinner := hcross { v with real := trail.location } (.directory entries)
      simp only [FileTree.blank] at hinner ⊢
      rw [hinner]
    | _ => rfl

mutual

/-- Visiting a tree does not look into files, if visits behind links do not. -/
theorem visitTree_blank {cross cross' : Visit → FileTree → Walked}
    (hcross : ∀ v t, cross' v t.blank = cross v t) (v : Visit) :
    ∀ t : FileTree, w.blank.visitTree cross' v t.blank = w.visitTree cross v t
  | .file _ | .sealedFile _ | .sealedDirectory => by rfl
  | .link target => by
    rw [FileTree.blank, visitTree, visitTree, visitLink_blank w hcross]
  | .directory entries => by
    have hignores : w.blank.filter.ignores v.path true = w.filter.ignores v.path true := rfl
    rw [FileTree.blank, visitTree, visitTree, visitEntries_blank hcross v entries, hignores]

theorem visitEntries_blank {cross cross' : Visit → FileTree → Walked}
    (hcross : ∀ v t, cross' v t.blank = cross v t) (v : Visit) :
    ∀ entries, w.blank.visitEntries cross' v (FileTree.blankEntries entries)
      = w.visitEntries cross v entries
  | [] => rfl
  | (name, t) :: rest => by
    rw [FileTree.blankEntries, visitEntries, visitEntries, visitTree_blank hcross _ t,
      visitEntries_blank hcross v rest]

end

/-- A walk does not look into files, and neither does the survey that it is part of. -/
theorem visit_blank (n : Nat) (v : Visit) (t : FileTree) :
    w.blank.visit n v t.blank = w.visit n v t := by
  induction n generalizing v t with
  | zero => exact w.visitTree_blank (fun _ _ => rfl) v t
  | succ n ih => exact w.visitTree_blank ih v t

end Walker

mutual

theorem FileTree.countDirectories_blank : ∀ t : FileTree, t.blank.countDirectories = t.countDirectories
  | .file _ | .sealedFile _ | .sealedDirectory | .link _ => by rfl
  | .directory entries => by
    rw [blank, countDirectories, countDirectories, FileTree.entriesDirectories_blankEntries entries]

theorem FileTree.entriesDirectories_blankEntries :
    ∀ entries, entriesDirectories (blankEntries entries) = entriesDirectories entries
  | [] => rfl
  | (_, t) :: rest => by
    rw [blankEntries, entriesDirectories, entriesDirectories, FileTree.countDirectories_blank t,
      FileTree.entriesDirectories_blankEntries rest]

end

/-- A walk meets the same scripts, wherever it starts. -/
theorem Walker.walk_blank (w : Walker) (root : Location) : w.blank.walk root = w.walk root := by
  have hlocate : w.blank.files.locate [] (.ofLocation root)
      = (w.files.locate [] (.ofLocation root)).map Trail.blank := w.files.locate_blank _
  have hbound : w.blank.linkBound = w.linkBound := by
    rw [linkBound, linkBound]
    exact congrArg (· + 1) (FileTree.entriesDirectories_blankEntries w.files.entries)
  rw [walk, walk, hlocate]
  cases w.files.locate [] (.ofLocation root) with
  | error e => rfl
  | ok trail =>
    have hnode : w.blank.files.node trail.blank = (w.files.node trail).blank :=
      w.files.node_blank trail
    simp only [Except.map, hnode, Trail.location_blank]
    cases w.files.node trail with
    | directory entries =>
      simp only [FileTree.blank]
      rw [hbound, w.visitEntries_blank (w.visit_blank w.linkBound)]
    | _ => rfl

/-! ## Surveys -/

theorem surveyRoot_blank (w : Walker) (root : Location) :
    surveyRoot w.blank root = surveyRoot w root := by
  have hlocate : w.blank.files.locate [] (.ofLocation root)
      = (w.files.locate [] (.ofLocation root)).map Trail.blank := w.files.locate_blank _
  rw [surveyRoot, surveyRoot, hlocate, w.walk_blank]
  cases w.files.locate [] (.ofLocation root) with
  | error e => rfl
  | ok trail =>
    have hnode : w.blank.files.node trail.blank = (w.files.node trail).blank :=
      w.files.node_blank trail
    simp only [Except.map, hnode]
    cases w.files.node trail <;> rfl

/-- File systems that differ only in the bytes of files, but not in those of the ignore file of a
root. -/
structure FileSystem.SameLayout (fs fs' : FileSystem) (root : Location) : Prop where
  blank : fs.blank = fs'.blank
  ignoreFile : fs.read [] (.ofLocation (root ++ [IgnoreFilter.fileName]))
    = fs'.read [] (.ofLocation (root ++ [IgnoreFilter.fileName]))

/-- Settings that differ at most in what is done with each script that is found. -/
def ScanConfig.SameScope (c c' : ScanConfig) : Prop :=
  c' = { c with lines := c'.lines, lenient := c'.lenient, maxFileSize := c'.maxFileSize,
                threads := c'.threads }

/-- Two file systems with the same layout have the same filter, as the ignore file is read alike. -/
theorem IgnoreFilter.ofConfig_eq_of_sameLayout {fs fs' : FileSystem} {root : Location}
    (h : fs.SameLayout fs' root) {c c' : ScanConfig} (hc : c.SameScope c') :
    ofConfig fs c root = ofConfig fs' c' root := by
  have hpath : ∀ p, fs.hasPath [] p = fs'.hasPath [] p := by
    intro p
    rw [← fs.hasPath_blank, h.blank, fs'.hasPath_blank]
  have hgitignore : readGitignore fs root = readGitignore fs' root := by
    simp only [readGitignore, hpath, h.ignoreFile]
  rw [hc, ofConfig, ofConfig, hgitignore]
  rfl

/-- Scans with the same filters find the same scripts in file systems that differ only in the bytes
of files. -/
theorem surveyProject_eq_of_blank {fs fs' : FileSystem} {current : Location} {c c' : ScanConfig}
    (h : fs.blank = fs'.blank) (hc : c.SameScope c')
    (hfilter : IgnoreFilter.ofConfig fs c (c.root.resolve current)
      = IgnoreFilter.ofConfig fs' c' (c.root.resolve current)) :
    surveyProject fs current c = surveyProject fs' current c' := by
  have hroot : c'.root = c.root := by rw [hc]
  have hfollow : c'.followSymlinks = c.followSymlinks := by rw [hc]
  rw [surveyProject, surveyProject, hroot]
  cases hresolve : resolveRoot current c.root with
  | error e => rfl
  | ok root =>
    rw [← resolveRoot_eq_ok hresolve] at hfilter
    simp only [hfilter]
    cases IgnoreFilter.ofConfig fs' c' root with
    | error e => rfl
    | ok filter =>
      have hwalker : (walkerOf fs c filter).blank = (walkerOf fs' c' filter).blank := by
        simp only [walkerOf, Walker.blank, h, hfollow]
      -- Both surveys are those of the one blank file system.
      simp only
      rw [← surveyRoot_blank, hwalker, surveyRoot_blank]

/-- Scans of file systems with one layout find the same scripts. -/
theorem surveyProject_eq_of_sameLayout {fs fs' : FileSystem} {current : Location}
    {c c' : ScanConfig} (h : fs.SameLayout fs' (c.root.resolve current)) (hc : c.SameScope c') :
    surveyProject fs current c = surveyProject fs' current c' :=
  surveyProject_eq_of_blank h.blank hc (IgnoreFilter.ofConfig_eq_of_sameLayout h hc)

end CodeAtlas

import CodeAtlas.Proofs.SingleFile

/-!
# Lines are only an annotation

If lines are asked for, every symbol gets one, and nothing else changes: neither which symbols are
found, nor how they came about, nor what is counted.

- `LinesErased`: some symbols have lines, and others are the same without them.
- `extractSymbols_lines`: what is found in a text with and without lines.
- `FileNode.LinesErased`, `ProjectMap.LinesErased`: files and maps with and without lines.
- `lines_only_annotate`: texts, scans of projects and scans of single files.
-/

namespace CodeAtlas

/-- All of some symbols have lines, none of the others has one, and apart from that they are the
same. -/
structure LinesErased (lined plain : List Symbol) : Prop where
  erased : lined.map Symbol.eraseLine = plain
  lines : ∀ s ∈ lined, s.line.isSome = true
  noLines : ∀ s ∈ plain, s.line = none

/-! ## Texts -/

namespace LinesErased

theorem nil : LinesErased [] [] := ⟨rfl, by simp, by simp⟩

/-- It suffices to look at the symbols that have lines. -/
theorem of_erased {lined plain : List Symbol} (h : lined.map Symbol.eraseLine = plain)
    (hlines : ∀ s ∈ lined, s.line.isSome = true) : LinesErased lined plain where
  erased := h
  lines := hlines
  noLines := by
    intro s hs
    rw [← h, List.mem_map] at hs
    obtain ⟨lined, -, rfl⟩ := hs
    rfl

end LinesErased

/-- Whether lines are asked for does not matter to what a node declares. -/
theorem Cursor.symbol?_eraseLine (src : Source) (c : Cursor) :
    (c.symbol? src true).map Symbol.eraseLine = c.symbol? src false := by
  rw [symbol?, symbol?, Option.map_map]
  rfl

/-- With lines asked for every symbol has one. -/
theorem Cursor.isSome_line_of_symbol? {src : Source} {c : Cursor} {s : Symbol}
    (h : c.symbol? src true = some s) : s.line.isSome = true := by
  rw [symbol?, Option.map_eq_some_iff] at h
  obtain ⟨declared, -, rfl⟩ := h
  rfl

/-- The traversal passes the same nodes, whether or not lines are asked for. -/
theorem symbolsOf_lines (tree : SyntaxTree) :
    LinesErased (symbolsOf tree true) (symbolsOf tree false) := by
  refine .of_erased ?_ fun s hs => ?_
  · rw [symbolsOf, symbolsOf, List.map_filterMap]
    exact List.filterMap_congr fun c _ => c.symbol?_eraseLine tree.source
  · rw [symbolsOf, List.mem_filterMap] at hs
    obtain ⟨c, -, hc⟩ := hs
    exact Cursor.isSome_line_of_symbol? hc

structure FileSymbols.LinesErased (lined plain : FileSymbols) : Prop where
  symbols : CodeAtlas.LinesErased lined.symbols plain.symbols
  hasErrors : lined.hasErrors = plain.hasErrors

theorem SyntaxTree.fileSymbols_lines (tree : SyntaxTree) :
    (tree.fileSymbols true).LinesErased (tree.fileSymbols false) :=
  ⟨symbolsOf_lines tree, rfl⟩

/-- The readings of a text with and without lines differ in lines only. -/
theorem fileSymbols_lines (language : Language) (src : Source) :
    (fileSymbols language true src).LinesErased (fileSymbols language false src) := by
  rw [fileSymbols, fileSymbols]
  exact SyntaxTree.fileSymbols_lines _

def OutlineLines (lined plain : List Symbol × FileStatus) : Prop :=
  lined.2 = plain.2 ∧ LinesErased lined.1 plain.1

/-- Of readings that differ only in lines the clean ones are the same. -/
theorem FileSymbols.LinesErased.filter {wide wide' : Option FileSymbols}
    (h : Option.Rel FileSymbols.LinesErased wide wide') :
    Option.Rel FileSymbols.LinesErased (wide.filter (!·.hasErrors))
      (wide'.filter (!·.hasErrors)) := by
  cases h with
  | none => exact .none
  | @some retry retry' hretry =>
    rw [Option.filter_some, Option.filter_some, hretry.hasErrors]
    split
    · exact .some hretry
    · exact .none

/-- Of readings that differ only in lines the same one is chosen. -/
theorem chooseReading_lines {own own' : FileSymbols} (hown : own.LinesErased own')
    {wide wide' : Unit → Option FileSymbols}
    (hwide : Option.Rel FileSymbols.LinesErased (wide ()) (wide' ())) (lenient : Bool) :
    OutlineLines (chooseReading lenient own wide) (chooseReading lenient own' wide') := by
  rw [chooseReading, chooseReading, hown.hasErrors]
  split
  · exact ⟨rfl, hown.symbols⟩
  · have hclean := FileSymbols.LinesErased.filter hwide
    generalize (wide ()).filter (!·.hasErrors) = retry at hclean ⊢
    generalize (wide' ()).filter (!·.hasErrors) = retry' at hclean ⊢
    cases hclean with
    | some hretry => exact ⟨rfl, hretry.symbols⟩
    | none =>
      cases lenient with
      | true => exact ⟨rfl, hown.symbols⟩
      | false => exact ⟨rfl, .nil⟩

/-- With and without lines the same is found in a text, and in the same way. -/
theorem extractSymbols_lines (src : Source) (language : Language) (lenient : Bool) :
    OutlineLines (extractSymbols src language ⟨true, lenient⟩)
      (extractSymbols src language ⟨false, lenient⟩) := by
  rw [extractSymbols, extractSymbols]
  refine chooseReading_lines (fileSymbols_lines language src) ?_ lenient
  split
  · exact .none
  · exact .some (fileSymbols_lines .tsx src)

/-! ## Files -/

def FileNode.eraseLines (f : FileNode) : FileNode :=
  { f with symbols := f.symbols.map Symbol.eraseLine }

structure FileNode.LinesErased (lined plain : FileNode) : Prop where
  erased : lined.eraseLines = plain
  symbols : CodeAtlas.LinesErased lined.symbols plain.symbols

theorem OutlineLines.fileNode {lined plain : List Symbol × FileStatus}
    (h : OutlineLines lined plain) (name : String) (language : Language) :
    FileNode.LinesErased ⟨name, lined.1, language, lined.2⟩ ⟨name, plain.1, language, plain.2⟩ where
  erased := by rw [FileNode.eraseLines, h.1, h.2.erased]
  symbols := h.2

section Files

variable (fs : FileSystem) (c : ScanConfig)

/-- The outlines of some bytes with and without lines differ in lines only. -/
theorem outlineBytes_lines (language : Language) (bytes : Bytes) :
    OutlineLines (outlineBytes { c with lines := true } language bytes)
      (outlineBytes { c with lines := false } language bytes) := by
  rw [outlineBytes, outlineBytes]
  exact extractSymbols_lines _ language c.lenient

/-- Whether a script is too large or unreadable does not depend on lines. -/
theorem readScript_lines (s : ScriptFile) :
    OutlineLines (readScript fs { c with lines := true } s)
      (readScript fs { c with lines := false } s) := by
  rw [readScript, readScript]
  dsimp only
  split
  · exact ⟨rfl, .nil⟩
  · cases fs.read [] s.path with
    | error e => exact ⟨rfl, .nil⟩
    | ok bytes => exact outlineBytes_lines c s.language bytes

/-- The nodes of a script with and without lines differ in lines only. -/
theorem outlineFile_lines (s : ScriptFile) :
    (outlineFile fs { c with lines := true } s).LinesErased
      (outlineFile fs { c with lines := false } s) := by
  rw [outlineFile_eq, outlineFile_eq]
  exact (readScript_lines fs c s).fileNode _ _

theorem scanFile_lines (here : Trail) (p : Path) :
    SameOutcome FileNode.LinesErased (scanFile fs here { c with lines := true } p)
      (scanFile fs here { c with lines := false } p) := by
  rw [scanFile, scanFile]
  cases Language.ofPath? p with
  | none => exact .error _
  | some language =>
    cases fs.read here p with
    | error e => exact .error _
    | ok bytes => exact .ok ((outlineBytes_lines c language bytes).fileNode _ _)

end Files

/-! ## Projects -/

namespace TreeNode

mutual

def eraseLines : TreeNode → TreeNode
  | directory name children => directory name (eraseLinesAll children)
  | file f => file f.eraseLines

def eraseLinesAll : List TreeNode → List TreeNode
  | [] => []
  | first :: rest => eraseLines first :: eraseLinesAll rest

end

end TreeNode

mutual

/-- Taking the lines from a tree is taking them from the nodes of its scripts. -/
theorem Layout.eraseLines_fill {read read' : ScriptFile → FileNode}
    (h : ∀ source, (read source).eraseLines = read' source) :
    ∀ l : Layout, (l.fill read).eraseLines = l.fill read'
  | script source => by rw [fill, TreeNode.eraseLines, h, fill]
  | directory name children => by
    rw [fill, TreeNode.eraseLines, Layout.eraseLines_fillAll h children, fill]

/-- The tree without lines is that of the scripts read without lines. -/
theorem Layout.eraseLines_fillAll {read read' : ScriptFile → FileNode}
    (h : ∀ source, (read source).eraseLines = read' source) :
    ∀ layouts, TreeNode.eraseLinesAll (fillAll read layouts) = fillAll read' layouts
  | [] => rfl
  | first :: rest => by
    rw [fillAll, TreeNode.eraseLinesAll, Layout.eraseLines_fill h first,
      Layout.eraseLines_fillAll h rest, fillAll]

end

/-- Lines are not counted. -/
theorem ScanStats.ofFile_eraseLines (f : FileNode) : ofFile f.eraseLines = ofFile f := by
  rw [ofFile_eq, ofFile_eq, FileNode.eraseLines, List.map_map]
  rfl

/-- Maps that differ only in the lines of symbols, and in how fast the scans were. -/
structure ProjectMap.LinesErased (lined plain : ProjectMap) : Prop where
  root : lined.root = plain.root
  tree : lined.tree.eraseLines = plain.tree
  stats : lined.stats = plain.stats
  lines : ∀ f ∈ lined.tree.files, ∀ s ∈ f.symbols, s.line.isSome = true
  noLines : ∀ f ∈ plain.tree.files, ∀ s ∈ f.symbols, s.line = none

/-- A scan with lines and one without differ in lines only, or fail alike. -/
theorem scanProject_lines {fs : FileSystem} (hfs : fs.WellFormed) (current : Location)
    (c : ScanConfig) (metadata metadata' : ScanMetadata) :
    SameOutcome ProjectMap.LinesErased (scanProject fs current { c with lines := true } metadata)
      (scanProject fs current { c with lines := false } metadata') := by
  refine scanProject_sameOutcome rfl fun s hs => ?_
  obtain ⟨trail, children, -, hlays⟩ := Survey.exists_lays hfs hs
  have hread := outlineFile_lines fs c
  have hfiles : ∀ (c' : ScanConfig) (f : FileNode), f ∈ (s.tree fs c').files →
      ∃ source, f = outlineFile fs c' source := by
    intro c' f hf
    rw [TreeNode.files_eq_map_placed, hlays.placed_tree, List.map_map, List.mem_map] at hf
    obtain ⟨p, -, rfl⟩ := hf
    exact ⟨p.2, rfl⟩
  exact
    { root := rfl
      tree := by
        rw [Survey.tree_toMap, Survey.tree_toMap, s.tree_eq_projectTree hlays.entries,
          s.tree_eq_projectTree hlays.entries, projectTree, projectTree, TreeNode.eraseLines,
          Layout.eraseLines_fillAll fun source => (hread source).erased]
      stats := by
        rw [hlays.stats_eq, hlays.stats_eq]
        simp only [← (hread _).erased, ScanStats.ofFile_eraseLines]
      lines := fun f hf => by
        obtain ⟨source, rfl⟩ := hfiles _ f hf
        exact (hread source).symbols.lines
      noLines := fun f hf => by
        obtain ⟨source, rfl⟩ := hfiles _ f hf
        exact (hread source).symbols.noLines }

/-- Asking for lines gives every symbol a line and changes nothing else: in a text, in a project,
and in a file on its own. -/
theorem lines_only_annotate {fs : FileSystem} (hfs : fs.WellFormed) (c : ScanConfig) :
    (∀ (src : Source) (language : Language) (lenient : Bool),
      OutlineLines (extractSymbols src language ⟨true, lenient⟩)
        (extractSymbols src language ⟨false, lenient⟩)) ∧
    (∀ (current : Location) (metadata metadata' : ScanMetadata),
      SameOutcome ProjectMap.LinesErased
        (scanProject fs current { c with lines := true } metadata)
        (scanProject fs current { c with lines := false } metadata')) ∧
    ∀ (here : Trail) (p : Path),
      SameOutcome FileNode.LinesErased (scanFile fs here { c with lines := true } p)
        (scanFile fs here { c with lines := false } p) :=
  ⟨extractSymbols_lines, fun current => scanProject_lines hfs current c, scanFile_lines fs c⟩

/-- Both scans of the small project succeed, and so does reading its script behind the link. -/
theorem lines_only_annotate_smallProject :
    smallProject.WellFormed ∧
    (∃ lined plain,
      scanProject smallProject [] { readingSettings with lines := true } {} = .ok lined ∧
      scanProject smallProject [] { readingSettings with lines := false } {} = .ok plain ∧
      lined.LinesErased plain) ∧
    ∃ lined plain,
      scanFile smallProject [] { readingSettings with lines := true } linkedScript.path
        = .ok lined ∧
      scanFile smallProject [] { readingSettings with lines := false } linkedScript.path
        = .ok plain ∧
      lined.LinesErased plain := by
  obtain ⟨-, hproject, hfile⟩ := lines_only_annotate smallProject_wellFormed readingSettings
  have hscan : ∀ lines, ∃ map,
      scanProject smallProject [] { readingSettings with lines := lines } {} = .ok map :=
    fun _ => ⟨_, rfl⟩
  have hread : ∀ lines, ∃ f,
      scanFile smallProject [] { readingSettings with lines := lines } linkedScript.path = .ok f :=
    fun _ => ⟨_, rfl⟩
  obtain ⟨m, hm⟩ := hscan true
  obtain ⟨m', hm'⟩ := hscan false
  obtain ⟨f, hf⟩ := hread true
  obtain ⟨f', hf'⟩ := hread false
  have hmaps := hproject [] {} {}
  have hnodes := hfile [] linkedScript.path
  rw [hm, hm'] at hmaps
  rw [hf, hf'] at hnodes
  exact ⟨smallProject_wellFormed, ⟨m, m', hm, hm', hmaps.of_ok⟩, f, f', hf, hf', hnodes.of_ok⟩

end CodeAtlas

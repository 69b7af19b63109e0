import CodeAtlas.Proofs.Histories
import CodeAtlas.Proofs.SummaryLines

/-!
# Summaries and their trees

A summary shows the counts of a scan, and the languages of the files in its tree. The counts are
made in one walk through the tree, and the languages are counted in another one. What a reader finds
in the summary agrees all the same.

- `ScanStats.totalFiles_ofTree`: the counts of a tree know of all its files.
- `ProjectMap.summary_eq`: a summary as lines in front, a body, and figures on the scan itself.
- `ProjectMap.Tells`: what a reader finds in some lines.
- `ProjectMap.tells_append`: it is found wherever the lines of a body stand.
- `ProjectMap.tells_body`, `ProjectMap.tells_summary`: it is found in a body and in a summary.
- `ProjectMap.summary_agrees`: the languages of a summary are those of the tree.
-/

namespace CodeAtlas

/-! ## The number of files -/

namespace ScanStats

theorem totalFilesHom_ofFile (f : FileNode) : totalFilesHom (ofFile f) = 1 := by
  have hsymbol : ∀ kind, totalFilesHom (ofSymbol kind) = 0 := by
    intro kind
    cases kind <;> rfl
  have hstatus : totalFilesHom (({} : ScanStats).addStatus f.status) = 1 := by
    cases f.status <;> rfl
  rw [ofFile_eq, map_add, map_list_sum, List.map_map, hstatus]
  simp [Function.comp_def, hsymbol]

/-- The counts of a tree know of all its files. -/
theorem totalFiles_ofTree (t : TreeNode) : (ofTree t).totalFiles = t.fileList.length := by
  have hdirectories : totalFilesHom (ofDirectories (t.directoryCount - 1)) = 0 := rfl
  have htotal : totalFilesHom (ofTree t) = t.fileList.length := by
    rw [ofTree_eq, map_add, hdirectories, map_list_sum, List.map_map]
    simp [Function.comp_def, totalFilesHom_ofFile]
  exact htotal

end ScanStats

namespace ProjectMap

/-! ## The parts of a summary -/

def headLines (root : String) : List String :=
  ["Project Map Summary", "===================", s!"Root: {root}", ""]

def bodyLines (s : ScanStats) (counts : List (String × Nat)) : List String :=
  fileLines s ++ symbolLines s ++ languageLines counts ++ errorLines s

def fileFigures (s : ScanStats) : List (String × Nat) :=
  [("Directories: ", s.totalDirectories), ("Files Scanned: ", s.totalFiles),
    ("- Parsed: ", s.parsedFiles), ("- Recovered: ", s.recoveredFiles),
    ("- Unparsable: ", s.unparsableFiles), ("- Unreadable: ", s.unreadableFiles),
    ("- Too large: ", s.oversizedFiles)]

def symbolFigures (s : ScanStats) : List (String × Nat) :=
  [("Total Symbols: ", s.totalSymbols), ("- Functions: ", s.functions), ("- Classes: ", s.classes),
    ("- Methods: ", s.methods), ("- Routes: ", s.routes)]

def languageLine (p : String × Nat) : String := s!"- {p.1}: {p.2}"

theorem fileLines_eq (s : ScanStats) :
    fileLines s = (fileFigures s).map figureLine ++ [""] := rfl

theorem symbolLines_eq (s : ScanStats) :
    symbolLines s = (symbolFigures s).map figureLine ++ [""] := rfl

theorem languageLines_nil : languageLines [] = [] := rfl

theorem languageLines_of_ne_nil {counts : List (String × Nat)} (h : counts ≠ []) :
    languageLines counts = "Languages:" :: (counts.map languageLine ++ [""]) := by
  cases counts with
  | nil => exact absurd rfl h
  | cons p rest => rfl

/-- What holds of the empty line and of all figures holds of a block of figures. -/
theorem forall_mem_figures {P : String → Prop} {figures : List (String × Nat)} (hempty : P "")
    (h : ∀ p ∈ figures, P (figureLine p)) : ∀ line ∈ figures.map figureLine ++ [""], P line := by
  intro line hline
  rcases List.mem_append.1 hline with hline | hline
  · obtain ⟨p, hp, rfl⟩ := List.mem_map.1 hline
    exact h p hp
  · rwa [List.mem_singleton.1 hline]

theorem forall_mem_languageLines {P : String → Prop} {counts : List (String × Nat)}
    (hempty : P "") (hheading : P "Languages:") (h : ∀ p ∈ counts, P (languageLine p)) :
    ∀ line ∈ languageLines counts, P line := by
  intro line hline
  by_cases hcounts : counts = []
  · rw [hcounts, languageLines_nil] at hline
    cases hline
  · rw [languageLines_of_ne_nil hcounts] at hline
    rcases List.mem_cons.1 hline with rfl | hline
    · exact hheading
    rcases List.mem_append.1 hline with hline | hline
    · obtain ⟨p, hp, rfl⟩ := List.mem_map.1 hline
      exact h p hp
    · rwa [List.mem_singleton.1 hline]

theorem forall_mem_errorLines {P : String → Prop} {s : ScanStats} (hempty : P "")
    (h : P (figureLine ("Walk Errors: ", s.walkErrors))) : ∀ line ∈ errorLines s, P line := by
  intro line hline
  rw [errorLines] at hline
  split at hline
  · rcases List.mem_cons.1 hline with rfl | hline
    · exact h
    · rwa [List.mem_singleton.1 hline]
  · cases hline

theorem unlines_append (front rest : List String) :
    unlines (front ++ rest) = unlines front ++ unlines rest := by
  induction front with
  | nil => exact (String.empty_append).symm
  | cons line front ih =>
    have hline : ∀ lines, unlines (line :: lines) = line ++ "\n" ++ unlines lines := fun _ => rfl
    rw [List.cons_append, hline, ih, hline]
    simp only [String.append_assoc]

/-- A summary is its head, its body and the figures on the scan. -/
theorem summary_eq (m : ProjectMap) :
    m.summary = unlines (headLines m.root)
      ++ unlines (bodyLines m.stats (languageCounts m.tree.files))
      ++ unlines (scanLines m.metadata) := by
  rw [summary, ← unlines_append (headLines m.root), bodyLines, headLines, figures, figureLines]
  simp only [List.append_assoc]

/-! ## Finding a figure and a block -/

/-- What a reader finds in some lines: the figures on directories and files, the languages with the
numbers of their files, and the number of errors of the walk. -/
structure Tells (s : ScanStats) (counts : List (String × Nat)) (lines : List String) : Prop where
  figures : ∀ p ∈ fileFigures s, figure? p.1 lines = some (toString p.2)
  languages : under? "Languages:" lines
    = if counts = [] then none else some (counts.map languageLine)
  walkErrors : figure? "Walk Errors: " lines
    = if 0 < s.walkErrors then some (toString s.walkErrors) else none

def headLabels : List String := ["Project Map Summary", "===================", "Root: "]

/-- How all lines of a summary begin, but for the heading of the languages and the number of errors
of the walk. -/
def plainLabels : List String :=
  headLabels ++ (fileFigures {} ++ symbolFigures {}).map (·.1)
    ++ ["- ", "Scan Duration: ", "Timestamp: ", "Tool Version: "]

theorem carries_figureLine {labels : List String} {p : String × Nat} (h : p.1 ∈ labels) :
    Carries labels (figureLine p) :=
  .inr ⟨p.1, h, toString p.2, rfl⟩

theorem carries_fileLines (s : ScanStats) : ∀ line ∈ fileLines s, Carries plainLabels line := by
  rw [fileLines_eq]
  refine forall_mem_figures (.inl rfl) fun p hp => carries_figureLine ?_
  revert p
  simp [fileFigures, plainLabels]

theorem carries_symbolLines (s : ScanStats) : ∀ line ∈ symbolLines s, Carries plainLabels line := by
  rw [symbolLines_eq]
  refine forall_mem_figures (.inl rfl) fun p hp => carries_figureLine ?_
  revert p
  simp [symbolFigures, plainLabels]

theorem carries_languageLines (counts : List (String × Nat)) :
    ∀ line ∈ languageLines counts, Carries ("Languages:" :: plainLabels) line := by
  refine forall_mem_languageLines (.inl rfl) ?_ ?_
  · exact .inr ⟨_, List.mem_cons_self, "", rfl⟩
  · intro p _
    refine .inr ⟨"- ", by simp [plainLabels], p.1 ++ (": " ++ toString p.2), ?_⟩
    exact String.append_assoc.trans String.append_assoc

theorem carries_errorLines (s : ScanStats) :
    ∀ line ∈ errorLines s, Carries ("Walk Errors: " :: plainLabels) line :=
  forall_mem_errorLines (.inl rfl) (carries_figureLine List.mem_cons_self)

section Finding

variable (s : ScanStats) (counts : List (String × Nat)) {front rest : List String}

/-- The figures on directories and files come first, so only the title is passed over. -/
theorem figure?_body (hfront : ∀ line ∈ front, Carries headLabels line) :
    ∀ p ∈ fileFigures s,
      figure? p.1 (front ++ bodyLines s counts ++ rest) = some (toString p.2) := by
  intro p hp
  have hlabels : (fileFigures s).map (·.1) = (fileFigures {}).map (·.1) := rfl
  have hapart : ((fileFigures s).map (·.1)).Pairwise fun a b => Apart b a := by
    rw [hlabels]
    decide
  have hhead : ∀ label ∈ (fileFigures s).map (·.1), AllApart label headLabels := by
    rw [hlabels]
    decide
  rw [bodyLines, List.append_assoc, figure?_append hfront (hhead p.1 (List.mem_map_of_mem hp)),
    fileLines_eq]
  simp only [List.append_assoc]
  exact figure?_of_mem hapart hp _

theorem carries_front (hfront : ∀ line ∈ front, Carries headLabels line) :
    ∀ line ∈ front ++ (fileLines s ++ symbolLines s), Carries plainLabels line := by
  intro line hline
  rcases List.mem_append.1 hline with hline | hline
  · exact (hfront line hline).mono (by simp [plainLabels])
  rcases List.mem_append.1 hline with hline | hline
  · exact carries_fileLines s line hline
  · exact carries_symbolLines s line hline

/-- The languages stand under their heading, which is there if there are any. -/
theorem under?_body (hfront : ∀ line ∈ front, Carries headLabels line)
    (hrest : ∀ line ∈ rest, Carries plainLabels line) :
    under? "Languages:" (front ++ bodyLines s counts ++ rest)
      = if counts = [] then none else some (counts.map languageLine) := by
  have hplain := carries_front s hfront
  by_cases hcounts : counts = []
  -- Without languages the heading stands nowhere.
  · have hlines : ∀ line ∈ front ++ bodyLines s counts ++ rest,
        Carries ("Walk Errors: " :: plainLabels) line := by
      rw [hcounts, bodyLines, languageLines_nil, List.append_nil, ← List.append_assoc front]
      intro line hline
      rcases List.mem_append.1 hline with hline | hline
      · rcases List.mem_append.1 hline with hline | hline
        · exact (hplain line hline).mono (List.subset_cons_self _ _)
        · exact carries_errorLines s line hline
      · exact (hrest line hline).mono (List.subset_cons_self _ _)
    rw [if_pos hcounts, under?_eq_none hlines (by decide)]
  -- The empty line right behind the block is the first one, so the whole block is taken.
  · have hblock : ∀ line ∈ counts.map languageLine, line ≠ "" := by
      rw [List.forall_mem_map]
      intro p _ hempty
      have hlength := congrArg String.length hempty
      simp [languageLine] at hlength
    have hapart : AllApart "Languages:" plainLabels := by decide
    have hfound := under?_append hplain hapart hblock (errorLines s ++ rest)
    rw [if_neg hcounts, ← hfound, bodyLines, languageLines_of_ne_nil hcounts]
    simp only [List.append_assoc, List.cons_append, List.nil_append]

/-- The number of errors is there if there are any. -/
theorem figure?_walkErrors (hfront : ∀ line ∈ front, Carries headLabels line)
    (hrest : ∀ line ∈ rest, Carries plainLabels line) :
    figure? "Walk Errors: " (front ++ bodyLines s counts ++ rest)
      = if 0 < s.walkErrors then some (toString s.walkErrors) else none := by
  -- The languages have to be passed over, too; their lines begin with a dash, whatever they are.
  have hpassed : ∀ line ∈ front ++ (fileLines s ++ symbolLines s) ++ languageLines counts,
      Carries ("Languages:" :: plainLabels) line := by
    intro line hline
    rcases List.mem_append.1 hline with hline | hline
    · exact (carries_front s hfront line hline).mono (List.subset_cons_self _ _)
    · exact carries_languageLines counts line hline
  have hlines : front ++ bodyLines s counts ++ rest
      = front ++ (fileLines s ++ symbolLines s) ++ languageLines counts
        ++ (errorLines s ++ rest) := by
    simp only [bodyLines, List.append_assoc]
  rw [hlines, figure?_append hpassed (by decide), errorLines]
  by_cases herrors : 0 < s.walkErrors
  · rw [if_pos herrors, if_pos herrors]
    exact figure?_cons "Walk Errors: " _ _
  · rw [if_neg herrors, if_neg herrors, List.nil_append, figure?_eq_none hrest (by decide)]

/-- All of it is found wherever the lines of a body stand, be it behind a title and in front of
figures on the scan or not. -/
theorem tells_append (hfront : ∀ line ∈ front, Carries headLabels line)
    (hrest : ∀ line ∈ rest, Carries plainLabels line) :
    Tells s counts (front ++ bodyLines s counts ++ rest) where
  figures := figure?_body s counts hfront
  languages := under?_body s counts hfront hrest
  walkErrors := figure?_walkErrors s counts hfront hrest

end Finding

/-! ## The lines of a summary -/

theorem newline_notMem_fixedDigits (places units : Nat) : '\n' ∉ fixedDigits places units := by
  -- What stands in front of the point and behind it is cut from the same digits.
  have hpadded : ∀ n, '\n' ∉ List.replicate n '0' ++ Nat.toDigits 10 units := by
    intro n hmem
    rcases List.mem_append.1 hmem with hzero | hdigit
    · cases List.eq_of_mem_replicate hzero
    · exact newline_notMem_toDigits units hdigit
  rw [fixedDigits]
  split
  · exact fun hmem => hpadded _ (List.mem_of_mem_take hmem)
  · intro hmem
    rcases List.mem_append.1 hmem with hwhole | hplaces
    · exact hpadded _ (List.mem_of_mem_take hwhole)
    rcases List.mem_cons.1 hplaces with hpoint | hplaces
    · cases hpoint
    · exact hpadded _ (List.mem_of_mem_drop hplaces)

theorem oneLine_fixedText (places : Nat) (x : Float) :
    OneLine (String.ofList (fixedText places x)) := by
  rw [OneLine, String.toList_ofList, fixedText]
  split
  · intro hmem
    rcases List.mem_append.1 hmem with hsign | hdigits
    · split at hsign <;> simp at hsign
    · exact newline_notMem_fixedDigits _ _ hdigits
  -- A number that is not finite is one of three words.
  · repeat' split
    all_goals decide

theorem oneLine_figureLine {p : String × Nat} (h : OneLine p.1) : OneLine (figureLine p) :=
  h.append (oneLine_toString p.2)

/-- No line of a body holds a line feed. -/
theorem oneLine_bodyLines (s : ScanStats) {counts : List (String × Nat)}
    (h : ∀ p ∈ counts, OneLine p.1) : ∀ line ∈ bodyLines s counts, OneLine line := by
  have hempty : OneLine "" := by decide
  have hfiles : ∀ line ∈ fileLines s, OneLine line := by
    rw [fileLines_eq]
    refine forall_mem_figures hempty fun p hp => oneLine_figureLine ?_
    revert p
    simp only [fileFigures, List.forall_mem_cons]
    decide
  have hsymbols : ∀ line ∈ symbolLines s, OneLine line := by
    rw [symbolLines_eq]
    refine forall_mem_figures hempty fun p hp => oneLine_figureLine ?_
    revert p
    simp only [symbolFigures, List.forall_mem_cons]
    decide
  have hlanguages : ∀ line ∈ languageLines counts, OneLine line := by
    apply forall_mem_languageLines hempty (by decide)
    intro p hp
    have hdash : OneLine "- " := by decide
    have hcolon : OneLine ": " := by decide
    exact ((hdash.append (h p hp)).append hcolon).append (oneLine_toString p.2)
  have herrors : ∀ line ∈ errorLines s, OneLine line := by
    have hlabel : OneLine "Walk Errors: " := by decide
    exact forall_mem_errorLines hempty (oneLine_figureLine hlabel)
  simp only [bodyLines, List.forall_mem_append]
  exact ⟨⟨⟨hfiles, hsymbols⟩, hlanguages⟩, herrors⟩

theorem oneLine_headLines {root : String} (h : OneLine root) :
    ∀ line ∈ headLines root, OneLine line := by
  have hroot : OneLine s!"Root: {root}" := by
    have hlabel : OneLine "Root: " := by decide
    exact hlabel.append h
  simp only [headLines, List.forall_mem_cons, List.not_mem_nil, IsEmpty.forall_iff, implies_true,
    and_true]
  exact ⟨by decide, by decide, hroot, by decide⟩

theorem oneLine_scanLines {d : ScanMetadata} (htime : OneLine d.timestamp)
    (htool : OneLine d.toolVersion) : ∀ line ∈ scanLines d, OneLine line := by
  have hlabels : OneLine "Scan Duration: " ∧ OneLine "ms (" ∧ OneLine " files/sec)" ∧
      OneLine "Timestamp: " ∧ OneLine "Tool Version: " := by decide
  obtain ⟨hduration, hunit, hend, htimestamp, hversion⟩ := hlabels
  have hspeed := oneLine_fixedText 2 d.filesPerSecond
  simp only [scanLines, List.forall_mem_cons, List.not_mem_nil, IsEmpty.forall_iff, implies_true,
    and_true]
  refine ⟨?_, htimestamp.append htime, hversion.append htool⟩
  exact (((hduration.append (oneLine_toString _)).append hunit).append hspeed).append hend

theorem carries_headLines (root : String) : ∀ line ∈ headLines root, Carries headLabels line := by
  intro line hline
  simp only [headLines, List.mem_cons, List.not_mem_nil, or_false] at hline
  rcases hline with rfl | rfl | rfl | rfl
  · exact .inr ⟨"Project Map Summary", by simp [headLabels], "", rfl⟩
  · exact .inr ⟨"===================", by simp [headLabels], "", rfl⟩
  · exact .inr ⟨"Root: ", by simp [headLabels], root, rfl⟩
  · exact .inl rfl

theorem carries_scanLines (d : ScanMetadata) : ∀ line ∈ scanLines d, Carries plainLabels line := by
  intro line hline
  simp only [scanLines, List.mem_cons, List.not_mem_nil, or_false] at hline
  rcases hline with rfl | rfl | rfl
  · refine .inr ⟨"Scan Duration: ", by simp [plainLabels], toString d.scanDurationMs ++ "ms ("
      ++ String.ofList (fixedText 2 d.filesPerSecond) ++ " files/sec)", ?_⟩
    simp only [String.append_assoc]
    rfl
  · exact .inr ⟨"Timestamp: ", by simp [plainLabels], d.timestamp, rfl⟩
  · exact .inr ⟨"Tool Version: ", by simp [plainLabels], d.toolVersion, rfl⟩

/-! ## Summaries and trees -/

theorem oneLine_of_mem_languageCounts {files : List FileNode} :
    ∀ p ∈ languageCounts files, OneLine p.1 := by
  intro p hp
  obtain ⟨name, n⟩ := p
  obtain ⟨-, l, rfl, -⟩ := (mem_languageCounts files name n).1 hp
  have hname : OneLine l.name := by
    cases l <;> decide
  exact hname

/-- What stands between the title of a summary and the figures on the scan tells of the figures and
the languages, whatever the path of the project. -/
theorem tells_body (s : ScanStats) (files : List FileNode) :
    Tells s (languageCounts files) (textLines (unlines (bodyLines s (languageCounts files)))) := by
  rw [textLines_unlines (oneLine_bodyLines s oneLine_of_mem_languageCounts)]
  have hrest : ∀ line ∈ [""], Carries plainLabels line := by
    intro line hline
    exact .inl (List.mem_singleton.1 hline)
  exact tells_append s _ (List.forall_mem_nil _) hrest

/-- A whole summary tells of them, if no line feed is put into it. -/
theorem tells_summary {m : ProjectMap} (hroot : OneLine m.root)
    (htime : OneLine m.metadata.timestamp) (htool : OneLine m.metadata.toolVersion) :
    Tells m.stats (languageCounts m.tree.files) (textLines m.summary) := by
  have hlines : ∀ line ∈ headLines m.root ++ bodyLines m.stats (languageCounts m.tree.files)
      ++ scanLines m.metadata, OneLine line := by
    simp only [List.forall_mem_append]
    exact ⟨⟨oneLine_headLines hroot, oneLine_bodyLines _ oneLine_of_mem_languageCounts⟩,
      oneLine_scanLines htime htool⟩
  have hrest : ∀ line ∈ scanLines m.metadata ++ [""], Carries plainLabels line := by
    intro line hline
    rcases List.mem_append.1 hline with hline | hline
    · exact carries_scanLines m.metadata line hline
    · exact .inl (List.mem_singleton.1 hline)
  rw [summary_eq, ← unlines_append, ← unlines_append, textLines_unlines hlines, List.append_assoc]
  exact tells_append m.stats _ (carries_headLines m.root) hrest

/-- The languages of a summary are those of the tree. If the counts are those of the tree, with any
number of errors of the walk, then the languages that occur in it are listed in the order of their
names, each once and with the number of its files. These numbers add up to the number of files, and
so do the numbers of files by status. The text is a title, a body and figures on the scan. In the
body a reader finds the figures, a block of languages if there are files, and the number of errors if
there are any. If no line feed is put in with the path of the project or with what is known of the
scan, then the reader finds the same in the whole summary. -/
theorem summary_agrees {m : ProjectMap} {errors : Nat}
    (hstats : m.stats = { ScanStats.ofTree m.tree with walkErrors := errors }) :
    (languageCounts m.tree.files).Pairwise (fun p q => p.1 < q.1) ∧
    (∀ name n, (name, n) ∈ languageCounts m.tree.files ↔
      0 < n ∧ ∃ l : Language, l.name = name ∧ m.tree.fileList.countP (·.language = l) = n) ∧
    (languageCounts m.tree.files = [] ↔ m.tree.fileList = []) ∧
    ((languageCounts m.tree.files).map (·.2)).sum = m.stats.totalFiles ∧
    m.stats.totalFiles = m.tree.fileList.length ∧
    m.stats.totalFiles = m.stats.parsedFiles + m.stats.recoveredFiles + m.stats.unparsableFiles
      + m.stats.unreadableFiles + m.stats.oversizedFiles ∧
    m.summary = unlines (headLines m.root)
      ++ unlines (bodyLines m.stats (languageCounts m.tree.files))
      ++ unlines (scanLines m.metadata) ∧
    Tells m.stats (languageCounts m.tree.files)
      (textLines (unlines (bodyLines m.stats (languageCounts m.tree.files)))) ∧
    (OneLine m.root → OneLine m.metadata.timestamp → OneLine m.metadata.toolVersion →
      Tells m.stats (languageCounts m.tree.files) (textLines m.summary)) := by
  -- Both walks come to what the recursion on the tree says, so they agree with each other.
  have hfiles := m.tree.files_eq_fileList
  have htallies := tallies_languageCounts m.tree.files
  have htotal : m.stats.totalFiles = m.tree.fileList.length := by
    rw [hstats]
    exact ScanStats.totalFiles_ofTree m.tree
  have hstatuses : m.stats.totalFiles = m.stats.parsedFiles + m.stats.recoveredFiles
      + m.stats.unparsableFiles + m.stats.unreadableFiles + m.stats.oversizedFiles := by
    rw [hstats]
    exact (ScanStats.balanced_ofTree m.tree).files
  have hsum : ((languageCounts m.tree.files).map (·.2)).sum = m.tree.fileList.length := by
    rw [htallies.sum, List.length_map, hfiles]
  have hempty : languageCounts m.tree.files = [] ↔ m.tree.fileList = [] := by
    constructor
    · intro hnone
      rw [hnone] at hsum
      exact List.length_eq_zero_iff.1 hsum.symm
    · intro hnone
      rw [hfiles, hnone]
      rfl
  refine ⟨htallies.rising, ?_, hempty, hsum.trans htotal.symm, htotal, hstatuses, summary_eq m,
    tells_body m.stats m.tree.files, tells_summary⟩
  rw [← hfiles]
  exact mem_languageCounts m.tree.files

def nestedMap : ProjectMap where
  root := "/r"
  tree := nestedScripts
  stats := { ScanStats.ofTree nestedScripts with walkErrors := 2 }
  metadata := { scanDurationMs := 5, timestamp := "2024-05-01T00:00:00Z" }

/-- The summary of the nested scripts tells of three files, one in each of three languages, and of
two errors. -/
theorem summary_agrees_nestedMap :
    nestedMap.stats = { ScanStats.ofTree nestedMap.tree with walkErrors := 2 } ∧
    figure? "Files Scanned: " (textLines nestedMap.summary) = some "3" ∧
    under? "Languages:" (textLines nestedMap.summary)
      = some ["- javascript: 1", "- tsx: 1", "- typescript: 1"] ∧
    figure? "Walk Errors: " (textLines nestedMap.summary) = some "2" := by
  have hstats : nestedMap.stats = { ScanStats.ofTree nestedMap.tree with walkErrors := 2 } := rfl
  obtain ⟨-, -, -, -, htotal, -, -, -, htells⟩ := summary_agrees hstats
  have hread := htells (by decide) (by decide) (by decide)
  have hfiles := nestedScripts.files_eq_fileList
  refine ⟨hstats, ?_, ?_, hread.walkErrors⟩
  · have hscanned := hread.figures ("Files Scanned: ", nestedMap.stats.totalFiles)
      (List.mem_cons_of_mem _ List.mem_cons_self)
    rw [htotal] at hscanned
    exact hscanned
  · rw [hread.languages, nestedMap, hfiles]
    decide

end ProjectMap

end CodeAtlas

import CodeAtlas.Proofs.Reordering
import CodeAtlas.Proofs.WalkDepths

/-!
# Assembling turn by turn

Assembling is a loop that closes directories inside of a loop over entries. Here it is taken one turn
at a time, for entries at any depths, be they those of a tree or not. Closing does not get on when only
the root is open, so it matters that no entry lies at depth zero.

- `Assembly.next?`: one turn.
- `Assembly.turns`: how many turns are left.
- `Assembly.Sound`: what is the same after each turn.
- `Assembly.exists_steps`: the turns come to an end.
- `Assembly.Sound.of_steps`: what holds after any number of turns.
- `assemble_conserves`: assembling ends, and nothing is lost or added on the way.
-/

namespace CodeAtlas

/-! ## What the open directories come to -/

/-- The directories of a tree are its root, if that is one, and those below. -/
theorem TreeNode.countP_belowRoot {t : TreeNode} (h : t.isDirectory = true) :
    t.belowRoot.countP (·.2.isDirectory) + 1 = t.directoryCount := by
  cases t with
  | directory name trees => rw [belowRoot, TreeNode.children, countP_withDepths, directoryCount]
  | file f => cases h

namespace WalkEntry

def isDirectory : WalkEntry → Bool
  | directory _ _ => true
  | script _ _ => false

def scriptCount (entries : List WalkEntry) : Nat := (entries.filterMap script?).length

def directoryCount (entries : List WalkEntry) : Nat := entries.countP isDirectory

@[simp] theorem directoryCount_nil : directoryCount [] = 0 := rfl

@[simp] theorem directoryCount_cons_directory (d : Nat) (name : Name) (rest : List WalkEntry) :
    directoryCount (.directory d name :: rest) = directoryCount rest + 1 :=
  List.countP_cons_of_pos rfl

@[simp] theorem directoryCount_cons_script (d : Nat) (source : ScriptFile)
    (rest : List WalkEntry) : directoryCount (.script d source :: rest) = directoryCount rest :=
  List.countP_cons_of_neg Bool.false_ne_true

end WalkEntry

namespace Nest

open TreeNode

/-- All files in some directories, each inside of the next one. -/
def filesAround : List OpenDirectory → List FileNode
  | [] => []
  | parent :: rest => filesAround rest ++ fileLists parent.children.reverse

/-- The number of some directories, each inside of the next one, and of those in them. -/
def directoriesAround : List OpenDirectory → Nat
  | [] => 0
  | parent :: rest => directoriesAround rest + (directoryCounts parent.children + 1)

/-- Closing a directory ahead of time does not change what comes of it in the end. -/
theorem finish_closeInner (n : Nest) : n.closeInner.finish = n.finish := by
  obtain ⟨inner, outer⟩ := n
  cases outer with
  | nil => rfl
  | cons parent rest => rfl

/-- The files of the open directories, once all are closed. -/
theorem fileList_finish (inner : OpenDirectory) (outer : List OpenDirectory) :
    (Nest.mk inner outer).finish.fileList
      = filesAround outer ++ fileLists inner.children.reverse := by
  induction outer generalizing inner with
  | nil => rfl
  | cons parent rest ih =>
    rw [← finish_closeInner, closeInner, ih]
    simp [filesAround, OpenDirectory.add, OpenDirectory.close, fileLists_append, fileLists,
      fileList]

/-- The number of the open directories, once all are closed, and of those in them. -/
theorem directoryCount_finish (inner : OpenDirectory) (outer : List OpenDirectory) :
    (Nest.mk inner outer).finish.directoryCount
      = directoriesAround outer + (directoryCounts inner.children + 1) := by
  induction outer generalizing inner with
  | nil =>
    change directoryCounts inner.children.reverse + 1 = _
    rw [directoryCounts_reverse, directoriesAround, Nat.zero_add]
  | cons parent rest ih =>
    rw [← finish_closeInner, closeInner, ih]
    simp only [directoriesAround, OpenDirectory.add, OpenDirectory.close, directoryCounts,
      directoryCount, directoryCounts_reverse]
    omega

/-- What is finished has the name of the outermost directory. -/
theorem name_finish (inner : OpenDirectory) (outer : List OpenDirectory) :
    (Nest.mk inner outer).finish.name = ((inner :: outer).getLast (by simp)).name := by
  induction outer generalizing inner with
  | nil => rfl
  | cons parent rest ih =>
    rw [← finish_closeInner, closeInner, ih]
    cases rest with
    | nil => rfl
    | cons next rest => rfl

/-- A file that is added is the last one. -/
theorem fileList_finish_addFile (n : Nest) (f : FileNode) :
    (n.addFile f).finish.fileList = n.finish.fileList ++ [f] := by
  obtain ⟨inner, outer⟩ := n
  rw [addFile, fileList_finish, fileList_finish, List.append_assoc]
  simp [OpenDirectory.add, fileLists_append, fileLists, fileList]

theorem directoryCount_finish_addFile (n : Nest) (f : FileNode) :
    (n.addFile f).finish.directoryCount = n.finish.directoryCount := by
  obtain ⟨inner, outer⟩ := n
  rw [addFile, directoryCount_finish, directoryCount_finish]
  simp [OpenDirectory.add, directoryCounts, directoryCount]

theorem name_finish_addFile (n : Nest) (f : FileNode) :
    (n.addFile f).finish.name = n.finish.name := by
  obtain ⟨inner, outer⟩ := n
  rw [addFile, name_finish, name_finish]
  cases outer with
  | nil => rfl
  | cons parent rest => rfl

/-- A directory that is opened brings no file. -/
theorem fileList_finish_enter (n : Nest) (name : String) :
    (n.enter name).finish.fileList = n.finish.fileList := by
  obtain ⟨inner, outer⟩ := n
  rw [enter, fileList_finish, fileList_finish, filesAround]
  simp [fileLists]

/-- A directory that is entered is one more. -/
theorem directoryCount_finish_enter (n : Nest) (name : String) :
    (n.enter name).finish.directoryCount = n.finish.directoryCount + 1 := by
  obtain ⟨inner, outer⟩ := n
  rw [enter, directoryCount_finish, directoryCount_finish, directoriesAround]
  simp [directoryCounts]

theorem name_finish_enter (n : Nest) (name : String) :
    (n.enter name).finish.name = n.finish.name := by
  obtain ⟨inner, outer⟩ := n
  rw [enter, name_finish, name_finish]
  rfl

/-- Puts an entry into the inner directory, and gives the files that are left. -/
def receive (n : Nest) : List FileNode → WalkEntry → Nest × List FileNode
  | files, .directory _ name => (n.enter (String.ofList name), files)
  | f :: files, .script _ _ => (n.addFile f, files)
  | [], .script _ _ => (n, [])

/-- Placing an entry is closing the directories that are too deep and then receiving the entry. -/
theorem place_eq_receive (n : Nest) (files : List FileNode) (entry : WalkEntry) :
    n.place files entry = (n.closeTo entry.depth).receive files entry := by
  cases entry with
  | directory d name => rfl
  | script d source =>
    cases files with
    | nil => rfl
    | cons f files => rfl

/-- Closing a directory first makes no difference, if one is closed anyway. -/
theorem closeTo_closeInner {n : Nest} {d : Nat} (hd : 0 < d) (h : d < n.depth) :
    n.closeInner.closeTo d = n.closeTo d := by
  have hdepth : n.closeInner.depth = n.depth - 1 := depth_closeInner (by omega)
  have hsucc : n.depth - d = n.closeInner.depth - d + 1 := by omega
  rw [closeTo, closeTo, hsucc, closeTimes]

end Nest

/-! ## Turns -/

/-- The state of an assembly: the directories that are open, the entries that have not been placed,
and the files that have not been taken. -/
structure Assembly where
  nest : Nest
  entries : List WalkEntry
  files : List FileNode

namespace Assembly

def start (rootName : String) (entries : List WalkEntry) (files : List FileNode) : Assembly :=
  ⟨⟨⟨rootName, []⟩, []⟩, entries, files⟩

/-- How many directories may stay open: as many as lie around the next entry, or only the root when
all entries have been placed. -/
def level (a : Assembly) : Nat :=
  match a.entries with
  | [] => 1
  | entry :: _ => entry.depth

/-- One turn: a directory is closed as long as too many are open; otherwise the next entry is put
into the inner one. Without entries there is no turn left. -/
def next? (a : Assembly) : Option Assembly :=
  if a.level < a.nest.depth then some { a with nest := a.nest.closeInner }
  else
    match a.entries with
    | [] => none
    | entry :: rest =>
      let (nest, files) := a.nest.receive a.files entry
      some ⟨nest, rest, files⟩

/-- `Steps n a b`: `n` turns lead from `a` to `b`. -/
inductive Steps : Nat → Assembly → Assembly → Prop where
  | refl (a : Assembly) : Steps 0 a a
  | head {n : Nat} {a b c : Assembly} : a.next? = some b → Steps n b c → Steps (n + 1) a c

/-- At an entry at depth zero with only the root open a turn changes nothing: closing would go on for
ever. -/
theorem next?_of_level_eq_zero {a : Assembly} :
    a.level = 0 → a.nest.outer = [] → a.next? = some a := by
  intro hlevel houter
  obtain ⟨⟨inner, outer⟩, entries, files⟩ := a
  subst houter
  have hopen : (0 : Nat) < (⟨inner, []⟩ : Nest).depth := Nat.one_pos
  rw [next?, hlevel, if_pos hopen]
  rfl

/-- How many turns are left: each entry is placed, and each directory that is open now or will be
entered is closed, but for the root. -/
def turns (a : Assembly) : Nat :=
  a.entries.length + WalkEntry.directoryCount a.entries + a.nest.outer.length

/-- What an assembly has to come to: the tree, its files, the number of its directories, and the name
of its root. -/
structure Goal where
  tree : TreeNode
  files : List FileNode
  directories : Nat
  rootName : String

/-- The directories that are open now, once all are closed, and what has not been placed make up what
the assembly has to come to. -/
structure Sound (goal : Goal) (a : Assembly) : Prop where
  /-- No entry that is left has depth zero. -/
  below : ∀ e ∈ a.entries, 0 < e.depth
  /-- There is a file for each script that is left. -/
  enough : a.files.length = WalkEntry.scriptCount a.entries
  tree : (a.nest.placeAll a.files a.entries).finish = goal.tree
  files : a.nest.finish.fileList ++ a.files = goal.files
  directories : a.nest.finish.directoryCount + WalkEntry.directoryCount a.entries = goal.directories
  rootName : a.nest.finish.name = goal.rootName

/-- A directory is closed only while more than the root is open, since the depth of the next entry is
positive. -/
theorem Sound.one_lt_depth {goal : Goal} {a : Assembly} (h : a.Sound goal) :
    a.level < a.nest.depth → 1 < a.nest.depth := by
  intro hclose
  have hpos : 0 < a.level := by
    rw [level]
    cases hentries : a.entries with
    | nil => exact Nat.one_pos
    | cons entry rest => exact h.below entry (by simp [hentries])
  omega

/-- The turn that comes next: a directory is closed, or a directory is entered, or a file is added,
or nothing is left to do and only the root is open. -/
theorem Sound.next_cases {goal : Goal} {a : Assembly} (h : a.Sound goal) :
    (1 < a.nest.depth ∧ a.level < a.nest.depth ∧
      a.next? = some { a with nest := a.nest.closeInner }) ∨
    (∃ d name rest, a.entries = .directory d name :: rest ∧ a.nest.depth ≤ d ∧
      a.next? = some ⟨a.nest.enter (String.ofList name), rest, a.files⟩) ∨
    (∃ d source rest f files, a.entries = .script d source :: rest ∧ a.files = f :: files ∧
      a.nest.depth ≤ d ∧ a.next? = some ⟨a.nest.addFile f, rest, files⟩) ∨
    (a.entries = [] ∧ a.nest.outer = [] ∧ a.next? = none) := by
  by_cases hclose : a.level < a.nest.depth
  · exact .inl ⟨h.one_lt_depth hclose, hclose, by rw [next?, if_pos hclose]⟩
  · obtain ⟨nest, entries, files⟩ := a
    have hdepth : nest.depth ≤ level ⟨nest, entries, files⟩ := Nat.le_of_not_lt hclose
    rw [next?, if_neg hclose]
    cases entries with
    | nil =>
      refine .inr (.inr (.inr ⟨rfl, ?_, rfl⟩))
      have hone : nest.outer.length + 1 ≤ 0 + 1 := hdepth
      exact List.length_eq_zero_iff.1 (Nat.le_zero.1 (Nat.le_of_add_le_add_right hone))
    | cons entry rest =>
      cases entry with
      | directory d name => exact .inr (.inl ⟨d, name, rest, rfl, hdepth, rfl⟩)
      | script d source =>
        have henough := h.enough
        cases files with
        | nil => simp [WalkEntry.scriptCount, WalkEntry.script?] at henough
        | cons f files =>
          exact .inr (.inr (.inl ⟨d, source, rest, f, files, rfl, rfl, hdepth, rfl⟩))

/-- The tree does not depend on whether a directory that has to be closed is closed now. -/
theorem finish_placeAll_closeInner {n : Nest} {files : List FileNode} {entries : List WalkEntry}
    (hbelow : ∀ e ∈ entries, 0 < e.depth) (hlevel : level ⟨n, entries, files⟩ < n.depth) :
    (n.closeInner.placeAll files entries).finish = (n.placeAll files entries).finish := by
  cases entries with
  | nil => exact n.finish_closeInner
  | cons entry rest =>
    have hclose := Nest.closeTo_closeInner (hbelow entry List.mem_cons_self) hlevel
    rw [Nest.placeAll, Nest.placeAll, Nest.place_eq_receive, Nest.place_eq_receive, hclose]

/-- An entry that is deep enough goes into the inner directory. -/
theorem placeAll_cons_of_depth_le {n : Nest} {files : List FileNode} {entry : WalkEntry}
    {rest : List WalkEntry} (hdepth : n.depth ≤ entry.depth) :
    n.placeAll files (entry :: rest)
      = (n.receive files entry).1.placeAll (n.receive files entry).2 rest := by
  rw [Nest.placeAll, Nest.place_eq_receive, Nest.closeTo_of_depth_le hdepth]

/-- A turn keeps what the assembly comes to, and one turn less is left. -/
theorem Sound.step {goal : Goal} {a b : Assembly} (h : a.Sound goal) (hnext : a.next? = some b) :
    b.Sound goal ∧ b.turns + 1 = a.turns := by
  rcases h.next_cases with ⟨hmany, hlevel, hclose⟩ | ⟨d, name, rest, hentries, hdepth, henter⟩ |
    ⟨d, source, rest, f, files, hentries, hfiles, hdepth, hadd⟩ | ⟨-, -, hnone⟩
  · obtain rfl := Option.some.inj (hclose.symm.trans hnext)
    have houter := Nest.depth_closeInner hmany
    refine ⟨⟨h.below, h.enough, ?_, ?_, ?_, ?_⟩, ?_⟩
    · exact (finish_placeAll_closeInner h.below hlevel).trans h.tree
    · exact (congrArg (·.fileList ++ a.files) a.nest.finish_closeInner).trans h.files
    · exact (congrArg (·.directoryCount + _) a.nest.finish_closeInner).trans h.directories
    · exact (congrArg TreeNode.name a.nest.finish_closeInner).trans h.rootName
    · simp only [turns, Nest.depth] at houter hmany ⊢
      omega
  · obtain rfl := Option.some.inj (henter.symm.trans hnext)
    obtain ⟨hbelow, henough, htree, hall, hdirectories, hname⟩ := h
    rw [hentries] at hbelow henough htree hdirectories
    refine ⟨⟨fun e he => hbelow e (List.mem_cons_of_mem _ he), henough, ?_, ?_, ?_, ?_⟩, ?_⟩
    · rw [← htree, placeAll_cons_of_depth_le hdepth]
      rfl
    · exact (congrArg (· ++ a.files) (a.nest.fileList_finish_enter _)).trans hall
    · rw [WalkEntry.directoryCount_cons_directory] at hdirectories
      dsimp only
      rw [Nest.directoryCount_finish_enter, ← hdirectories]
      omega
    · exact (a.nest.name_finish_enter _).trans hname
    · simp only [turns, hentries, Nest.enter, List.length_cons,
        WalkEntry.directoryCount_cons_directory]
      omega
  · obtain rfl := Option.some.inj (hadd.symm.trans hnext)
    obtain ⟨hbelow, henough, htree, hall, hdirectories, hname⟩ := h
    rw [hentries] at hbelow henough htree hdirectories
    rw [hfiles] at henough htree hall
    rw [WalkEntry.directoryCount_cons_script] at hdirectories
    refine ⟨⟨fun e he => hbelow e (List.mem_cons_of_mem _ he), Nat.succ.inj henough, ?_, ?_, ?_, ?_⟩,
      ?_⟩
    · rw [← htree, placeAll_cons_of_depth_le hdepth]
      rfl
    · dsimp only
      rw [Nest.fileList_finish_addFile, List.append_assoc, List.singleton_append, hall]
    · dsimp only
      rw [Nest.directoryCount_finish_addFile, hdirectories]
    · exact (a.nest.name_finish_addFile f).trans hname
    · simp only [turns, hentries, Nest.addFile, List.length_cons,
        WalkEntry.directoryCount_cons_script]
      omega
  · rw [hnone] at hnext
    cases hnext

/-- Without a further turn all entries have been placed, and only the root is open. -/
theorem Sound.of_next?_eq_none {goal : Goal} {a : Assembly} (h : a.Sound goal) :
    a.next? = none → a.entries = [] ∧ a.nest.outer = [] := by
  intro hnone
  rcases h.next_cases with ⟨-, -, hsome⟩ | ⟨_, _, _, -, -, hsome⟩ |
    ⟨_, _, _, _, _, -, -, -, hsome⟩ | ⟨hentries, houter, -⟩
  · simp [hnone] at hsome
  · simp [hnone] at hsome
  · simp [hnone] at hsome
  · exact ⟨hentries, houter⟩

/-- What an assembly comes to stays the same after any number of turns. -/
theorem Sound.of_steps {goal : Goal} {n : Nat} {a b : Assembly} (hsteps : Steps n a b) :
    a.Sound goal → b.Sound goal := by
  induction hsteps with
  | refl a => exact id
  | head hnext _ ih =>
    intro h
    exact ih (h.step hnext).1

/-- The turns come to an end: after as many as are left there is no further one. -/
theorem exists_steps {goal : Goal} {a : Assembly} :
    a.Sound goal → ∃ last, Steps a.turns a last ∧ last.next? = none := by
  intro h
  -- Each turn leaves one less, so the induction is on how many are left.
  induction hturns : a.turns generalizing a with
  | zero =>
    cases hnext : a.next? with
    | none => exact ⟨a, .refl a, hnext⟩
    | some b =>
      have hless := (h.step hnext).2
      omega
  | succ n ih =>
    cases hnext : a.next? with
    | none =>
      obtain ⟨hentries, houter⟩ := h.of_next?_eq_none hnext
      simp [turns, hentries, houter] at hturns
    | some b =>
      obtain ⟨hb, hless⟩ := h.step hnext
      obtain ⟨last, hsteps, hlast⟩ := ih hb (by omega)
      exact ⟨last, .head hnext hsteps, hlast⟩

def goalOf (rootName : String) (entries : List WalkEntry) (files : List FileNode) : Goal :=
  ⟨assemble rootName entries files, files, WalkEntry.directoryCount entries + 1, rootName⟩

/-- At the start what has not been placed makes up all that the assembly has to come to. -/
theorem sound_start {rootName : String} {entries : List WalkEntry} {files : List FileNode}
    (hbelow : ∀ e ∈ entries, 0 < e.depth) (henough : files.length = WalkEntry.scriptCount entries) :
    (start rootName entries files).Sound (goalOf rootName entries files) where
  below := hbelow
  enough := henough
  tree := rfl
  files := rfl
  directories := Nat.add_comm 1 _
  rootName := rfl

/-- When there is no further turn, the tree is assembled. It holds all files in their order and a
directory for each entry that is one, and its root has the name given. -/
theorem Sound.assembled {goal : Goal} {a : Assembly} (h : a.Sound goal) (hnone : a.next? = none) :
    a.nest.outer = [] ∧ a.nest.inner.close = goal.tree ∧ goal.tree.fileList = goal.files ∧
      goal.tree.directoryCount = goal.directories ∧ goal.tree.name = goal.rootName := by
  obtain ⟨hentries, houter⟩ := h.of_next?_eq_none hnone
  have hfiles : a.files = [] := by
    rw [← List.length_eq_zero_iff, h.enough, hentries]
    rfl
  have htree : a.nest.finish = goal.tree := by
    rw [← h.tree, hentries, hfiles, Nest.placeAll]
  have hclose : a.nest.inner.close = a.nest.finish := by
    rw [Nest.finish, Nest.closeTo_of_depth_le (by simp [Nest.depth, houter])]
  refine ⟨houter, hclose.trans htree, ?_, ?_, ?_⟩
  · rw [← htree, ← h.files, hfiles, List.append_nil]
  · rw [← htree, ← h.directories, hentries, WalkEntry.directoryCount_nil, Nat.add_zero]
  · rw [← htree, h.rootName]

end Assembly

/-- Assembling ends, and nothing is lost or added on the way. No walk meets an entry at depth zero.
For all entries at positive depths, be they those of a tree or not, and as many files as there are
scripts among them, there is a last turn, after one turn for each entry and one more for each
directory; then only the root is open, and it is the assembled tree. In no turn is a directory closed
while only the root is open. The tree holds the files in their order and below its root as many
directories as there are among the entries, and its root is a directory with the name given. -/
theorem assemble_conserves :
    (∀ (w : Walker) (root : Location), ∀ e ∈ (w.walk root).entries, 0 < e.depth) ∧
    ∀ (rootName : String) (entries : List WalkEntry) (files : List FileNode),
      (∀ e ∈ entries, 0 < e.depth) → files.length = WalkEntry.scriptCount entries →
        (∃ last, Assembly.Steps (entries.length + WalkEntry.directoryCount entries)
            (.start rootName entries files) last ∧ last.next? = none ∧ last.nest.outer = [] ∧
            last.nest.inner.close = assemble rootName entries files) ∧
        (∀ n a, Assembly.Steps n (.start rootName entries files) a → a.level < a.nest.depth →
          1 < a.nest.depth) ∧
        (assemble rootName entries files).files = files ∧
        (assemble rootName entries files).belowRoot.countP (·.2.isDirectory)
          = WalkEntry.directoryCount entries ∧
        (assemble rootName entries files).isDirectory = true ∧
        (assemble rootName entries files).name = rootName := by
  refine ⟨fun w root => w.depth_pos_of_mem_walk root, ?_⟩
  intro rootName entries files hbelow henough
  have hstart : (Assembly.start rootName entries files).Sound _ :=
    Assembly.sound_start hbelow henough
  obtain ⟨last, hsteps, hlast⟩ := Assembly.exists_steps hstart
  obtain ⟨houter, hclose, hfiles, hdirectories, hname⟩ :=
    (hstart.of_steps hsteps).assembled hlast
  refine ⟨⟨last, hsteps, hlast, houter, hclose⟩, ?_, ?_, ?_, rfl, hname⟩
  · intro n a hreached
    exact (hstart.of_steps hreached).one_lt_depth
  · rw [TreeNode.files_eq_fileList]
    exact hfiles
  · exact Nat.succ.inj ((TreeNode.countP_belowRoot rfl).trans hdirectories)

/-- Entries whose depths leap: the first script lies four steps below any open directory, and the
directory behind it is not inside of anything. -/
def leapingEntries : List WalkEntry :=
  [.directory 1 "a".toList, .script 6 ⟨"x.js".toList, ⟨"/r/x.js".toList⟩, .javaScript⟩,
    .directory 3 "b".toList, .directory 9 "c".toList,
    .script 2 ⟨"y.ts".toList, ⟨"/r/y.ts".toList⟩, .typeScript⟩]

def leapingFiles : List FileNode :=
  [⟨"x.js", [], .javaScript, .parsed⟩, ⟨"y.ts", [], .typeScript, .unreadable⟩]

/-- The leaping entries are assembled in eight turns, with both files and three directories. -/
theorem assemble_conserves_leapingEntries :
    (∀ e ∈ leapingEntries, 0 < e.depth) ∧
    leapingFiles.length = WalkEntry.scriptCount leapingEntries ∧
    (∃ last, Assembly.Steps 8 (.start "r" leapingEntries leapingFiles) last ∧
      last.next? = none) ∧
    (assemble "r" leapingEntries leapingFiles).files = leapingFiles ∧
    (assemble "r" leapingEntries leapingFiles).belowRoot.countP (·.2.isDirectory) = 3 := by
  have hbelow : ∀ e ∈ leapingEntries, 0 < e.depth := by
    intro e he
    simp only [leapingEntries, List.mem_cons, List.not_mem_nil, or_false] at he
    rcases he with rfl | rfl | rfl | rfl | rfl <;> decide
  have henough : leapingFiles.length = WalkEntry.scriptCount leapingEntries := rfl
  obtain ⟨⟨last, hsteps, hlast, -, -⟩, -, hfiles, hdirectories, -, -⟩ :=
    assemble_conserves.2 "r" leapingEntries leapingFiles hbelow henough
  exact ⟨hbelow, henough, ⟨last, hsteps, hlast⟩, hfiles, hdirectories⟩

end CodeAtlas

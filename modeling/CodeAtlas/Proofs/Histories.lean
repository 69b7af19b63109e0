import CodeAtlas.Proofs.Pruning
import CodeAtlas.Proofs.Reordering
import CodeAtlas.Proofs.ScanTree

/-!
# Histories of counts

Counts begin at zero. Then symbols and files are added one by one, and now and again everything is
replaced by the counts of a tree. In each state that is reached the symbols are those of all sorts
taken together, and the files are those of all statuses.

- `CountStep`, `CountStep.run`: the steps of a history, and the counts at its end.
- `ScanStats.Balanced`: the symbols by sort and the files by status make up the totals.
- `CountStep.balanced_apply`, `CountStep.balanced_run`: what a step and a history keep.
- `CountStep.run_eq_of_perm`: additions in another order.
- `CountStep.histories`: what holds of all histories, and of the counts of a scan.
-/

namespace CodeAtlas

namespace ScanStats

/-- The totals are those of all sorts of symbols and of all statuses of files. -/
structure Balanced (s : ScanStats) : Prop where
  symbols : s.totalSymbols = s.functions + s.classes + s.methods + s.routes
  files : s.totalFiles
    = s.parsedFiles + s.recoveredFiles + s.unparsableFiles + s.unreadableFiles + s.oversizedFiles

theorem balanced_zero : Balanced 0 := ⟨rfl, rfl⟩

/-- The sum of balanced counts is balanced. -/
theorem Balanced.add {a b : ScanStats} (ha : a.Balanced) (hb : b.Balanced) : (a + b).Balanced := by
  obtain ⟨hsymbols, hfiles⟩ := ha
  obtain ⟨hsymbols', hfiles'⟩ := hb
  constructor
  · simp only [add_def]
    omega
  · simp only [add_def]
    omega

theorem balanced_sum {counts : List ScanStats} (h : ∀ s ∈ counts, s.Balanced) :
    counts.sum.Balanced := by
  induction counts with
  | nil => exact balanced_zero
  | cons s rest ih =>
    rw [List.forall_mem_cons] at h
    rw [List.sum_cons]
    exact h.1.add (ih h.2)

theorem balanced_ofSymbol (kind : SymbolKind) : (ofSymbol kind).Balanced := by
  cases kind <;> exact ⟨rfl, rfl⟩

theorem balanced_addStatus (status : FileStatus) : (({} : ScanStats).addStatus status).Balanced := by
  cases status <;> exact ⟨rfl, rfl⟩

/-- What a file contributes is balanced, as each symbol has one sort and each file one status. -/
theorem balanced_ofFile (f : FileNode) : (ofFile f).Balanced := by
  rw [ofFile_eq]
  refine (balanced_addStatus f.status).add (balanced_sum ?_)
  simp only [List.forall_mem_map]
  exact fun x _ => balanced_ofSymbol x.kind

/-- The counts of a tree are balanced, as those of its files are. -/
theorem balanced_ofTree (t : TreeNode) : (ofTree t).Balanced := by
  rw [ofTree_eq]
  refine Balanced.add ⟨rfl, rfl⟩ (balanced_sum ?_)
  simp only [List.forall_mem_map]
  exact fun f _ => balanced_ofFile f

/-! ## How much is counted -/

def itemsHom : ScanStats →+ Nat where
  toFun s := s.totalSymbols + s.totalFiles
  map_zero' := rfl
  map_add' a b := by simp only [add_def]; omega

/-- A file counts as one item, and so does each of its symbols. -/
theorem itemsHom_ofFile (f : FileNode) : itemsHom (ofFile f) = f.symbols.length + 1 := by
  have hsymbol : ∀ kind, itemsHom (ofSymbol kind) = 1 := by
    intro kind
    cases kind <;> rfl
  have hstatus : itemsHom (({} : ScanStats).addStatus f.status) = 1 := by
    cases f.status <;> rfl
  rw [ofFile_eq, map_add, map_list_sum, List.map_map, hstatus, Nat.add_comm]
  simp [Function.comp_def, hsymbol]

/-- The items of a tree are its files and their symbols. -/
theorem itemsHom_ofTree (t : TreeNode) :
    itemsHom (ofTree t) = (t.fileList.map fun f => f.symbols.length + 1).sum := by
  have hdirectories : itemsHom (ofDirectories (t.directoryCount - 1)) = 0 := rfl
  rw [ofTree_eq, map_add, hdirectories, Nat.zero_add, map_list_sum, List.map_map]
  simp only [Function.comp_def, itemsHom_ofFile]

end ScanStats

/-! ## Steps -/

/-- A step of a history of counts: a symbol or a file is added, or the counts of a tree take the
place of what there was. -/
inductive CountStep where
  | addSymbol (kind : SymbolKind)
  | addFile (f : FileNode)
  | replace (t : TreeNode)

namespace CountStep

def apply (s : ScanStats) : CountStep → ScanStats
  | addSymbol kind => s.addSymbol kind
  | addFile f => s.addFile f
  | replace t => .ofTree t

def run (steps : List CountStep) : ScanStats := steps.foldl apply {}

/-- What there was is kept, and the step adds to it. -/
def IsAddition : CountStep → Prop
  | replace _ => False
  | _ => True

def counted : CountStep → ScanStats
  | addSymbol kind => .ofSymbol kind
  | addFile f => .ofFile f
  | replace t => .ofTree t

def size : CountStep → Nat
  | addSymbol _ => 1
  | addFile f => f.symbols.length + 1
  | replace t => (t.fileList.map fun f => f.symbols.length + 1).sum

variable {s : ScanStats} {step : CountStep}

/-- An addition adds what the step counts to what there was. -/
theorem apply_eq_add (h : step.IsAddition) (s : ScanStats) : apply s step = s + step.counted := by
  cases step with
  | addSymbol kind => exact ScanStats.addSymbol_eq s kind
  | addFile f => exact ScanStats.addFile_eq s f
  | replace t => exact h.elim

/-- Each step keeps counts balanced. -/
theorem balanced_apply (h : s.Balanced) (step : CountStep) : (apply s step).Balanced := by
  cases step with
  | addSymbol kind =>
    rw [apply, ScanStats.addSymbol_eq]
    exact h.add (ScanStats.balanced_ofSymbol kind)
  | addFile f =>
    rw [apply, ScanStats.addFile_eq]
    exact h.add (ScanStats.balanced_ofFile f)
  | replace t => exact ScanStats.balanced_ofTree t

/-- The items that a step counts are its size. -/
theorem itemsHom_counted (step : CountStep) : ScanStats.itemsHom step.counted = step.size := by
  cases step with
  | addSymbol kind => cases kind <;> rfl
  | addFile f => exact ScanStats.itemsHom_ofFile f
  | replace t => exact ScanStats.itemsHom_ofTree t

/-- A step counts no more than it adds or puts in place of what there was. -/
theorem itemsHom_apply_le (s : ScanStats) (step : CountStep) :
    ScanStats.itemsHom (apply s step) ≤ ScanStats.itemsHom s + step.size := by
  rw [← itemsHom_counted]
  cases step with
  | addSymbol kind => rw [apply, counted, ScanStats.addSymbol_eq, map_add]
  | addFile f => rw [apply, counted, ScanStats.addFile_eq, map_add]
  | replace t => exact Nat.le_add_left _ _

/-- Additions count neither directories nor errors. -/
theorem counted_of_isAddition (h : step.IsAddition) :
    step.counted.totalDirectories = 0 ∧ step.counted.walkErrors = 0 := by
  cases step with
  | addSymbol kind => cases kind <;> exact ⟨rfl, rfl⟩
  | addFile f =>
    have hdirectories := ScanStats.totalDirectories_sum_ofFile [f]
    have herrors := ScanStats.walkErrors_sum_ofFile [f]
    rw [List.map_singleton, List.sum_singleton] at hdirectories herrors
    exact ⟨hdirectories, herrors⟩
  | replace t => exact h.elim

/-- Adding lowers no figure, and it does not touch directories and errors. -/
theorem apply_of_isAddition (h : step.IsAddition) (s : ScanStats) :
    s ≤ apply s step ∧ (apply s step).totalDirectories = s.totalDirectories ∧
      (apply s step).walkErrors = s.walkErrors := by
  obtain ⟨hdirectories, herrors⟩ := counted_of_isAddition h
  rw [apply_eq_add h]
  exact ⟨ScanStats.le_add _ _, by simp [ScanStats.add_def, hdirectories],
    by simp [ScanStats.add_def, herrors]⟩

/-! ## Histories -/

/-- The totals are right in each state of a history. -/
theorem balanced_run (steps : List CountStep) : (run steps).Balanced := by
  have hfrom : ∀ s : ScanStats, s.Balanced → (steps.foldl apply s).Balanced := by
    induction steps with
    | nil => exact fun _ hs => hs
    | cons step rest ih => exact fun s hs => ih _ (balanced_apply hs step)
  exact hfrom {} ScanStats.balanced_zero

/-- No more is counted than the steps of the history bring. -/
theorem itemsHom_run_le (steps : List CountStep) :
    ScanStats.itemsHom (run steps) ≤ (steps.map size).sum := by
  have hfrom : ∀ s : ScanStats, ScanStats.itemsHom (steps.foldl apply s)
      ≤ ScanStats.itemsHom s + (steps.map size).sum := by
    induction steps with
    | nil => exact fun _ => Nat.le_refl _
    | cons step rest ih =>
      intro s
      calc ScanStats.itemsHom ((step :: rest).foldl apply s)
        _ ≤ ScanStats.itemsHom (apply s step) + (rest.map size).sum := ih _
        _ ≤ ScanStats.itemsHom s + step.size + (rest.map size).sum :=
            Nat.add_le_add_right (itemsHom_apply_le s step) _
        _ = ScanStats.itemsHom s + ((step :: rest).map size).sum := by
            rw [List.map_cons, List.sum_cons, Nat.add_assoc]
  exact (hfrom {}).trans_eq (Nat.zero_add _)

/-- A history of additions is a sum, whatever their order. -/
theorem run_eq_sum {steps : List CountStep} (h : ∀ step ∈ steps, step.IsAddition) :
    run steps = (steps.map counted).sum := by
  have hfrom : ∀ s : ScanStats, steps.foldl apply s = s + (steps.map counted).sum := by
    induction steps with
    | nil => simp
    | cons step rest ih =>
      rw [List.forall_mem_cons] at h
      intro s
      rw [List.foldl_cons, ih h.2, apply_eq_add h.1, List.map_cons, List.sum_cons, add_assoc]
  exact (hfrom {}).trans (zero_add _)

/-- The order of additions does not matter. -/
theorem run_eq_of_perm {steps steps' : List CountStep} (h : ∀ step ∈ steps, step.IsAddition)
    (hperm : steps.Perm steps') : run steps' = run steps := by
  have h' : ∀ step ∈ steps', step.IsAddition := fun step hstep => h step (hperm.mem_iff.2 hstep)
  rw [run_eq_sum h, run_eq_sum h', (hperm.map counted).sum_eq]

/-- Whatever is counted in whatever order, the totals are those of all sorts of symbols and of all
statuses of files, and no more is counted than the steps bring. Adding lowers no figure and touches
neither directories nor errors, and the order of additions does not matter. The totals of a scan are
right as well. -/
theorem histories :
    (∀ steps : List CountStep, (run steps).Balanced ∧
      (run steps).totalSymbols + (run steps).totalFiles ≤ (steps.map size).sum) ∧
    (∀ (s : ScanStats) (step : CountStep), step.IsAddition →
      s ≤ apply s step ∧ (apply s step).totalDirectories = s.totalDirectories ∧
        (apply s step).walkErrors = s.walkErrors) ∧
    (∀ steps steps' : List CountStep, (∀ step ∈ steps, step.IsAddition) → steps.Perm steps' →
      run steps' = run steps) ∧
    ∀ (fs : FileSystem) (current : Location) (c : ScanConfig) (metadata : ScanMetadata)
      (map : ProjectMap), scanProject fs current c metadata = .ok map → map.stats.Balanced := by
  refine ⟨fun steps => ⟨balanced_run steps, itemsHom_run_le steps⟩,
    fun s step h => apply_of_isAddition h s, fun steps steps' h hperm => run_eq_of_perm h hperm, ?_⟩
  intro fs current c metadata map h
  obtain ⟨survey, -, rfl⟩ := scanProject_eq_ok h
  -- The number of errors is put into the counts of the tree; the totals do not see it.
  obtain ⟨hsymbols, hfiles⟩ := ScanStats.balanced_ofTree (survey.tree fs c)
  exact ⟨hsymbols, hfiles⟩

/-- A file and a method are added to the counts of a tree. -/
def shortHistory : List CountStep :=
  [.replace nestedScripts, .addFile ⟨"x.js", [], .javaScript, .recovered⟩, .addSymbol .method]

/-- The short history ends with four files, and its additions may change places. The totals of the
small project are right. -/
theorem histories_shortHistory :
    (run shortHistory).Balanced ∧ (run shortHistory).totalFiles = 4 ∧
    run [.addSymbol .method, .addFile ⟨"x.js", [], .javaScript, .recovered⟩]
      = run [.addFile ⟨"x.js", [], .javaScript, .recovered⟩, .addSymbol .method] ∧
    (run shortHistory).totalDirectories = (run (shortHistory.take 1)).totalDirectories ∧
    ∃ map, scanProject smallProject [] strictSettings {} = .ok map ∧ map.stats.Balanced := by
  obtain ⟨hbalanced, hadds, horder, hscan⟩ := histories
  have hfile := (hadds (run (shortHistory.take 1))
    (.addFile ⟨"x.js", [], .javaScript, .recovered⟩) trivial).2.1
  have hmethod := (hadds (run (shortHistory.take 2)) (.addSymbol .method) trivial).2.1
  have hadditions : ∀ step ∈ [CountStep.addFile ⟨"x.js", [], .javaScript, .recovered⟩,
      .addSymbol .method], step.IsAddition := by
    simp only [List.forall_mem_cons]
    exact ⟨trivial, trivial, by simp⟩
  have hmap : ∃ map, scanProject smallProject [] strictSettings {} = .ok map := ⟨_, rfl⟩
  obtain ⟨map, hmap⟩ := hmap
  refine ⟨(hbalanced _).1, ?_, horder _ _ hadditions (.swap _ _ _), hmethod.trans hfile, map, hmap,
    hscan _ _ _ _ _ hmap⟩
  cbv

end CountStep

end CodeAtlas

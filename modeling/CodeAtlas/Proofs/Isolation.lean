import CodeAtlas.Proofs.Edits
import CodeAtlas.Proofs.TwoScans

/-!
# Scripts do not influence each other

Two scans of the same layout give the same tree but for the symbols and statuses, and those of a node
depend on nothing but the file that the node is read from.

- `FileSystem.ReadsNode`: a node is read from a file at a location.
- `FileSystem.nodesAt`: the nodes that are read from the file at a location.
- `Isolated`: what the maps of two scans of the same layout have in common.
- `scanProject_isolated`: two scans of the same layout have it in common.
-/

namespace CodeAtlas

/-! ## Where scripts are read from -/

/-- A script is read from the file `t` at the location `l`. -/
structure ScriptFile.ReadFrom (fs : FileSystem) (source : ScriptFile) (l : Location)
    (t : FileTree) : Prop where
  place : fs.place? source.path = some l
  content : fs.at? l = some t
  isFile : t.IsFile
  outline : ∀ c, readScript fs c source = t.outline c source.language

/-- A script whose path leads to a file is read from there. -/
theorem ScriptFile.readFrom_of_locate {fs : FileSystem} {source : ScriptFile} {trail : Trail}
    (hlocate : fs.locate [] source.path = .ok trail) (hfile : (fs.node trail).IsFile) :
    source.ReadFrom fs trail.location (fs.node trail) where
  place := FileSystem.place?_of_locate hlocate
  content := (FileSystem.locate_leads (by trivial) hlocate).at?_location
  isFile := hfile
  outline := readScript_eq_outline hlocate

/-- Whether something is a file can be told without its bytes. -/
theorem FileTree.isFile_of_blank {t u : FileTree} (h : t.blank = u.blank) (ht : t.IsFile) :
    u.IsFile := by
  cases t with
  | file bytes => cases u <;> simp_all [FileTree.blank, FileTree.IsFile]
  | sealedFile size => cases u <;> simp_all [FileTree.blank, FileTree.IsFile]
  | _ => exact absurd ht (by simp [FileTree.IsFile])

namespace FileSystem

variable {fs fs' : FileSystem}

/-- In file systems with one layout a path leads to the same place, or nowhere for the same
reason. -/
theorem locate_cases_of_blank (h : fs.blank = fs'.blank) {here here' : Trail}
    (hhere : here.blank = here'.blank) (p : Path) :
    (∃ e, fs.locate here p = .error e ∧ fs'.locate here' p = .error e) ∨
      ∃ trail trail', fs.locate here p = .ok trail ∧ fs'.locate here' p = .ok trail' ∧
        trail'.location = trail.location ∧ (fs'.node trail').blank = (fs.node trail).blank := by
  have hblank := fs'.locate_blank_from here' p
  rw [← h, ← hhere, locate_blank_from] at hblank
  cases hlocate : fs.locate here p with
  | error e =>
    cases hlocate' : fs'.locate here' p with
    | error e' =>
      rw [hlocate, hlocate'] at hblank
      exact .inl ⟨e, rfl, congrArg Except.error (Except.error.inj hblank).symm⟩
    | ok trail' => simp [hlocate, hlocate', Except.map] at hblank
  | ok trail =>
    cases hlocate' : fs'.locate here' p with
    | error e' => simp [hlocate, hlocate', Except.map] at hblank
    | ok trail' =>
      rw [hlocate, hlocate'] at hblank
      have htrail : trail.blank = trail'.blank := Except.ok.inj hblank
      refine .inr ⟨trail, trail', rfl, rfl, ?_, ?_⟩
      · rw [← Trail.location_blank, ← htrail, Trail.location_blank]
      · rw [← node_blank, ← h, ← htrail, node_blank]

/-- In file systems with one layout a path leads to the same place. -/
theorem locate_of_blank (h : fs.blank = fs'.blank) {p : Path} {trail : Trail}
    (hlocate : fs.locate [] p = .ok trail) :
    ∃ trail', fs'.locate [] p = .ok trail' ∧ trail'.location = trail.location ∧
      (fs'.node trail').blank = (fs.node trail).blank := by
  have hroot : Trail.blank [] = Trail.blank [] := rfl
  rcases locate_cases_of_blank h hroot p with
    ⟨e, herror, -⟩ | ⟨found, trail', hfound, hlocate', hsame⟩
  · simp [hlocate] at herror
  · obtain rfl : found = trail := Except.ok.inj (hfound.symm.trans hlocate)
    exact ⟨trail', hlocate', hsame⟩

/-- In file systems with one layout a script is read from the same place. -/
theorem readFrom_of_blank (h : fs.blank = fs'.blank) {source : ScriptFile} {l : Location}
    (hat : source.IsAt fs l) :
    ∃ place t t', source.ReadFrom fs place t ∧ source.ReadFrom fs' place t' := by
  obtain ⟨trail, hlocate, hfile⟩ := hat.found
  obtain ⟨trail', hlocate', hlocation, hnode⟩ := locate_of_blank h hlocate
  have hfile' := FileTree.isFile_of_blank hnode.symm hfile
  exact ⟨trail.location, fs.node trail, fs'.node trail',
    ScriptFile.readFrom_of_locate hlocate hfile,
    hlocation ▸ ScriptFile.readFrom_of_locate hlocate' hfile'⟩

/-! ## Nodes -/

/-- The node at some names of a tree is read from the file `t`, which is at the location `l`. Of the
node, only the name is not decided by the file and by the settings. -/
structure ReadsNode (fs : FileSystem) (c : ScanConfig) (root : Location)
    (p : List String × FileNode) (l : Location) (t : FileTree) : Prop where
  place : fs.place? (placePath root p.1) = some l
  content : fs.at? l = some t
  isFile : t.IsFile
  language : p.2.language.Names p.2.name.toList
  outline : (p.2.symbols, p.2.status) = t.outline c p.2.language

/-- The nodes of a tree that are read from the file at a location. -/
def nodesAt (fs : FileSystem) (root l : Location) (tree : TreeNode) :
    List (List String × FileNode) :=
  tree.placed.filter fun p => fs.place? (placePath root p.1) = some l

/-- Some names lead from a root to a file, and no link is on the way. -/
def Spells (fs : FileSystem) (root : Location) (names : List String) : Prop :=
  ∃ real t, fs.place? (.ofLocation root) = some real ∧
    fs.at? (real ++ names.map String.toList) = some t ∧ t.IsFile

end FileSystem

def ScanStats.ofNodes (nodes : List (List String × FileNode)) : ScanStats :=
  (nodes.map fun p => ofFile p.2).sum

/-- What the maps of two scans of the same layout have in common. -/
structure Isolated (fs fs' : FileSystem) (c c' : ScanConfig) (root : Location)
    (map map' : ProjectMap) : Prop where
  /-- The directories, the files, their names, order and languages are the same. -/
  skeleton : map.tree.skeleton = map'.tree.skeleton
  totalDirectories : map.stats.totalDirectories = map'.stats.totalDirectories
  totalFiles : map.stats.totalFiles = map'.stats.totalFiles
  walkErrors : map.stats.walkErrors = map'.stats.walkErrors
  /-- Each node depends on nothing but the file that it is read from. -/
  nodes : List.Forall₂ (fun p q => p.1 = q.1 ∧ ∃ l t t',
      fs.ReadsNode c root p l t ∧ fs'.ReadsNode c' root q l t')
    map.tree.placed map'.tree.placed
  /-- A change of one file changes at most the nodes that are read from it … -/
  changed : ∀ l, fs.SameFilesExcept fs' l → c'.outline = c.outline →
    c'.maxFileSize = c.maxFileSize →
      List.Forall₂ (fun p q => fs.place? (placePath root p.1) ≠ some l → p = q)
        map.tree.placed map'.tree.placed
  /-- … and the counts by what these nodes contribute. -/
  counts : ∀ l, fs.SameFilesExcept fs' l → c'.outline = c.outline →
    c'.maxFileSize = c.maxFileSize →
      map'.stats + .ofNodes (fs.nodesAt root l map.tree)
        = map.stats + .ofNodes (fs'.nodesAt root l map'.tree)
  /-- There is one such node, unless a link on the way to the file is followed. -/
  single : ∀ l, (c.followSymlinks = false ∨
      ∀ p ∈ fs.nodesAt root l map.tree, fs.Spells root p.1) →
    (fs.nodesAt root l map.tree).length ≤ 1
  /-- A node is too large if its file has more bytes than the settings allow; it has no symbols. -/
  tooLarge : ∀ p ∈ map.tree.placed,
    (p.2.status = .tooLarge ↔
      ∃ size, fs.fileSize? [] (placePath root p.1) = some size ∧ c.maxFileSize < size) ∧
    (p.2.status = .tooLarge → p.2.symbols = [])
  /-- Raising the limit changes no node that was not too large. -/
  raised : fs' = fs → c'.outline = c.outline → c.maxFileSize ≤ c'.maxFileSize →
    List.Forall₂ (fun p q => p.2.status ≠ .tooLarge → p = q) map.tree.placed map'.tree.placed

/-! ## Script by script -/

/-- A script's node is decided by what is read of it. -/
theorem outlineFile_congr {fs fs' : FileSystem} {c c' : ScanConfig} {source : ScriptFile}
    (h : readScript fs c source = readScript fs' c' source) :
    outlineFile fs c source = outlineFile fs' c' source := by
  rw [outlineFile_eq, outlineFile_eq, h]

namespace ScriptFile.ReadFrom

variable {fs fs' : FileSystem} {c c' : ScanConfig} {source : ScriptFile} {l : Location}
  {t t' : FileTree}

/-- A script that is read from a file has its node read from this file. -/
theorem readsNode (h : source.ReadFrom fs l t) {around : FileSystem} {root : Location}
    {names : List Name} (hat : source.IsAt around (root ++ names)) (c : ScanConfig) :
    fs.ReadsNode c root (Layout.placeRead (outlineFile fs c) (names, source)) l t where
  place := by
    rw [Layout.placeRead_fst, placePath_map_ofList, ← hat.path]
    exact h.place
  content := h.content
  isFile := h.isFile
  language := by
    have hname : (outlineFile fs c source).name.toList = source.name := String.toList_ofList
    rw [Layout.placeRead_snd, hname]
    exact hat.language
  outline := by
    rw [Layout.placeRead_snd, outlineFile_eq]
    exact h.outline c

/-- A script that is read from elsewhere is not changed. -/
theorem outlineFile_eq_of_ne (h : source.ReadFrom fs l t) (h' : source.ReadFrom fs' l t')
    {m : Location} (hsame : fs.SameFilesExcept fs' m) (houtline : c'.outline = c.outline)
    (hlimit : c'.maxFileSize = c.maxFileSize) (hne : l ≠ m) :
    outlineFile fs c source = outlineFile fs' c' source := by
  have hcontent : fs'.at? l = some t := hsame l hne t h.isFile h.content
  obtain rfl : t = t' := Option.some.inj (hcontent.symm.trans h'.content)
  refine outlineFile_congr ?_
  rw [h.outline, h'.outline, FileTree.outline_congr houtline hlimit]

/-- A script is too large iff its file is larger than the limit. -/
theorem tooLarge_iff (h : source.ReadFrom fs l t) (c : ScanConfig) :
    (outlineFile fs c source).status = .tooLarge ↔
      ∃ size, t.size? = some size ∧ c.maxFileSize < size := by
  rw [status_outlineFile, h.outline, FileTree.outline_eq_tooLarge_iff]

/-- A script that is too large has no symbols. -/
theorem symbols_of_tooLarge (h : source.ReadFrom fs l t)
    (hstatus : (outlineFile fs c source).status = .tooLarge) :
    (outlineFile fs c source).symbols = [] := by
  obtain ⟨size, hsize, hlarge⟩ := (h.tooLarge_iff c).1 hstatus
  rw [symbols_outlineFile, h.outline, FileTree.outline_of_tooLarge hsize hlarge]

/-- Raising the limit does not change a script that was not too large. -/
theorem outlineFile_raised (h : source.ReadFrom fs l t) (houtline : c'.outline = c.outline)
    (hlimit : c.maxFileSize ≤ c'.maxFileSize)
    (hstatus : (outlineFile fs c source).status ≠ .tooLarge) :
    outlineFile fs c source = outlineFile fs c' source := by
  rw [status_outlineFile, h.outline] at hstatus
  refine outlineFile_congr ?_
  rw [h.outline, h.outline, FileTree.outline_raised houtline hlimit hstatus]

end ScriptFile.ReadFrom

/-! ## Nodes at a location -/

/-- Where two functions agree outside of a part of a list, their sums differ by those of the part. -/
theorem sum_add_sum_filter {α M : Type} [AddCommMonoid M] {f g : α → M} {part : α → Bool}
    {items : List α} (h : ∀ a ∈ items, part a = false → f a = g a) :
    (items.map g).sum + ((items.filter part).map f).sum
      = (items.map f).sum + ((items.filter part).map g).sum := by
  induction items with
  | nil => rfl
  | cons a rest ih =>
    have hrest := ih fun b hb => h b (List.mem_cons_of_mem _ hb)
    cases hpart : part a with
    | true =>
      simp only [List.map_cons, List.sum_cons, List.filter_cons_of_pos hpart]
      calc g a + (rest.map g).sum + (f a + ((rest.filter part).map f).sum)
          = g a + f a + ((rest.map g).sum + ((rest.filter part).map f).sum) := by abel
        _ = g a + f a + ((rest.map f).sum + ((rest.filter part).map g).sum) := by rw [hrest]
        _ = f a + (rest.map f).sum + (g a + ((rest.filter part).map g).sum) := by abel
    | false =>
      have hsame : f a = g a := h a List.mem_cons_self hpart
      have hfilter : (a :: rest).filter part = rest.filter part :=
        List.filter_cons_of_neg (by simp [hpart])
      rw [hfilter, List.map_cons, List.map_cons, List.sum_cons, List.sum_cons, hsame, add_assoc,
        hrest, add_assoc]

theorem length_le_one_of_nodup {α : Type} {items : List α} (h : items.Nodup) {a : α}
    (hall : ∀ b ∈ items, b = a) : items.length ≤ 1 := by
  match items with
  | [] => exact Nat.zero_le _
  | [b] => exact Nat.le_refl _
  | b :: c :: rest =>
    have hsame : b = c := (hall b (by simp)).trans (hall c (by simp)).symm
    simp [hsame] at h

namespace Survey.Lays

variable {s : Survey} {fs : FileSystem} {c : ScanConfig} {trail : Trail}
  {children : List Layout}

def scriptsAt (fs : FileSystem) (l : Location) (children : List Layout) :
    List (List Name × ScriptFile) :=
  (Layout.placedAll children).filter fun p => fs.place? p.2.path = some l

/-- The nodes at a location are the scripts there, read. -/
theorem nodesAt_eq (h : s.Lays fs c trail.location children) (fs₁ fs₂ : FileSystem)
    (c₂ : ScanConfig) (l : Location) :
    fs₁.nodesAt s.root l (s.tree fs₂ c₂)
      = (scriptsAt fs₁ l children).map (Layout.placeRead (outlineFile fs₂ c₂)) := by
  rw [FileSystem.nodesAt, h.placed_tree, List.filter_map, scriptsAt]
  refine congrArg _ (List.filter_congr fun p hp => ?_)
  rw [Function.comp_apply, Layout.placeRead_fst, placePath_map_ofList, ← (h.isAt p hp).path]

/-- Two readings that differ only in the scripts at a location differ in the counts by what these
scripts contribute. -/
theorem stats_add_ofNodes (h : s.Lays fs c trail.location children) {fs' : FileSystem}
    {c' : ScanConfig} {l : Location}
    (hsame : ∀ p ∈ Layout.placedAll children, fs.place? p.2.path ≠ some l →
      outlineFile fs c p.2 = outlineFile fs' c' p.2) (metadata metadata' : ScanMetadata) :
    (s.toMap fs' c' metadata').stats
        + .ofNodes ((scriptsAt fs l children).map (Layout.placeRead (outlineFile fs c)))
      = (s.toMap fs c metadata).stats
        + .ofNodes ((scriptsAt fs l children).map (Layout.placeRead (outlineFile fs' c'))) := by
  have hcontribution : ∀ p ∈ Layout.placedAll children,
      decide (fs.place? p.2.path = some l) = false →
        ScanStats.ofFile (outlineFile fs c p.2) = .ofFile (outlineFile fs' c' p.2) := by
    intro p hp hplace
    rw [hsame p hp (of_decide_eq_false hplace)]
  have hsum := sum_add_sum_filter hcontribution
  simp only [ScanStats.ofNodes, List.map_map, Function.comp_def, Layout.placeRead_snd]
  rw [h.stats_eq, h.stats_eq, add_right_comm, add_assoc (ScanStats.ofDirectories _), scriptsAt,
    hsum]
  abel

/-- No two scripts are read from the same file, unless a link on the way is followed. -/
theorem length_scriptsAt_le (hfs : fs.WellFormed) (h : s.Lays fs c trail.location children)
    (hroot : fs.locate [] (.ofLocation s.root) = .ok trail) {l : Location}
    (hunlinked : c.followSymlinks = false ∨
      ∀ p ∈ scriptsAt fs l children, fs.Spells s.root (p.1.map String.ofList)) :
    (scriptsAt fs l children).length ≤ 1 := by
  -- The names of each such script are those that lead from the root to the location.
  have hnames : ∀ p ∈ scriptsAt fs l children, trail.location ++ p.1 = l := by
    intro p hp
    obtain ⟨hmem, hplace⟩ := List.mem_filter.1 hp
    have hplace : fs.place? p.2.path = some l := by simpa using hplace
    rcases hunlinked with hnot | hspells
    -- If no link is followed, a script is read from where its names say.
    · obtain ⟨found, hlocate, -⟩ := (h.isAt p hmem).found
      rw [FileSystem.place?_of_locate hlocate, h.unlinked hnot p hmem found hlocate] at hplace
      exact Option.some.inj hplace
    -- Otherwise the names lead to a file without a link, and so does the path.
    · obtain ⟨real, t, hreal, hat, hfile⟩ := hspells p hp
      rw [FileSystem.place?_of_locate hroot] at hreal
      obtain rfl : trail.location = real := Option.some.inj hreal
      have hnode : (fs.node trail).at? p.1 = some t := by
        have hleads : fs.Leads trail := FileSystem.locate_leads (by trivial) hroot
        have hbelow := hleads.at?_location
        rw [FileSystem.at?] at hat hbelow
        rw [FileTree.at?_append, hbelow] at hat
        simpa [List.map_map, Function.comp_def] using hat
      obtain ⟨next, hlocate, hlocation⟩ := FileSystem.locate_of_at? hfs hroot hnode hfile.isSolid
      rw [(h.isAt p hmem).path, FileSystem.place?_of_locate hlocate, hlocation] at hplace
      exact Option.some.inj hplace
  have hnodup : ((scriptsAt fs l children).map (·.1)).Nodup :=
    h.nodup.sublist (List.filter_sublist.map _)
  rw [← List.length_map (·.1)]
  refine length_le_one_of_nodup hnodup (a := l.drop trail.location.length) fun names hmem => ?_
  obtain ⟨p, hp, rfl⟩ := List.mem_map.1 hmem
  rw [← hnames p hp, List.drop_left]

end Survey.Lays

/-! ## Two scans -/

/-- Two scans of the same layout, whose settings differ only in what is done with each script, have
the same outcome, and no node depends on a file that it is not read from. -/
theorem scanProject_isolated {fs fs' : FileSystem} (hfs : fs.WellFormed) {current : Location}
    {c c' : ScanConfig} (hlayout : fs.SameLayout fs' (c.root.resolve current))
    (hc : c.SameScope c') (metadata metadata' : ScanMetadata) :
    SameOutcome (Isolated fs fs' c c' (c.root.resolve current))
      (scanProject fs current c metadata) (scanProject fs' current c' metadata') := by
  refine scanProject_sameOutcome (surveyProject_eq_of_sameLayout hlayout hc) fun s hs => ?_
  rw [← (surveyProject_eq_ok hfs hs).1]
  obtain ⟨trail, children, hroot, hlays⟩ := Survey.exists_lays hfs hs
  -- Both scans read a script from one place, the first file system from `t`, the second from `t'`.
  have hread := fun p (hp : p ∈ Layout.placedAll children) =>
    FileSystem.readFrom_of_blank hlayout.blank (hlays.isAt p hp)
  have hplace : ∀ p ∈ Layout.placedAll children,
      placePath s.root (p.1.map String.ofList) = p.2.path := by
    intro p hp
    rw [placePath_map_ofList, ← (hlays.isAt p hp).path]
  have hplaces : ∀ l, Survey.Lays.scriptsAt fs' l children = Survey.Lays.scriptsAt fs l children := by
    intro l
    refine List.filter_congr fun p hp => ?_
    obtain ⟨place, t, t', hfrom, hfrom'⟩ := hread p hp
    rw [hfrom.place, hfrom'.place]
  -- A script that is read from elsewhere than the changed file gives the same node.
  have hunchanged : ∀ l, fs.SameFilesExcept fs' l → c'.outline = c.outline →
      c'.maxFileSize = c.maxFileSize → ∀ p ∈ Layout.placedAll children,
        fs.place? p.2.path ≠ some l → outlineFile fs c p.2 = outlineFile fs' c' p.2 := by
    intro l hsame houtline hlimit p hp hne
    obtain ⟨place, t, t', hfrom, hfrom'⟩ := hread p hp
    rw [hfrom.place] at hne
    exact hfrom.outlineFile_eq_of_ne hfrom' hsame houtline hlimit fun heq =>
      hne (congrArg some heq)
  have htotals := hlays.totals
  exact
    { skeleton := hlays.skeleton_eq ..
      totalDirectories := (htotals _ _ _).1.trans (htotals _ _ _).1.symm
      totalFiles := (htotals _ _ _).2.1.trans (htotals _ _ _).2.1.symm
      walkErrors := (htotals _ _ _).2.2.trans (htotals _ _ _).2.2.symm
      nodes := hlays.nodes fun p hp => by
        obtain ⟨place, t, t', hfrom, hfrom'⟩ := hread p hp
        have hat := hlays.isAt p hp
        have hnames : (Layout.placeRead (outlineFile fs c) p).1
            = (Layout.placeRead (outlineFile fs' c') p).1 := by
          rw [Layout.placeRead_fst, Layout.placeRead_fst]
        exact ⟨hnames, place, t, t', hfrom.readsNode hat c, hfrom'.readsNode hat c'⟩
      changed := fun l hsame houtline hlimit => hlays.nodes fun p hp hne => by
        rw [Layout.placeRead_fst, hplace p hp] at hne
        rw [Layout.placeRead, Layout.placeRead, hunchanged l hsame houtline hlimit p hp hne]
      counts := fun l hsame houtline hlimit => by
        rw [Survey.tree_toMap, Survey.tree_toMap, hlays.nodesAt_eq, hlays.nodesAt_eq, hplaces]
        exact hlays.stats_add_ofNodes (hunchanged l hsame houtline hlimit) metadata metadata'
      single := fun l hunlinked => by
        rw [Survey.tree_toMap, hlays.nodesAt_eq] at hunlinked ⊢
        rw [List.length_map]
        refine hlays.length_scriptsAt_le hfs hroot (hunlinked.imp_right fun hall p hp => ?_)
        exact hall _ (List.mem_map_of_mem hp)
      tooLarge := fun q hq => by
        rw [Survey.tree_toMap, hlays.placed_tree, List.mem_map] at hq
        obtain ⟨p, hp, rfl⟩ := hq
        obtain ⟨found, hlocate, hfile⟩ := (hlays.isAt p hp).found
        have hfrom := ScriptFile.readFrom_of_locate hlocate hfile
        rw [Layout.placeRead_fst, Layout.placeRead_snd, hplace p hp, fileSize?_of_locate hlocate]
        exact ⟨hfrom.tooLarge_iff c, hfrom.symbols_of_tooLarge⟩
      raised := fun hsame houtline hlimit => by
        subst hsame
        refine hlays.nodes fun p hp hstatus => ?_
        obtain ⟨found, hlocate, hfile⟩ := (hlays.isAt p hp).found
        have hfrom := ScriptFile.readFrom_of_locate hlocate hfile
        rw [Layout.placeRead_snd] at hstatus
        rw [Layout.placeRead, Layout.placeRead,
          hfrom.outlineFile_raised houtline hlimit hstatus] }

def innerScript : Location := [['p'], ['s', 'r', 'c'], ['b', '.', 't', 's']]

def editedProject : FileSystem := smallProject.put innerScript (.file [0x3b, 0x3b])

/-- Both scans succeed, and all nodes of the other script are the same. -/
theorem scanProject_isolated_editedProject :
    smallProject.WellFormed ∧ smallProject.SameLayout editedProject [['p']] ∧
    smallProject.SameFilesExcept editedProject innerScript ∧
    ∃ map map', scanProject smallProject [] readingSettings {} = .ok map ∧
      scanProject editedProject [] { readingSettings with threads := 1 } {} = .ok map' ∧
      Isolated smallProject editedProject readingSettings
        { readingSettings with threads := 1 } [['p']] map map' := by
  have hroot : readingSettings.root.resolve [] = [['p']] := by decide
  have hold : smallProject.at? innerScript = some (.file [0x3b]) := rfl
  have hlayout : smallProject.SameLayout editedProject (readingSettings.root.resolve []) :=
    ⟨FileSystem.blank_put hold trivial trivial, rfl⟩
  have hsame : smallProject.SameFilesExcept editedProject innerScript :=
    FileSystem.sameFilesExcept_put hold trivial _
  have hscope : readingSettings.SameScope { readingSettings with threads := 1 } := rfl
  have houtcome := scanProject_isolated smallProject_wellFormed hlayout hscope {} {}
  have hfirst : ∃ map, scanProject smallProject [] readingSettings {} = .ok map := ⟨_, rfl⟩
  have hsecond : ∃ map, scanProject editedProject [] { readingSettings with threads := 1 } {}
      = .ok map := ⟨_, rfl⟩
  obtain ⟨map, hfirst⟩ := hfirst
  obtain ⟨map', hsecond⟩ := hsecond
  rw [hroot] at hlayout
  rw [hfirst, hsecond, hroot] at houtcome
  cases houtcome with
  | ok h => exact ⟨smallProject_wellFormed, hlayout, hsame, map, map', hfirst, hsecond, h⟩

end CodeAtlas

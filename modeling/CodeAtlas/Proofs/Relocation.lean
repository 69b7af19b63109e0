import CodeAtlas.Proofs.Filters
import CodeAtlas.Proofs.IgnoreFile
import CodeAtlas.Proofs.RootPaths
import CodeAtlas.Proofs.TwoWalks

/-!
# Where a project lies

A scan that follows no links says the same of a project wherever it lies, but for the name of the
root itself. Its filter says the same of every path below the root. Only an ignore file that is a
link may lead elsewhere from elsewhere.

- `FileTree.longest`: how long the paths below a tree are.
- `FileSystem.Places`: a directory with some entries lies at a root.
- `IgnoreFilter.Agree`: filters for two roots that say the same of what is below.
- `IgnoreFilter.ofConfig_agree`: the filters of the same settings do so.
- `Visit.Corresponds`: places of two walks that have the same names below their roots.
- `scanProject_relocated`: two scans of the same project.
- `scanProject_relocated_counterexample`: a linked ignore file, and the root itself.
-/

namespace CodeAtlas

/-! ## Lengths of paths -/

def Location.pathBytes (l : Location) : Nat := (encodeUtf8 (Path.ofLocation l).text).length

/-- A name adds at most a slash and its own bytes to a path. -/
theorem Location.pathBytes_append_singleton (l : Location) (name : Name) :
    Location.pathBytes (l ++ [name]) ≤ l.pathBytes + (1 + (encodeUtf8 name).length) := by
  by_cases hl : l = []
  · -- The path of the root is the slash that stands in front of the name.
    subst hl
    simp [pathBytes, Path.ofLocation, joinWith, encodeUtf8]
  · have hslash : (String.utf8EncodeChar '/').length = 1 := rfl
    rw [pathBytes, Path.text_ofLocation_append hl, pathBytes]
    simp only [encodeUtf8, List.flatMap_append, List.flatMap_cons, List.length_append, hslash]
    omega

mutual

/-- How many bytes a path has at most behind a tree. -/
def FileTree.longest : FileTree → Nat
  | .directory entries => FileTree.longestAmong entries
  | _ => 0

def FileTree.longestAmong : List (Name × FileTree) → Nat
  | [] => 0
  | (name, t) :: rest =>
    max (1 + (encodeUtf8 name).length + FileTree.longest t) (FileTree.longestAmong rest)

end

namespace FileTree

/-- No entry with what is below it is longer than the longest. -/
theorem le_longestAmong {entries : List (Name × FileTree)} {name : Name} {t : FileTree}
    (h : child? entries name = some t) :
    1 + (encodeUtf8 name).length + t.longest ≤ longestAmong entries := by
  have hmem := mem_of_child? h
  clear h
  induction entries with
  | nil => simp at hmem
  | cons e rest ih =>
    obtain ⟨first, u⟩ := e
    rw [longestAmong]
    rcases List.mem_cons.1 hmem with heq | hrest
    · obtain ⟨rfl, rfl⟩ := Prod.mk.inj heq
      exact Nat.le_max_left _ _
    · exact (ih hrest).trans (Nat.le_max_right _ _)

/-- The paths below a tree are as long as its own and what its entries add. -/
theorem pathBytes_append_le {t u : FileTree} {names : Location} (h : t.at? names = some u)
    (l : Location) : (l ++ names).pathBytes ≤ l.pathBytes + t.longest := by
  induction names generalizing l t with
  | nil => simp
  | cons name rest ih =>
    cases t with
    | directory entries =>
      obtain ⟨v, hchild, hrest⟩ := at?_directory_cons_eq_some h
      have hlongest := le_longestAmong hchild
      have hname := Location.pathBytes_append_singleton l name
      have hbelow := ih hrest (l ++ [name])
      rw [List.append_assoc, List.singleton_append] at hbelow
      rw [longest]
      omega
    | _ => simp [at?, entries?] at h

end FileTree

/-- A directory with some entries lies at a root with a path of the normal form, and no path there is
longer than the system allows. -/
structure FileSystem.Places (fs : FileSystem) (root : Location)
    (entries : List (Name × FileTree)) : Prop where
  wellFormed : fs.WellFormed
  normal : Location.IsNormal root
  found : ∃ trail, fs.locate [] (.ofLocation root) = .ok trail ∧
    fs.node trail = .directory entries
  short : ∀ names t, (FileTree.directory entries).at? names = some t →
    (encodeUtf8 (Path.ofLocation (root ++ names)).text).length ≤ FileSystem.maxPathBytes

/-- A directory whose longest path is short enough lies at a root. -/
theorem FileSystem.places_of_longest {fs : FileSystem} {root : Location}
    {entries : List (Name × FileTree)} {trail : Trail} (hfs : fs.WellFormed)
    (hroot : Location.IsNormal root) (hlocate : fs.locate [] (.ofLocation root) = .ok trail)
    (hnode : fs.node trail = .directory entries)
    (hlongest : root.pathBytes + FileTree.longestAmong entries ≤ maxPathBytes) :
    fs.Places root entries where
  wellFormed := hfs
  normal := hroot
  found := ⟨trail, hlocate, hnode⟩
  short _ _ hat := (FileTree.pathBytes_append_le hat root).trans (by rwa [FileTree.longest])

/-! ## Ignore files -/

namespace IgnoreFilter

/-- An ignore file that is no link is told by the entries of the directory. -/
theorem ruleFile?_of_places {fs : FileSystem} {root : Location} {entries : List (Name × FileTree)}
    (h : fs.Places root entries)
    (hsolid : ∀ target, FileTree.child? entries fileName ≠ some (.link target)) :
    ruleFile? fs root = (FileTree.child? entries fileName).map FileTree.bytes? := by
  obtain ⟨trail, hlocate, hnode⟩ := h.found
  exact ruleFile?_of_directory hlocate hnode hsolid

end IgnoreFilter

namespace Gitignore

/-- The ignore files of two roots, as far as there are any, say the same of every relative path. -/
def Agree (root₁ root₂ : Location) (g₁ g₂ : Option Gitignore) : Prop :=
  ∀ (p : Path) (isDirectory : Bool), p.isAbsolute = false →
    g₁.any (·.ignores (Path.join (.ofLocation root₁) p) isDirectory)
      = g₂.any (·.ignores (Path.join (.ofLocation root₂) p) isDirectory)

/-- The same rules at two roots say the same. -/
theorem agree_of_rules {root₁ root₂ : Location} (h₁ : Location.IsNormal root₁)
    (h₂ : Location.IsNormal root₂) (rules : List IgnoreRule) :
    Agree root₁ root₂ (some ⟨root₁, rules⟩) (some ⟨root₂, rules⟩) := by
  intro p isDirectory hp
  simp only [Option.any_some, ignores, localText_join h₁ hp, localText_join h₂ hp]

end Gitignore

namespace IgnoreFilter

/-- The same bytes are the same rules at two roots, or faulty at both. -/
theorem ofBytes_agree {root₁ root₂ : Location} (h₁ : Location.IsNormal root₁)
    (h₂ : Location.IsNormal root₂) (file₁ file₂ : Path) (bytes : Bytes) :
    SameSuccess (Gitignore.Agree root₁ root₂)
      (match Gitignore.ofBytes root₁ bytes with
        | .ok g => .ok (some g)
        | .error faults => .error (ConfigError.gitignore file₁ faults))
      (match Gitignore.ofBytes root₂ bytes with
        | .ok g => .ok (some g)
        | .error faults => .error (ConfigError.gitignore file₂ faults)) := by
  -- The lines are read before the root comes into play.
  rcases hlines : Gitignore.readLines 1 (Gitignore.linesOf bytes) with ⟨rules, faults⟩
  cases faults with
  | nil =>
    simp only [Gitignore.ofBytes, hlines]
    exact .ok (Gitignore.agree_of_rules h₁ h₂ rules)
  | cons fault rest =>
    simp only [Gitignore.ofBytes, hlines]
    exact .error _ _

/-- Where the same is read of two ignore files, both cannot be used, or their rules say the same of
what is below their roots. -/
theorem readGitignore_agree {fs₁ fs₂ : FileSystem} {root₁ root₂ : Location}
    (h₁ : Location.IsNormal root₁) (h₂ : Location.IsNormal root₂)
    (hsame : ruleFile? fs₁ root₁ = ruleFile? fs₂ root₂) :
    SameSuccess (Gitignore.Agree root₁ root₂)
      (readGitignore fs₁ root₁) (readGitignore fs₂ root₂) := by
  simp only [ruleFile?] at hsame
  simp only [readGitignore]
  cases hpath₁ : fs₁.hasPath [] (.ofLocation (root₁ ++ [fileName])) with
  | false =>
    cases hpath₂ : fs₂.hasPath [] (.ofLocation (root₂ ++ [fileName])) with
    | false => exact .ok fun _ _ _ => rfl
    | true => simp [hpath₁, hpath₂] at hsame
  | true =>
    cases hpath₂ : fs₂.hasPath [] (.ofLocation (root₂ ++ [fileName])) with
    | false => simp [hpath₁, hpath₂] at hsame
    | true =>
      have hread : (fs₁.read [] (.ofLocation (root₁ ++ [fileName]))).toOption
          = (fs₂.read [] (.ofLocation (root₂ ++ [fileName]))).toOption := by
        simpa [hpath₁, hpath₂] using hsame
      simp only [Bool.not_true, Bool.false_eq_true, if_false]
      generalize fs₁.read [] (.ofLocation (root₁ ++ [fileName])) = read₁ at hread ⊢
      generalize fs₂.read [] (.ofLocation (root₂ ++ [fileName])) = read₂ at hread ⊢
      cases read₁ with
      | error e₁ =>
        cases read₂ with
        | error e₂ => cases e₁ <;> cases e₂ <;> exact .error _ _
        | ok bytes => simp [Except.toOption] at hread
      | ok bytes =>
        cases read₂ with
        | error e₂ => simp [Except.toOption] at hread
        | ok bytes' =>
          obtain rfl : bytes = bytes' := by simpa [Except.toOption] using hread
          exact ofBytes_agree h₁ h₂ _ _ bytes

/-- Filters for two roots say the same of every relative path. Of a directory the path must hold a
name, since otherwise it is that of the root itself. -/
def Agree (root₁ root₂ : Location) (f₁ f₂ : IgnoreFilter) : Prop :=
  ∀ (p : Path) (isDirectory : Bool), p.isAbsolute = false →
    (isDirectory = true → p.names ≠ []) →
      f₁.ignores (Path.join (.ofLocation root₁) p) isDirectory
        = f₂.ignores (Path.join (.ofLocation root₂) p) isDirectory

theorem Agree.symm {root₁ root₂ : Location} {f₁ f₂ : IgnoreFilter} (h : Agree root₁ root₂ f₁ f₂) :
    Agree root₂ root₁ f₂ f₁ :=
  fun p isDirectory hp hnames => (h p isDirectory hp hnames).symm

/-- Filters with the same names and globs agree, if their rules do. -/
theorem agree_of_gitignore {root₁ root₂ : Location} (h₁ : Location.IsNormal root₁)
    (h₂ : Location.IsNormal root₂) (names : List String) (globs : List Glob)
    {g₁ g₂ : Option Gitignore} (hrules : Gitignore.Agree root₁ root₂ g₁ g₂) :
    Agree root₁ root₂ ⟨root₁, names, globs, g₁⟩ ⟨root₂, names, globs, g₂⟩ := by
  intro p isDirectory hp hnames
  have hname : (isDirectory && (Path.join (.ofLocation root₁) p).fileName?.any fun name =>
        names.contains (String.ofList name))
      = (isDirectory && (Path.join (.ofLocation root₂) p).fileName?.any fun name =>
        names.contains (String.ofList name)) := by
    cases isDirectory with
    | false => rfl
    | true => rw [Path.fileName?_join h₁ hp (hnames rfl), Path.fileName?_join h₂ hp (hnames rfl)]
  simp only [ignores, excludes, Path.below_join h₁ hp, Path.below_join h₂ hp,
    hrules p isDirectory hp, hname]

/-- Where the same is read of two ignore files, the same settings have filters that agree, or
none. -/
theorem ofConfig_agree {fs₁ fs₂ : FileSystem} {root₁ root₂ : Location}
    (h₁ : Location.IsNormal root₁) (h₂ : Location.IsNormal root₂) {c : ScanConfig}
    (hsame : c.gitignore = true → ruleFile? fs₁ root₁ = ruleFile? fs₂ root₂) :
    SameSuccess (Agree root₁ root₂) (ofConfig fs₁ c root₁) (ofConfig fs₂ c root₂) := by
  simp only [ofConfig, bind, Except.bind]
  cases readGlobs c.ignorePatterns with
  | error e => exact .error _ _
  | ok globs =>
    cases hc : c.gitignore with
    | false =>
      simp only [Bool.false_eq_true, if_false]
      exact .ok (agree_of_gitignore h₁ h₂ _ _ fun _ _ _ => rfl)
    | true =>
      have hagree := readGitignore_agree h₁ h₂ (hsame hc)
      rcases hagree.cases_eq with ⟨e, e', hread₁, hread₂⟩ | ⟨g₁, g₂, hread₁, hread₂, hrules⟩
      · simp only [if_true, hread₁, hread₂]
        exact .error _ _
      · simp only [if_true, hread₁, hread₂]
        exact .ok (agree_of_gitignore h₁ h₂ _ _ hrules)

end IgnoreFilter

/-! ## Places below two roots -/

/-- Places of two walks that have the same names below their roots, where the same tree is found. -/
structure Visit.Corresponds (fs₁ fs₂ : FileSystem) (root₁ root₂ : Location) (v₁ v₂ : Visit)
    (t : FileTree) : Prop where
  names : ∃ names, names ≠ [] ∧ (∀ name ∈ names, Name.IsProper name) ∧
    v₁.location = root₁ ++ names ∧ v₂.location = root₂ ++ names
  wellFormed : t.WellFormed
  found : t.IsSolid → v₁.Finds fs₁ t ∧ v₂.Finds fs₂ t

namespace Visit.Corresponds

variable {fs₁ fs₂ : FileSystem} {root₁ root₂ : Location} {v₁ v₂ : Visit} {t : FileTree}

theorem name_eq (h : Corresponds fs₁ fs₂ root₁ root₂ v₁ v₂ t) : v₂.name = v₁.name := by
  obtain ⟨names, hne, -, hfirst, hsecond⟩ := h.names
  rw [Visit.name, Visit.name, hfirst, hsecond, List.getLast?_append_of_ne_nil _ hne,
    List.getLast?_append_of_ne_nil _ hne]

/-- Filters that agree pass over both places, or over none. -/
theorem ignores_eq (h : Corresponds fs₁ fs₂ root₁ root₂ v₁ v₂ t)
    (h₁ : Location.IsNormal root₁) (h₂ : Location.IsNormal root₂) {f₁ f₂ : IgnoreFilter}
    (hagree : IgnoreFilter.Agree root₁ root₂ f₁ f₂) (isDirectory : Bool) :
    f₁.ignores v₁.path isDirectory = f₂.ignores v₂.path isDirectory := by
  obtain ⟨names, hne, hproper, hfirst, hsecond⟩ := h.names
  have hnormal := Name.IsProper.isNormal hproper
  have hnames : isDirectory = true → (Path.mk (joinWith '/' names)).names ≠ [] := by
    intro _
    rw [hnormal.names_joinWith hne]
    exact hne
  rw [Visit.path, Visit.path, hfirst, hsecond, ← Path.join_joinWith h₁ hnormal hne,
    ← Path.join_joinWith h₂ hnormal hne]
  exact hagree _ isDirectory hnormal.isAbsolute_joinWith hnames

/-- The entry of a name is found at both places. -/
theorem child {entries : List (Name × FileTree)} (hfs₁ : fs₁.WellFormed) (hfs₂ : fs₂.WellFormed)
    (h : Corresponds fs₁ fs₂ root₁ root₂ v₁ v₂ (.directory entries)) {e : Name × FileTree}
    (he : e ∈ entries) : Corresponds fs₁ fs₂ root₁ root₂ (v₁.child e.1) (v₂.child e.1) e.2 := by
  obtain ⟨names, hne, hproper, hfirst, hsecond⟩ := h.names
  obtain ⟨hfound₁, hfound₂⟩ := h.found trivial
  have hwell := h.wellFormed
  rw [FileTree.wellFormed_directory_iff] at hwell
  obtain ⟨hname, hinner⟩ := hwell.2 e he
  refine ⟨⟨names ++ [e.1], by simp, ?_, ?_, ?_⟩, hinner, fun hsolid => ?_⟩
  · intro name hmem
    rcases List.mem_append.1 hmem with hmem | hmem
    · exact hproper name hmem
    · obtain rfl := List.mem_singleton.1 hmem
      exact hname
  · simp [Visit.child, hfirst]
  · simp [Visit.child, hsecond]
  · exact ⟨hfound₁.child hfs₁ he hsolid, hfound₂.child hfs₂ he hsolid⟩

end Visit.Corresponds

/-- The entries of a project are found at both roots. -/
theorem FileSystem.Places.corresponds {fs₁ fs₂ : FileSystem} {root₁ root₂ : Location}
    {entries : List (Name × FileTree)} (h₁ : fs₁.Places root₁ entries)
    (h₂ : fs₂.Places root₂ entries) {trail₁ trail₂ : Trail}
    (hlocate₁ : fs₁.locate [] (.ofLocation root₁) = .ok trail₁)
    (hnode₁ : fs₁.node trail₁ = .directory entries)
    (hlocate₂ : fs₂.locate [] (.ofLocation root₂) = .ok trail₂)
    (hnode₂ : fs₂.node trail₂ = .directory entries) {e : Name × FileTree} (he : e ∈ entries) :
    Visit.Corresponds fs₁ fs₂ root₁ root₂ ((rootVisit root₁ trail₁.location).child e.1)
      ((rootVisit root₂ trail₂.location).child e.1) e.2 := by
  have hwell := (FileSystem.locate_leads (by trivial) hlocate₁).wellFormed_node h₁.wellFormed
  rw [hnode₁, FileTree.wellFormed_directory_iff] at hwell
  obtain ⟨hname, hinner⟩ := hwell.2 e he
  have hfound₁ : (rootVisit root₁ trail₁.location).Finds fs₁ (.directory entries) :=
    ⟨trail₁, hlocate₁, hnode₁, rfl⟩
  have hfound₂ : (rootVisit root₂ trail₂.location).Finds fs₂ (.directory entries) :=
    ⟨trail₂, hlocate₂, hnode₂, rfl⟩
  refine ⟨⟨[e.1], by simp, by simpa using hname, rfl, rfl⟩, hinner, fun hsolid => ?_⟩
  exact ⟨hfound₁.child h₁.wellFormed he hsolid, hfound₂.child h₂.wellFormed he hsolid⟩

def ScanConfig.atRoot (c : ScanConfig) (root : Location) : ScanConfig :=
  { c with root := .ofLocation root }

theorem IgnoreFilter.ofConfig_atRoot (fs : FileSystem) (c : ScanConfig) (root around : Location) :
    ofConfig fs (c.atRoot root) around = ofConfig fs c around := rfl

/-- Walks that follow no links go side by side from two roots, if their filters agree. -/
theorem Walker.beside_of_agree {fs₁ fs₂ : FileSystem} {root₁ root₂ : Location}
    {entries : List (Name × FileTree)} (h₁ : fs₁.Places root₁ entries)
    (h₂ : fs₂.Places root₂ entries) {c : ScanConfig} (hlinks : c.followSymlinks = false)
    {f₁ f₂ : IgnoreFilter} (hagree : IgnoreFilter.Agree root₁ root₂ f₁ f₂) :
    (walkerOf fs₁ (c.atRoot root₁) f₁).Beside (walkerOf fs₂ (c.atRoot root₂) f₂)
      (outlineFile fs₁ (c.atRoot root₁)) (outlineFile fs₂ (c.atRoot root₂))
      (Visit.Corresponds fs₁ fs₂ root₁ root₂) where
  name h := h.name_eq
  ignores h isDirectory hignored := by
    have hsame := h.ignores_eq h₁.normal h₂.normal hagree isDirectory
    exact hsame.symm.trans hignored
  read {v₁ v₂ t} h hfile language := by
    obtain ⟨⟨trail₁, hlocate₁, hnode₁, -⟩, trail₂, hlocate₂, hnode₂, -⟩ := h.found hfile.isSolid
    have hread₁ := readScript_eq_outline (s := ⟨v₁.name, v₁.path, language⟩) hlocate₁
      (c.atRoot root₁)
    have hread₂ := readScript_eq_outline (s := ⟨v₂.name, v₂.path, language⟩) hlocate₂
      (c.atRoot root₂)
    have houtline : (c.atRoot root₂).outline = (c.atRoot root₁).outline := rfl
    rw [hnode₂, FileTree.outline_congr houtline rfl] at hread₂
    rw [hnode₁] at hread₁
    rw [outlineFile_eq, outlineFile_eq, hread₁, hread₂, h.name_eq]
  child h e he := h.child h₁.wellFormed h₂.wellFormed he
  link _ := .inl ⟨hlinks, hlinks⟩

/-! ## Scans -/

/-- The path of a normal location stands for the location, wherever it is seen from. -/
theorem resolveRoot_ofLocation {root : Location} (h : Location.IsNormal root) (current : Location) :
    resolveRoot current (.ofLocation root) = .ok root := by
  rw [resolveRoot, Path.isEmpty_text_ofLocation, Path.resolve_ofLocation h]
  rfl

/-- Maps of two roots that differ below the roots in nothing. -/
def SameBelow (root₁ root₂ : Location) (m₁ m₂ : ProjectMap) : Prop :=
  m₁.stats = m₂.stats ∧ ∃ children,
    m₁.tree = .directory (lastName (.ofLocation root₁)) children ∧
    m₂.tree = .directory (lastName (.ofLocation root₂)) children

namespace FileSystem.Places

variable {fs : FileSystem} {root : Location} {entries : List (Name × FileTree)} {c : ScanConfig}

/-- Without a filter there is no scan. -/
theorem scanProject_error (h : fs.Places root entries) {e : ConfigError}
    (hfilter : IgnoreFilter.ofConfig fs c root = .error e) (current : Location)
    (metadata : ScanMetadata) :
    scanProject fs current (c.atRoot root) metadata = .error (.config e) := by
  have hresolve : resolveRoot current (c.atRoot root).root = .ok root :=
    resolveRoot_ofLocation h.normal current
  simp only [scanProject_eq_map, surveyProject, hresolve, IgnoreFilter.ofConfig_atRoot, hfilter,
    Except.map]

/-- With a filter a project is scanned, and its tree is that of what is listed in it. -/
theorem scanProject_ok (h : fs.Places root entries) {filter : IgnoreFilter}
    (hfilter : IgnoreFilter.ofConfig fs c root = .ok filter) (current : Location)
    (metadata : ScanMetadata) :
    ∃ trail, fs.locate [] (.ofLocation root) = .ok trail ∧ fs.node trail = .directory entries ∧
      ∃ children errors map,
        ListsEntries (walkerOf fs (c.atRoot root) filter) (rootVisit root trail.location) entries
          children errors ∧
        scanProject fs current (c.atRoot root) metadata = .ok map ∧
        map.tree = projectTree fs (c.atRoot root) root children ∧
        map.stats = { ScanStats.ofTree map.tree with walkErrors := errors } := by
  obtain ⟨trail, hlocate, hnode⟩ := h.found
  have hresolve : resolveRoot current (c.atRoot root).root = .ok root :=
    resolveRoot_ofLocation h.normal current
  have hscan := scanProject_of_directory h.wellFormed hresolve hfilter hlocate hnode metadata
  exact ⟨trail, hlocate, hnode, hscan⟩

end FileSystem.Places

/-- Filters of two scanners are those of their settings. -/
theorem Scanner.ofConfig_agree {fs₁ fs₂ : FileSystem} {root₁ root₂ : Location}
    (h₁ : Location.IsNormal root₁) (h₂ : Location.IsNormal root₂) {c : ScanConfig}
    (hagree : SameSuccess (IgnoreFilter.Agree root₁ root₂) (IgnoreFilter.ofConfig fs₁ c root₁)
      (IgnoreFilter.ofConfig fs₂ c root₂)) (current₁ current₂ : Location) :
    SameSuccess (fun s₁ s₂ => IgnoreFilter.Agree root₁ root₂ s₁.filter s₂.filter)
      (Scanner.ofConfig fs₁ current₁ (c.atRoot root₁))
      (Scanner.ofConfig fs₂ current₂ (c.atRoot root₂)) := by
  have hresolve₁ : resolveRoot current₁ (c.atRoot root₁).root = .ok root₁ :=
    resolveRoot_ofLocation h₁ current₁
  have hresolve₂ : resolveRoot current₂ (c.atRoot root₂).root = .ok root₂ :=
    resolveRoot_ofLocation h₂ current₂
  simp only [Scanner.ofConfig, hresolve₁, hresolve₂, bind, Except.bind,
    IgnoreFilter.ofConfig_atRoot]
  rcases hagree.cases_eq with ⟨e, e', hfilter₁, hfilter₂⟩ | ⟨f₁, f₂, hfilter₁, hfilter₂, hsame⟩
  · simp only [hfilter₁, hfilter₂]
    exact .error _ _
  · simp only [hfilter₁, hfilter₂]
    exact .ok hsame

/-- If the filters agree, both scans succeed, and they find the same below the roots. -/
theorem scanProject_relocated_of_agree {fs₁ fs₂ : FileSystem} {root₁ root₂ : Location}
    {entries : List (Name × FileTree)} (h₁ : fs₁.Places root₁ entries)
    (h₂ : fs₂.Places root₂ entries) {c : ScanConfig} (hlinks : c.followSymlinks = false)
    {f₁ f₂ : IgnoreFilter} (hfilter₁ : IgnoreFilter.ofConfig fs₁ c root₁ = .ok f₁)
    (hfilter₂ : IgnoreFilter.ofConfig fs₂ c root₂ = .ok f₂)
    (hagree : IgnoreFilter.Agree root₁ root₂ f₁ f₂) (current₁ current₂ : Location)
    (metadata₁ metadata₂ : ScanMetadata) :
    SameSuccess (SameBelow root₁ root₂)
      (scanProject fs₁ current₁ (c.atRoot root₁) metadata₁)
      (scanProject fs₂ current₂ (c.atRoot root₂) metadata₂) := by
  obtain ⟨trail₁, hlocate₁, hnode₁, children₁, errors₁, m₁, hlists₁, hscan₁, htree₁, hstats₁⟩ :=
    h₁.scanProject_ok hfilter₁ current₁ metadata₁
  obtain ⟨trail₂, hlocate₂, hnode₂, children₂, errors₂, m₂, hlists₂, hscan₂, htree₂, hstats₂⟩ :=
    h₂.scanProject_ok hfilter₂ current₂ metadata₂
  -- The walks go side by side in both directions, so that neither finds more than the other.
  obtain ⟨hless, hfewer⟩ := ListsEntries.pruned
    (Walker.beside_of_agree h₁ h₂ hlinks hagree)
    (fun e he => h₁.corresponds h₂ hlocate₁ hnode₁ hlocate₂ hnode₂ he) hlists₁ hlists₂
  obtain ⟨hmore, hothers⟩ := ListsEntries.pruned
    (Walker.beside_of_agree h₂ h₁ hlinks hagree.symm)
    (fun e he => h₂.corresponds h₁ hlocate₂ hnode₂ hlocate₁ hnode₁ he) hlists₂ hlists₁
  have hchildren := hmore.antisymm hless
  have herrors : errors₁ = errors₂ := Nat.le_antisymm hothers hfewer
  rw [hscan₁, hscan₂]
  refine .ok ⟨?_, _, htree₁, ?_⟩
  · rw [hstats₁, hstats₂, htree₁, htree₂, projectTree, projectTree, ScanStats.ofTree_directory,
      ScanStats.ofTree_directory, hchildren, herrors]
  · rw [htree₂, projectTree, hchildren]

/-- A project that is scanned at two roots without following links gives the same outcome, but for
the name of the root. If the ignore file is honoured and is a link, the same must be read of it at
both roots. The filters say the same of every relative path, as long as a directory has a name of
its own. -/
theorem scanProject_relocated {fs₁ fs₂ : FileSystem} {root₁ root₂ : Location}
    {entries : List (Name × FileTree)} (h₁ : fs₁.Places root₁ entries)
    (h₂ : fs₂.Places root₂ entries) {c : ScanConfig} (hlinks : c.followSymlinks = false)
    (hlinked : c.gitignore = true →
      ∀ target, FileTree.child? entries IgnoreFilter.fileName = some (.link target) →
        IgnoreFilter.ruleFile? fs₁ root₁ = IgnoreFilter.ruleFile? fs₂ root₂)
    (current₁ current₂ : Location) (metadata₁ metadata₂ : ScanMetadata) :
    SameSuccess (fun s₁ s₂ => IgnoreFilter.Agree root₁ root₂ s₁.filter s₂.filter)
      (Scanner.ofConfig fs₁ current₁ (c.atRoot root₁))
      (Scanner.ofConfig fs₂ current₂ (c.atRoot root₂)) ∧
    SameSuccess (SameBelow root₁ root₂) (scanProject fs₁ current₁ (c.atRoot root₁) metadata₁)
      (scanProject fs₂ current₂ (c.atRoot root₂) metadata₂) := by
  have hsame : c.gitignore = true →
      IgnoreFilter.ruleFile? fs₁ root₁ = IgnoreFilter.ruleFile? fs₂ root₂ := by
    intro hgitignore
    by_cases hlink : ∃ target, FileTree.child? entries IgnoreFilter.fileName = some (.link target)
    · obtain ⟨target, hlink⟩ := hlink
      exact hlinked hgitignore target hlink
    · have hsolid := not_exists.1 hlink
      rw [IgnoreFilter.ruleFile?_of_places h₁ hsolid, IgnoreFilter.ruleFile?_of_places h₂ hsolid]
  have hagree := IgnoreFilter.ofConfig_agree h₁.normal h₂.normal hsame
  refine ⟨Scanner.ofConfig_agree h₁.normal h₂.normal hagree current₁ current₂, ?_⟩
  rcases hagree.cases_eq with ⟨e, e', hfilter₁, hfilter₂⟩ | ⟨f₁, f₂, hfilter₁, hfilter₂, hfilters⟩
  · rw [h₁.scanProject_error hfilter₁, h₂.scanProject_error hfilter₂]
    exact .error _ _
  · exact scanProject_relocated_of_agree h₁ h₂ hlinks hfilter₁ hfilter₂ hfilters current₁ current₂
      metadata₁ metadata₂

def smallEntries : List (Name × FileTree) :=
  [(['s', 'r', 'c'], .directory [(['b', '.', 't', 's'], .file [0x3b])]),
    (['l'], .link ⟨['s', 'r', 'c']⟩), (['l', 'o', 's', 't'], .link ⟨['x']⟩),
    (['a', '.', 'j', 's'], .file [0x3b])]

theorem smallProject_places : smallProject.Places [['p']] smallEntries :=
  FileSystem.places_of_longest smallProject_wellFormed (by decide) rfl rfl (by decide)

/-- The small project at the root of a file system. -/
theorem smallEntries_places : (FileSystem.mk smallEntries []).Places [] smallEntries := by
  have hwell : (FileSystem.mk smallEntries []).WellFormed := by
    simp only [FileSystem.WellFormed, smallEntries, FileTree.WellFormed, FileTree.EntriesWellFormed]
    decide
  exact FileSystem.places_of_longest hwell (by decide) rfl rfl (by decide)

/-- Settings that exclude the name of the root of the small project, and follow no links. -/
def rootNameSettings : ScanConfig :=
  { excludedDirs := ["p"], gitignore := true, maxFileSize := 0 }

/-- The small project is scanned below a root with an excluded name as at the root of a file
system. -/
theorem scanProject_relocated_smallProject :
    smallProject.Places [['p']] smallEntries ∧
    (FileSystem.mk smallEntries []).Places [] smallEntries ∧
    rootNameSettings.followSymlinks = false ∧
    ∃ m₁ m₂, scanProject smallProject [] (rootNameSettings.atRoot [['p']]) {} = .ok m₁ ∧
      scanProject (.mk smallEntries []) [] (rootNameSettings.atRoot []) {} = .ok m₂ ∧
      SameBelow [['p']] [] m₁ m₂ ∧
      m₁.tree = .directory "p" [rejectedJavaScript, .directory "src" [rejectedTypeScript]] := by
  have hmissing : FileTree.child? smallEntries IgnoreFilter.fileName = none := rfl
  obtain ⟨-, hscans⟩ := scanProject_relocated smallProject_places smallEntries_places
    (c := rootNameSettings) rfl (fun _ target hlink => by simp [hmissing] at hlink) [] [] {} {}
  have hfirst : ∃ m, scanProject smallProject [] (rootNameSettings.atRoot [['p']]) {} = .ok m ∧
      m.tree = .directory "p" [rejectedJavaScript, .directory "src" [rejectedTypeScript]] :=
    ⟨_, rfl, by cbv⟩
  have hsecond : ∃ m, scanProject (.mk smallEntries []) [] (rootNameSettings.atRoot []) {} = .ok m :=
    ⟨_, rfl⟩
  obtain ⟨m₁, hm₁, htree⟩ := hfirst
  obtain ⟨m₂, hm₂⟩ := hsecond
  rw [hm₁, hm₂] at hscans
  cases hscans with
  | ok hsame =>
    exact ⟨smallProject_places, smallEntries_places, rfl, m₁, m₂, hm₁, hm₂, hsame, htree⟩

/-- A project with an ignore file that is a link to what lies beside the project. -/
def linkedEntries : List (Name × FileTree) :=
  [(IgnoreFilter.fileName, .link ⟨['.', '.', '/', 'r']⟩), (['x', '.', 'j', 's'], .file [0x3b])]

/-- The project lies beside rules that ignore its script, and once more beside no rules. -/
def linkedProjects : FileSystem :=
  { entries := [
      (['a'], .directory [(['p'], .directory linkedEntries), (['r'], .file [42, 46, 106, 115])]),
      (['b'], .directory [(['p'], .directory linkedEntries)])] }

theorem linkedProjects_places (name : Name) (h : name = ['a'] ∨ name = ['b']) :
    linkedProjects.Places [name, ['p']] linkedEntries := by
  have hwell : linkedProjects.WellFormed := by
    simp only [FileSystem.WellFormed, linkedProjects, linkedEntries, FileTree.WellFormed,
      FileTree.EntriesWellFormed]
    decide
  rcases h with rfl | rfl
  · exact FileSystem.places_of_longest hwell (by decide) rfl rfl (by decide)
  · exact FileSystem.places_of_longest hwell (by decide) rfl rfl (by decide)

def scriptRule : IgnoreRule :=
  ⟨⟨IgnoreRule.rules, [.dirsBefore, .anyRun, .char '.', .char 'j', .char 's']⟩, false, false⟩

/-- The script of a project that lies beside the rule is not met. -/
theorem scanProject_linkedProjects_ruled : ∃ map,
    scanProject linkedProjects [] (rootNameSettings.atRoot [['a'], ['p']]) {} = .ok map ∧
      map.tree = .directory "p" [] := by
  have hfilter : IgnoreFilter.ofConfig linkedProjects (rootNameSettings.atRoot [['a'], ['p']])
      [['a'], ['p']] = .ok ⟨[['a'], ['p']], rootNameSettings.excludedNames, [],
        some ⟨[['a'], ['p']], [scriptRule]⟩⟩ := rfl
  have hsurvey : ∃ s, surveyProject linkedProjects [] (rootNameSettings.atRoot [['a'], ['p']])
      = .ok s ∧ s.root = [['a'], ['p']] ∧ s.walked.entries = Layout.entriesAll 1 [] :=
    ⟨_, surveyProject_of_directory rfl hfilter rfl rfl, rfl, by cbv⟩
  obtain ⟨map, hmap, htree⟩ := exists_map_of_survey hsurvey {}
  exact ⟨map, hmap, htree⟩

/-- The script of a project that lies beside no rule is met. -/
theorem scanProject_linkedProjects_free : ∃ map,
    scanProject linkedProjects [] (rootNameSettings.atRoot [['b'], ['p']]) {} = .ok map ∧
      map.tree = .directory "p" [.file ⟨"x.js", [], .javaScript, .tooLarge⟩] := ⟨_, rfl, by cbv⟩

/-- A linked ignore file may ignore a script in one place and not in another. And of the root itself
a filter says that it is passed over, if it has an excluded name. -/
theorem scanProject_relocated_counterexample :
    (linkedProjects.Places [['a'], ['p']] linkedEntries ∧
      linkedProjects.Places [['b'], ['p']] linkedEntries ∧
      rootNameSettings.followSymlinks = false ∧
      ∃ m₁ m₂, scanProject linkedProjects [] (rootNameSettings.atRoot [['a'], ['p']]) {} = .ok m₁ ∧
        scanProject linkedProjects [] (rootNameSettings.atRoot [['b'], ['p']]) {} = .ok m₂ ∧
        m₁.tree = .directory "p" [] ∧
        m₂.tree = .directory "p" [.file ⟨"x.js", [], .javaScript, .tooLarge⟩]) ∧
    ∃ f₁ f₂, IgnoreFilter.ofConfig smallProject rootNameSettings [['p']] = .ok f₁ ∧
      IgnoreFilter.ofConfig (.mk smallEntries []) rootNameSettings [] = .ok f₂ ∧
      f₁.ignores (Path.join (.ofLocation [['p']]) ⟨['.']⟩) true = true ∧
      f₂.ignores (Path.join (.ofLocation []) ⟨['.']⟩) true = false := by
  obtain ⟨m₁, hm₁, htree₁⟩ := scanProject_linkedProjects_ruled
  obtain ⟨m₂, hm₂, htree₂⟩ := scanProject_linkedProjects_free
  refine ⟨⟨linkedProjects_places _ (.inl rfl), linkedProjects_places _ (.inr rfl), rfl,
    m₁, m₂, hm₁, hm₂, htree₁, htree₂⟩, ?_⟩
  exact ⟨_, _, rfl, rfl, by decide, by decide⟩

end CodeAtlas

import CodeAtlas.Proofs.ScanTree
import CodeAtlas.Proofs.TreeFiles

/-!
# Where the scripts of a listing are

The names that lead to a script in a listing spell the path that the script is read from, and a file
is found there.

- `placePath`: the path that some names spell.
- `Visit.Finds`: what a place of a walk holds can be found by its path.
- `ScriptFile.IsAt`: a script with the path and the name of a location.
- `Visit.Reaches`: a script that is where its names lead to from a place.
- `Listing.reaches_of_mem_placed`: the scripts of a listing are where their names lead to.
- `ListsEntries.reaches_of_mem_placed`: so are those of a whole project.
-/

namespace CodeAtlas

def placePath (root : Location) (names : List String) : Path :=
  .ofLocation (root ++ names.map String.toList)

theorem placePath_map_ofList (root : Location) (names : List Name) :
    placePath root (names.map String.ofList) = .ofLocation (root ++ names) := by
  simp [placePath, List.map_map, Function.comp_def]

/-- The path of a place leads to what the place holds. -/
def Visit.Finds (fs : FileSystem) (v : Visit) (t : FileTree) : Prop :=
  ∃ trail, fs.locate [] v.path = .ok trail ∧ fs.node trail = t ∧ trail.location = v.real

/-- The path of an entry leads to the entry, unless it is a link. -/
theorem Visit.Finds.child {fs : FileSystem} (hfs : fs.WellFormed) {v : Visit}
    {entries : List (Name × FileTree)} (h : v.Finds fs (.directory entries))
    {e : Name × FileTree} (he : e ∈ entries) (hsolid : e.2.IsSolid) :
    (v.child e.1).Finds fs e.2 := by
  obtain ⟨trail, hlocate, hnode, hreal⟩ := h
  have hleads : fs.Leads trail := FileSystem.locate_leads (by trivial) hlocate
  have hwell := hleads.wellFormed_node hfs
  rw [hnode, FileTree.wellFormed_directory_iff] at hwell
  have hname : e.1.IsProper := (hwell.2 e he).1
  have hchild : FileTree.child? entries e.1 = some e.2 :=
    (FileTree.child?_eq_some_iff hwell.1).2 he
  have hstep := FileSystem.stepPiece_of_child? hname hnode hchild hsolid
  refine ⟨(e.1, e.2) :: trail, FileSystem.locate_append hname hlocate hstep, rfl, ?_⟩
  rw [Trail.location_cons, hreal]
  rfl

/-- A script with the path and the name of a location, at which a file is found. -/
structure ScriptFile.IsAt (fs : FileSystem) (l : Location) (source : ScriptFile) : Prop where
  path : source.path = .ofLocation l
  proper : source.name.IsProper
  name : ∃ around, l = around ++ [source.name]
  language : source.language.Names source.name
  found : ∃ trail, fs.locate [] source.path = .ok trail ∧ (fs.node trail).IsFile

/-- A script is where its names lead to from a place. If links are not followed, the places on the way
are the real ones. -/
structure Visit.Reaches (w : Walker) (v : Visit) (p : List Name × ScriptFile) : Prop where
  isAt : p.2.IsAt w.files (v.location ++ p.1)
  unlinked : w.followLinks = false → ∀ trail, w.files.locate [] p.2.path = .ok trail →
    trail.location = v.real ++ p.1

/-- A script that is reached from a child is reached from the place itself, by one name more. -/
theorem Visit.Reaches.of_child {w : Walker} {v : Visit} {name : Name} {rest : List Name}
    {source : ScriptFile} (h : (v.child name).Reaches w (rest, source)) :
    v.Reaches w (name :: rest, source) where
  isAt := by simpa [Visit.child] using h.isAt
  unlinked hnot trail hlocate := by simpa [Visit.child] using h.unlinked hnot trail hlocate

/-- What a directory reaches, if its entries reach their scripts under their own names. -/
theorem Visit.reaches_of_entries {w : Walker} {v : Visit} {sorted : List (Name × FileTree)}
    {layouts : Name × FileTree → List Layout}
    (hall : ∀ e ∈ sorted, ∀ p ∈ Layout.placedAll (layouts e),
      ∃ rest, p.1 = (v.child e.1).name :: rest ∧ (v.child e.1).Reaches w (rest, p.2))
    {p : List Name × ScriptFile} (hp : p ∈ Layout.placedAll (sorted.flatMap layouts)) :
    v.Reaches w p := by
  obtain ⟨e, he, hpe⟩ := Layout.mem_placedAll_flatMap.1 hp
  obtain ⟨rest, hnames, hreaches⟩ := hall e he p hpe
  rw [Visit.name_child] at hnames
  have hpair : p = (e.1 :: rest, p.2) := by rw [← hnames]
  rw [hpair]
  exact hreaches.of_child

/-- The scripts of a listing are where their names lead to. -/
theorem Listing.reaches_of_mem_placed {w : Walker} (hfs : w.files.WellFormed) {v : Visit}
    {t : FileTree} {layouts : List Layout} {errors : Nat} (h : Listing w v t layouts errors)
    (ht : t.WellFormed) (hv : v.IsNamed) (hfound : t.IsSolid → v.Finds w.files t)
    {p : List Name × ScriptFile} (hp : p ∈ Layout.placedAll layouts) :
    ∃ rest, p.1 = v.name :: rest ∧ v.Reaches w (rest, p.2) := by
  induction h generalizing p with
  | @script v t language hfile hname hkept =>
    obtain ⟨l, name, hlocation, hproper⟩ := hv
    have hlast : v.name = name := by simp [Visit.name, hlocation]
    obtain ⟨trail, hlocate, hnode, hreal⟩ := hfound hfile.isSolid
    obtain rfl : p = ([v.name], ⟨v.name, v.path, language⟩) := by
      simpa [Layout.placedAll, Layout.placed, Layout.name] using hp
    refine ⟨[], rfl, ⟨by simp [Visit.path], hlast ▸ hproper, ⟨l, ?_⟩, hname, ?_⟩, ?_⟩
    · simp [hlocation, hlast]
    · exact ⟨trail, hlocate, hnode ▸ hfile⟩
    · intro _ trail' hlocate'
      obtain rfl : trail = trail' := Except.ok.inj (hlocate.symm.trans hlocate')
      simpa using hreal
  | @directory v entries sorted layouts errors hkept hperm hsorted _ ih =>
    rw [FileTree.wellFormed_directory_iff] at ht
    obtain ⟨l, hl, q, hq, rfl⟩ := Layout.mem_placedAll.1 hp
    obtain rfl : l = .directory v.name (sorted.flatMap layouts) := by simpa using hl
    rw [Layout.placed] at hq
    refine ⟨q.1, rfl, Visit.reaches_of_entries (fun e he p hpe => ?_) hq⟩
    have hentry : e ∈ entries := hperm.mem_iff.1 he
    obtain ⟨hproper, hinner⟩ := ht.2 e hentry
    exact ih e he hinner (v.isNamed_child hproper)
      (fun hsolid => (hfound trivial).child hfs hentry hsolid) hpe
  | sealedDirectory => simp [Layout.placedAll, Layout.placed] at hp
  | @link v target trail layouts errors hfollow hlocate hbars _ ih =>
    -- The link keeps its names, but the real places are those of what it leads to.
    have hleads : w.files.Leads trail := FileSystem.locate_leads (by trivial) hlocate
    obtain ⟨rest, hnames, hreaches⟩ := ih (hleads.wellFormed_node hfs) hv
      (fun _ => ⟨trail, hlocate, rfl, rfl⟩) hp
    exact ⟨rest, hnames, hreaches.isAt, fun hnot => absurd hfollow (by simp [hnot])⟩
  | _ => simp [Layout.placedAll] at hp

/-- The scripts of a project are where their names lead to from its root. -/
theorem ListsEntries.reaches_of_mem_placed {w : Walker} (hfs : w.files.WellFormed)
    {root : Location} {trail : Trail} {entries : List (Name × FileTree)} {children : List Layout}
    {errors : Nat} (hlocate : w.files.locate [] (.ofLocation root) = .ok trail)
    (hnode : w.files.node trail = .directory entries)
    (h : ListsEntries w (rootVisit root trail.location) entries children errors)
    {p : List Name × ScriptFile} (hp : p ∈ Layout.placedAll children) :
    (rootVisit root trail.location).Reaches w p := by
  obtain ⟨sorted, layouts, errorsAt, hperm, -, hall, rfl, -⟩ := h
  have hleads : w.files.Leads trail := FileSystem.locate_leads (by trivial) hlocate
  have hwell := hleads.wellFormed_node hfs
  rw [hnode, FileTree.wellFormed_directory_iff] at hwell
  have hroot : (rootVisit root trail.location).Finds w.files (.directory entries) :=
    ⟨trail, hlocate, hnode, rfl⟩
  refine Visit.reaches_of_entries (fun e he p hpe => ?_) hp
  have hentry : e ∈ entries := hperm.mem_iff.1 he
  obtain ⟨hproper, hinner⟩ := hwell.2 e hentry
  exact (hall e he).reaches_of_mem_placed hfs hinner (Visit.isNamed_child _ hproper)
    (fun hsolid => hroot.child hfs hentry hsolid) hpe

end CodeAtlas

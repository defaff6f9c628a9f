import IrcGateway.Proofs.Media.Naming

/-!
# Opening the store of media files again

The index of a store lives as long as the store, and the folder stays. Whoever opens a store on the
folder later has nothing to go by but the names that are there, in whatever order they are listed,
and must come to the same index.

The invariant is `Faithful`: the names of the folder that are not hidden are those of the files in
the index, and each file of the index is there under the name that its stem and its extension give.
Adding a file keeps it if the store did not have the file (`Faithful.add`), whatever goes wrong on
the way, and so does an interruption, which leaves at most a hidden file behind
(`Faithful.breakOff`). Since a name gives back its stem, one index alone is faithful to a folder
(`Faithful.lookup_indexNames`).
-/

namespace IrcGateway.Media

/-! ### The entries of a folder -/

namespace Folder

variable {f : Folder} {name other : String} {node node' : Node}

theorem mem_erase_iff : (other, node) ∈ f.erase name ↔ (other, node) ∈ f ∧ other ≠ name := by
  simp [erase]

theorem mem_put_iff :
    (other, node') ∈ f.put name node ↔
      (other = name ∧ node' = node) ∨ ((other, node') ∈ f ∧ other ≠ name) := by
  rw [put, List.mem_cons, mem_erase_iff, Prod.mk.injEq]

theorem mem_of_get? (h : f.get? name = some node) : (name, node) ∈ f := by
  unfold get? at h
  obtain ⟨front, back, rfl, -⟩ := List.lookup_eq_some_iff.mp h
  exact List.mem_append_right _ List.mem_cons_self

theorem mem_files_iff {bytes : List UInt8} :
    (name, bytes) ∈ f.files ↔ (name, Node.file bytes) ∈ f := by
  unfold files
  rw [List.mem_filterMap]
  constructor
  · rintro ⟨⟨n, entry⟩, hmem, hsome⟩
    cases entry with
    | file content =>
      obtain ⟨rfl, rfl⟩ := Prod.mk.inj (Option.some.inj hsome)
      exact hmem
    | folder entries => simp at hsome
  · intro hmem
    exact ⟨_, hmem, rfl⟩

/-- The names of the files of a folder, in whatever order they are listed. -/
def Lists (f : Folder) (names : List String) : Prop :=
  ∀ name, name ∈ names ↔ ∃ bytes, (name, Node.file bytes) ∈ f

theorem lists_sorted (f : Folder) : f.Lists (f.sorted.files.map (·.1)) := by
  intro name
  have hsorted : ∀ node, (name, node) ∈ f.sorted ↔ (name, node) ∈ f := fun node =>
    (List.mergeSort_perm f _).mem_iff
  constructor
  · intro h
    obtain ⟨⟨n, bytes⟩, hmem, rfl⟩ := List.mem_map.mp h
    exact ⟨bytes, (hsorted _).mp (mem_files_iff.mp hmem)⟩
  · rintro ⟨bytes, hmem⟩
    exact List.mem_map.mpr ⟨(name, bytes), mem_files_iff.mpr ((hsorted _).mpr hmem), rfl⟩

end Folder

namespace Store

theorem rename?_eq_some_iff {f renamed : Folder} {source target : String} :
    rename? f source target = some renamed ↔
      ∃ node, f.get? source = some node ∧
        ((∀ entries, f.get? target ≠ some (.folder entries)) ∧ nameFits target = true) ∧
        (f.erase source).put target node = renamed := by
  unfold rename?
  split
  · next node entries hnode htarget => simp [htarget]
  · next node hnode hfolder =>
    have htarget : ∀ entries, f.get? target ≠ some (.folder entries) := fun entries =>
      hfolder entries
    simp [hnode, htarget]
  · next hnode => simp [hnode]

/-! ### What happens to a store -/

/-- What can be done with a store while nobody else changes its folder. -/
inductive Act where
  /-- A file is added. -/
  | add (token hash extension : String) (bytes : List UInt8)
  /-- Adding a file ends before the file has its name, because it fails or is broken off, and what
  has been written of it by then may be left behind. -/
  | breakOff (token hash : String) (left : Option (List UInt8))

/-- The store after adding a file was broken off. -/
def breakOff (s : Store) (token hash : String) (left : Option (List UInt8)) : Store :=
  match stem? hash, s.folder, left with
  | some stem, some folder, some bytes =>
    if nameFits (temporaryName stem token) then
      { s with folder := some (folder.put (temporaryName stem token) (.file bytes)) }
    else s
  | _, _, _ => s

namespace Act

/-- The store after an act. -/
def apply (s : Store) : Act → Store
  | add token hash extension bytes => (s.add token hash extension bytes).1
  | breakOff token hash left => s.breakOff token hash left

/-- The act is done for a file that the store does not have. -/
def IsMiss (s : Store) : Act → Prop
  | add _ hash _ _ => s.lookup? hash = none
  | breakOff _ hash _ => s.lookup? hash = none

end Act

/-- The store after some acts. -/
def run (s : Store) (acts : List Act) : Store :=
  acts.foldl Act.apply s

/-- Each act is done for a file that the store does not have then. -/
def AllMisses (s : Store) : List Act → Prop
  | [] => True
  | act :: rest => act.IsMiss s ∧ AllMisses (act.apply s) rest

/-! ### The invariant -/

/-- The index says what is in the folder. -/
structure Faithful (s : Store) (folder : Folder) : Prop where
  folder_eq : s.folder = some folder
  /-- What is to be seen in the folder is a file of the index. -/
  indexed : ∀ name node, (name, node) ∈ folder → isHiddenName name = false →
    ∃ file bytes, s.index.lookup file.stem = some file ∧ file.name = name ∧ node = .file bytes
  /-- What is in the index is to be seen in the folder. -/
  stored : ∀ stem file, s.index.lookup stem = some file →
    IsStem stem ∧ (∃ extension, file = describe s.baseUrl stem extension) ∧
      ∃ bytes, (file.name, Node.file bytes) ∈ folder

theorem faithful_openOn_nil (baseUrl : String) : Faithful (openOn [] baseUrl) [] where
  folder_eq := rfl
  indexed := by simp
  stored := by
    intro stem file h
    have hindex : (openOn [] baseUrl).index = [] := by
      simp [openOn, indexOf, indexNames, Folder.sorted, Folder.files]
    simp [hindex] at h

variable {s : Store} {folder : Folder}

namespace Faithful

/-- A file of the index is to be seen under its own name. -/
theorem isHiddenName_name (h : s.Faithful folder) {stem : String} {file : StoredFile}
    (hfile : s.index.lookup stem = some file) : isHiddenName file.name = false := by
  obtain ⟨hstem, ⟨extension, rfl⟩, -⟩ := h.stored stem file hfile
  exact hstem.isHiddenName_fileName extension

/-- The name of a file gives back the file. -/
theorem describeName_name (h : s.Faithful folder) {stem : String} {file : StoredFile}
    (hfile : s.index.lookup stem = some file) :
    (splitName file.name).1 = stem ∧ describeName s.baseUrl file.name = file := by
  obtain ⟨hstem, ⟨extension, rfl⟩, -⟩ := h.stored stem file hfile
  have hsplit : splitName (fileName stem extension) = (stem, extension) :=
    splitName_fileName hstem.dot_notMem extension
  constructor
  · exact congrArg Prod.fst hsplit
  · change describe s.baseUrl (splitName (fileName stem extension)).1
      (splitName (fileName stem extension)).2 = _
    rw [hsplit]

/-- **One index alone is faithful to a folder.** The names of the files lead to it, in whatever
order they are listed. -/
theorem lookup_indexNames (h : s.Faithful folder) {names : List String}
    (hnames : folder.Lists names) (stem : String) :
    (indexNames s.baseUrl names).lookup stem = s.index.lookup stem := by
  rw [Store.lookup_indexNames]
  -- every name of the stem is that of the file in the index
  have hname : ∀ name ∈ names.filter (belongsTo stem),
      ∃ file, s.index.lookup stem = some file ∧ file.name = name := by
    intro name hmem
    obtain ⟨hlisted, hbelongs⟩ := List.mem_filter.mp hmem
    rw [belongsTo, Bool.and_eq_true, Bool.not_eq_true', beq_iff_eq] at hbelongs
    obtain ⟨bytes, hentry⟩ := (hnames name).mp hlisted
    obtain ⟨file, -, hfile, hfilename, -⟩ := h.indexed name _ hentry hbelongs.1
    have hstem : file.stem = stem := by
      rw [← (h.describeName_name hfile).1, hfilename, hbelongs.2]
    exact ⟨file, hstem ▸ hfile, hfilename⟩
  cases hlast : (names.filter (belongsTo stem)).getLast? with
  | some name =>
    obtain ⟨file, hfile, rfl⟩ := hname name (List.mem_of_getLast? hlast)
    rw [hfile, Option.map_some, (h.describeName_name hfile).2]
  | none =>
    -- a file in the index would be listed
    cases hfile : s.index.lookup stem with
    | none => rfl
    | some file =>
      obtain ⟨-, -, hentry⟩ := h.stored stem file hfile
      have hmem : file.name ∈ names.filter (belongsTo stem) := by
        refine List.mem_filter.mpr ⟨(hnames _).mpr hentry, ?_⟩
        rw [belongsTo, h.isHiddenName_name hfile, (h.describeName_name hfile).1]
        simp
      rw [List.getLast?_eq_none_iff.mp hlast] at hmem
      simp at hmem

/-! ### What keeps it -/

/-- What happens to hidden names does not matter. -/
theorem of_hidden (h : s.Faithful folder) {folder' : Folder}
    (hsame : ∀ name node, isHiddenName name = false →
      ((name, node) ∈ folder' ↔ (name, node) ∈ folder)) :
    Faithful { s with folder := some folder' } folder' where
  folder_eq := rfl
  indexed := by
    intro name node hmem hhidden
    exact h.indexed name node ((hsame name node hhidden).mp hmem) hhidden
  stored := by
    intro stem file hfile
    obtain ⟨hstem, hdescribed, bytes, hmem⟩ := h.stored stem file hfile
    exact ⟨hstem, hdescribed, bytes, (hsame _ _ (h.isHiddenName_name hfile)).mpr hmem⟩

theorem putHidden (h : s.Faithful folder) (stem token : String) (node : Node) :
    Faithful { s with folder := some (folder.put (temporaryName stem token) node) }
      (folder.put (temporaryName stem token) node) := by
  refine h.of_hidden fun name node' hhidden => ?_
  have hne : name ≠ temporaryName stem token := ne_temporaryName hhidden stem token
  simp [Folder.mem_put_iff, hne]

theorem breakOff (h : s.Faithful folder) (token hash : String) (left : Option (List UInt8)) :
    ∃ folder', Faithful (s.breakOff token hash left) folder' := by
  unfold Store.breakOff
  rw [h.folder_eq]
  split
  · next stem inner bytes _ hfolder =>
    obtain rfl := Option.some.inj hfolder
    split
    · exact ⟨_, h.putHidden stem token (.file bytes)⟩
    · exact ⟨folder, h⟩
  · exact ⟨folder, h⟩

/-- A file whose stem is new goes into the index and into the folder, under its name, and takes the
place of no other. -/
theorem putNew (h : s.Faithful folder) {stem : String} (hstem : IsStem stem)
    (hmiss : s.index.lookup stem = none) (extension : String) (bytes : List UInt8) :
    Faithful
      { s with folder := some (folder.put (fileName stem extension) (.file bytes)),
               index := putIndex s.index (describe s.baseUrl stem extension) }
      (folder.put (fileName stem extension) (.file bytes)) := by
  have hsplit : splitName (fileName stem extension) = (stem, extension) :=
    splitName_fileName hstem.dot_notMem extension
  refine ⟨rfl, ?_, ?_⟩
  · intro name node hmem hhidden
    rcases Folder.mem_put_iff.mp hmem with ⟨rfl, rfl⟩ | ⟨hold, -⟩
    · -- the new file is indexed
      refine ⟨describe s.baseUrl stem extension, bytes, ?_, rfl, rfl⟩
      rw [lookup_putIndex]
      exact if_pos rfl
    · -- an old one is of another stem, as this stem was missing
      obtain ⟨old, content, hlookup, hname, hnode⟩ := h.indexed name node hold hhidden
      have hne : old.stem ≠ stem := by
        intro heq
        rw [heq, hmiss] at hlookup
        simp at hlookup
      refine ⟨old, content, ?_, hname, hnode⟩
      rw [lookup_putIndex]
      exact (if_neg hne).trans hlookup
  · intro other found hfound
    rw [lookup_putIndex] at hfound
    split at hfound
    · next heq =>
      obtain rfl := Option.some.inj hfound
      have hother : other = stem := heq
      subst hother
      exact ⟨hstem, ⟨extension, rfl⟩, bytes, Folder.mem_put_iff.mpr (.inl ⟨rfl, rfl⟩)⟩
    · next hne =>
      obtain ⟨hother, hdescribed, content, hmem⟩ := h.stored other found hfound
      refine ⟨hother, hdescribed, content, Folder.mem_put_iff.mpr (.inr ⟨hmem, ?_⟩)⟩
      -- files of different stems have different names
      intro hname
      have hstem' : (splitName found.name).1 = other := (h.describeName_name hfound).1
      rw [hname, hsplit] at hstem'
      exact hne hstem'.symm

/-- A file that was not renamed leaves nothing behind that can be seen. -/
theorem cleared (h : s.Faithful folder) (stem token : String) (node : Node) :
    Faithful
      { s with folder := some ((folder.put (temporaryName stem token) node).erase
          (temporaryName stem token)) }
      ((folder.put (temporaryName stem token) node).erase (temporaryName stem token)) := by
  refine h.of_hidden fun name node' hhidden => ?_
  have hne : name ≠ temporaryName stem token := ne_temporaryName hhidden stem token
  simp [Folder.mem_erase_iff, Folder.mem_put_iff, hne]

/-- Nothing in the folder has the name of a file that the index does not have. -/
theorem get?_fileName (h : s.Faithful folder) {stem : String} (hstem : IsStem stem)
    (hmiss : s.index.lookup stem = none) (extension : String) :
    folder.get? (fileName stem extension) = none := by
  by_contra hsome
  obtain ⟨node, hnode⟩ := Option.ne_none_iff_exists'.mp hsome
  obtain ⟨file, bytes, hfile, hname, -⟩ := h.indexed _ node (Folder.mem_of_get? hnode)
    (hstem.isHiddenName_fileName extension)
  have hsame : file.stem = stem := by
    rw [← (h.describeName_name hfile).1, hname, splitName_fileName hstem.dot_notMem]
  rw [hsame, hmiss] at hfile
  exact absurd hfile (by simp)

/-- **Adding a file that the store does not have keeps the index faithful**, whether the file is
stored in the end or not. -/
theorem add (h : s.Faithful folder) {hash : String} (hmiss : s.lookup? hash = none)
    (token extension : String) (bytes : List UInt8) :
    ∃ folder', Faithful (s.add token hash extension bytes).1 folder' := by
  unfold Store.add
  cases hhash : stem? hash with
  | none => exact ⟨folder, h⟩
  | some stem =>
    have hstem : IsStem stem := isStem_of_stem? hhash
    have hnew : s.index.lookup stem = none := by
      rw [lookup?, hhash] at hmiss
      exact hmiss
    have hcleared := h.cleared stem token (.file bytes)
    rw [h.folder_eq]
    simp only [describe_name]
    generalize cleanExtension extension = extension
    split
    · exact ⟨folder, h⟩
    cases hrename : rename? (folder.put (temporaryName stem token) (.file bytes))
        (temporaryName stem token) (fileName stem extension) with
    | some renamed =>
      -- what is renamed is what was just written
      obtain ⟨node, hnode, -, rfl⟩ := rename?_eq_some_iff.mp hrename
      rw [Folder.get?_put, if_pos rfl] at hnode
      obtain rfl := Option.some.inj hnode
      have hput := hcleared.putNew hstem hnew extension bytes
      exact ⟨_, hput⟩
    | none =>
      -- nothing can be there under the name of the file
      have hnone := hcleared.get?_fileName hstem hnew extension
      simp only [hnone]
      exact ⟨_, hcleared⟩

theorem apply (h : s.Faithful folder) {act : Act} (hmiss : act.IsMiss s) :
    ∃ folder', Faithful (act.apply s) folder' := by
  cases act with
  | add token hash extension bytes => exact h.add hmiss token extension bytes
  | breakOff token hash left => exact h.breakOff token hash left

theorem run (h : s.Faithful folder) {acts : List Act} (hmiss : s.AllMisses acts) :
    ∃ folder', Faithful (s.run acts) folder' := by
  induction acts generalizing s folder with
  | nil => exact ⟨folder, h⟩
  | cons act rest ih =>
    obtain ⟨hfirst, hrest⟩ := hmiss
    obtain ⟨folder', h'⟩ := h.apply hfirst
    exact ih h' hrest

end Faithful

/-! ### Opening the store again -/

theorem openOn_nil (baseUrl : String) :
    openOn [] baseUrl =
      { baseUrl := (openOn [] baseUrl).baseUrl, folder := some [], index := [] } := by
  simp [openOn, indexOf, indexNames, Folder.sorted, Folder.files]

theorem baseUrl_add (s : Store) (token hash extension : String) (bytes : List UInt8) :
    (s.add token hash extension bytes).1.baseUrl = s.baseUrl := by
  obtain ⟨folder, ⟨error, hadd⟩ | ⟨stem, -, hadd⟩⟩ := s.add_cases token hash extension bytes
  · rw [hadd]
  · rw [hadd]

theorem baseUrl_apply (s : Store) (act : Act) : (act.apply s).baseUrl = s.baseUrl := by
  cases act with
  | add token hash extension bytes => exact baseUrl_add s token hash extension bytes
  | breakOff token hash left =>
    change (s.breakOff token hash left).baseUrl = s.baseUrl
    unfold Store.breakOff
    repeat' split
    all_goals rfl

theorem baseUrl_run (s : Store) (acts : List Act) : (s.run acts).baseUrl = s.baseUrl := by
  induction acts generalizing s with
  | nil => rfl
  | cons act rest ih => exact (ih (act.apply s)).trans (baseUrl_apply s act)

/-- A store opened on a folder to which an index is faithful answers as that index does. -/
theorem Faithful.lookup?_openOn (h : s.Faithful folder) {baseUrl : String}
    (hbase : s.baseUrl = (openOn [] baseUrl).baseUrl) (hash : String) :
    (openOn folder baseUrl).lookup? hash = s.lookup? hash := by
  have hindex : ∀ stem, (openOn folder baseUrl).index.lookup stem = s.index.lookup stem := by
    intro stem
    have hnames := h.lookup_indexNames folder.lists_sorted stem
    rw [hbase] at hnames
    exact hnames
  simp only [Store.lookup?, hindex]

/-- **A store opened again on its folder answers as the old one.** The folder was empty when the old
store was opened, and files were added that the store did not have, some of them in vain. The new
store finds what the old one finds under every hash, in whatever order the folder lists its files,
and a file that was left under a temporary name is nothing to either. -/
theorem reopened_store_answers_alike (baseUrl : String) (acts : List Act)
    (hmiss : (openOn [] baseUrl).AllMisses acts) :
    ∃ folder, ((openOn [] baseUrl).run acts).folder = some folder ∧
      (∀ hash, (openOn folder baseUrl).lookup? hash =
        ((openOn [] baseUrl).run acts).lookup? hash) ∧
      (∀ names, folder.Lists names → ∀ hash,
        { openOn folder baseUrl with
            index := indexNames (openOn folder baseUrl).baseUrl names }.lookup? hash =
          ((openOn [] baseUrl).run acts).lookup? hash) ∧
      (∀ stem token node hash,
        (openOn (folder.put (temporaryName stem token) node) baseUrl).lookup? hash =
          ((openOn [] baseUrl).run acts).lookup? hash) ∧
      ∀ hash file, (openOn folder baseUrl).lookup? hash = some file →
        ∀ stem token, file.name ≠ temporaryName stem token := by
  have hbase : ((openOn [] baseUrl).run acts).baseUrl = (openOn [] baseUrl).baseUrl :=
    baseUrl_run _ acts
  obtain ⟨folder, h⟩ := (faithful_openOn_nil baseUrl).run hmiss
  have hsame := fun hash => h.lookup?_openOn hbase hash
  refine ⟨folder, h.folder_eq, hsame, ?_, ?_, ?_⟩
  · -- the folder may be listed in any order
    intro names hnames hash
    have hindex := h.lookup_indexNames hnames
    rw [hbase] at hindex
    unfold lookup?
    cases stem? hash with
    | none => rfl
    | some stem => exact hindex stem
  · -- a temporary file that was left behind is hidden
    intro stem token node hash
    exact (h.putHidden stem token node).lookup?_openOn hbase hash
  · -- a file that is found is named for its hash, and no such name is hidden
    intro hash file hfile stem token
    rw [hsame, lookup?, Option.bind_eq_some_iff] at hfile
    obtain ⟨own, -, hindexed⟩ := hfile
    exact ne_temporaryName (h.isHiddenName_name hindexed) stem token

/-- Two files, one of them after an attempt that left a temporary file, and one that has no name. -/
def sampleActs : List Act :=
  [.add "1" "h+1/x=" ".JPG" [255, 216], .breakOff "2" "note" (some [104]),
    .add "3" "../etc" "conf" [], .add "4" "note" "..." [104, 105]]

theorem reopened_sample_answers_alike :
    (openOn [] "http://x/files/").AllMisses sampleActs ∧
      ∃ folder, ((openOn [] "http://x/files/").run sampleActs).folder = some folder ∧
        (openOn folder "http://x/files/").lookup? "h+1/x==" =
          some { stem := "h-1_x", extension := "jpg", name := "h-1_x.jpg",
                 url := "http://x/files/h-1_x.jpg" } ∧
        (openOn folder "http://x/files/").lookup? "note" =
          some { stem := "note", extension := "", name := "note"
                 url := "http://x/files/note" } := by
  have hmiss : (openOn [] "http://x/files/").AllMisses sampleActs := by
    rw [openOn_nil]
    exact ⟨rfl, rfl, rfl, rfl, trivial⟩
  obtain ⟨folder, hfolder, hsame, -⟩ :=
    reopened_store_answers_alike "http://x/files/" sampleActs hmiss
  refine ⟨hmiss, folder, hfolder, ?_, ?_⟩
  · rw [hsame, openOn_nil]
    rfl
  · rw [hsame, openOn_nil]
    rfl

end Store

end IrcGateway.Media

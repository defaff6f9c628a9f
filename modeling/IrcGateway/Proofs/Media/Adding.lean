import IrcGateway.Proofs.Media.Naming

/-!
# Adding a file, all or nothing

A file is written under a temporary name and then given its own. Whatever is in the folder, adding
comes to one of two ends, which `add_of_stem` tells apart by the lengths of the two names: the store
is left exactly as it was, or the file is in the index and nothing in the folder has changed but
what has the name of the file.

The temporary name must be free, which is what its random token is for, and the names in the folder
must be such as file systems take (`Folder.Fits`). Then the temporary file is gone in the end, since
erasing what was written leaves the folder as it was (`Folder.erase_put`).

What has the name of the file is the file, with one exception. A folder of that name cannot be
replaced, and that something is there is taken to mean that someone else stored the file. The store
then tells of a file that nobody stored.
-/

namespace IrcGateway.Media

/-! ### Free names, and folders in the way -/

namespace Folder

variable {f : Folder} {name : String} {node : Node}

theorem erase_eq_self (h : f.get? name = none) : f.erase name = f := by
  have hname : ∀ entry ∈ f, (name != entry.1) = true := List.lookup_eq_none_iff.mp h
  refine List.filter_eq_self.mpr fun entry hentry => ?_
  exact bne_iff_ne.mpr (bne_iff_ne.mp (hname entry hentry)).symm

/-- What was written under a free name can be erased without a trace. -/
theorem erase_put (h : f.get? name = none) : (f.put name node).erase name = f := by
  have hfirst : (f.put name node).erase name = (f.erase name).erase name := by
    simp [put, erase]
  have hfree : (f.erase name).get? name = none := by
    rw [get?_erase, if_pos rfl]
  rw [hfirst, erase_eq_self hfree, erase_eq_self h]

/-- All names are short enough, as in every folder of a file system. -/
def Fits (f : Folder) : Prop :=
  ∀ entry ∈ f, nameFits entry.1 = true

instance (f : Folder) : Decidable f.Fits :=
  inferInstanceAs (Decidable (∀ entry ∈ f, nameFits entry.1 = true))

theorem Fits.nameFits_of_get? (h : f.Fits) (hname : f.get? name = some node) :
    nameFits name = true := by
  unfold get? at hname
  obtain ⟨front, back, rfl, -⟩ := List.lookup_eq_some_iff.mp hname
  exact h (name, node) (List.mem_append_right _ List.mem_cons_self)

/-- Whether a name is that of a folder. -/
def holdsFolder (f : Folder) (name : String) : Bool :=
  match f.get? name with
  | some (.folder _) => true
  | _ => false

theorem holdsFolder_iff :
    f.holdsFolder name = true ↔ ∃ entries, f.get? name = some (.folder entries) := by
  unfold holdsFolder
  split
  · next entries h => simp [h]
  · next h =>
    refine iff_of_false Bool.false_ne_true ?_
    rintro ⟨entries, heq⟩
    exact h entries heq

end Folder

namespace Store

variable {s : Store} {folder : Folder} {token hash stem : String}

/-- A file that was written under a free name is given another, unless that is too long or that of a
folder. -/
theorem rename?_put {temporary target : String} {bytes : List UInt8}
    (hfree : folder.get? temporary = none) (hne : target ≠ temporary) :
    rename? (folder.put temporary (.file bytes)) temporary target =
      if folder.holdsFolder target then none
      else if nameFits target then some (folder.put target (.file bytes)) else none := by
  have hsource : (folder.put temporary (.file bytes)).get? temporary = some (.file bytes) := by
    rw [Folder.get?_put, if_pos rfl]
  have htarget : (folder.put temporary (.file bytes)).get? target = folder.get? target := by
    rw [Folder.get?_put, if_neg hne]
  unfold rename? Folder.holdsFolder
  rw [hsource, htarget, Folder.erase_put hfree]
  cases folder.get? target with
  | none => rfl
  | some node => cases node <;> rfl

/-! ### What adding comes to -/

/-- The folder once a file is stored. What a folder's name stands for stays that folder. -/
def kept (folder : Folder) (name : String) (bytes : List UInt8) : Folder :=
  if folder.holdsFolder name then folder else folder.put name (.file bytes)

theorem kept_of_holdsFolder {name : String} {bytes : List UInt8}
    (h : folder.holdsFolder name = true) : kept folder name bytes = folder :=
  if_pos h

theorem get?_kept_of_ne {name other : String} (h : other ≠ name) (bytes : List UInt8) :
    (kept folder name bytes).get? other = folder.get? other := by
  unfold kept
  split
  · rfl
  · rw [Folder.get?_put, if_neg h]

theorem get?_kept_eq_file_iff {name : String} {bytes : List UInt8} :
    (kept folder name bytes).get? name = some (.file bytes) ↔ folder.holdsFolder name = false := by
  unfold kept
  split
  · next hfolder =>
    -- what has the name is a folder, and so no file
    obtain ⟨entries, hentries⟩ := Folder.holdsFolder_iff.mp hfolder
    simp [hentries, hfolder]
  · next hfree =>
    rw [Folder.get?_put, if_pos rfl]
    simpa using hfree

/-- The names that a file needs are not too long. -/
def NamesFit (stem token extension : String) : Prop :=
  nameFits (temporaryName stem token) = true ∧ nameFits (fileName stem extension) = true

instance (stem token extension : String) : Decidable (NamesFit stem token extension) :=
  inferInstanceAs (Decidable (_ ∧ _))

/-- **What adding comes to.** Either both names of the file fit and it is stored, or the store is
left as it was. -/
theorem add_of_stem (hstem : stem? hash = some stem) (hfolder : s.folder = some folder)
    (hfits : folder.Fits) (hfree : folder.get? (temporaryName stem token) = none)
    (extension : String) (bytes : List UInt8) :
    s.add token hash extension bytes =
      if NamesFit stem token (cleanExtension extension) then
        ({ s with
            folder := some (kept folder (fileName stem (cleanExtension extension)) bytes)
            index := putIndex s.index (describe s.baseUrl stem (cleanExtension extension)) },
          .ok (describe s.baseUrl stem (cleanExtension extension)))
      else (s, .error .storage) := by
  have hvisible := (isStem_of_stem? hstem).isHiddenName_fileName (cleanExtension extension)
  have hne := ne_temporaryName hvisible stem token
  have hsame : { s with folder := some folder } = s := by rw [← hfolder]
  unfold add NamesFit kept
  simp only [hstem, hfolder, describe_name]
  generalize cleanExtension extension = extension at hne ⊢
  rw [rename?_put hfree hne, Folder.erase_put hfree]
  by_cases htemporary : nameFits (temporaryName stem token) = true
  · by_cases hholds : folder.holdsFolder (fileName stem extension) = true
    · -- the folder stays, and is taken for the file
      obtain ⟨entries, hentries⟩ := Folder.holdsFolder_iff.mp hholds
      have hname : nameFits (fileName stem extension) = true := hfits.nameFits_of_get? hentries
      simp [htemporary, hholds, hentries, hname]
    · by_cases hname : nameFits (fileName stem extension) = true
      · simp [htemporary, hholds, hname]
      · -- nothing can have a name that is too long
        have hnone : folder.get? (fileName stem extension) = none := by
          by_contra hsome
          obtain ⟨node, hnode⟩ := Option.ne_none_iff_exists'.mp hsome
          exact hname (hfits.nameFits_of_get? hnode)
        simp [htemporary, hholds, hname, hnone, hsame]
  · simp [htemporary]

/-- The file of a hash can be stored: the hash makes a file name, the folder is there and the names
that are needed are not too long. -/
def CanStore (s : Store) (token hash extension : String) : Prop :=
  ∃ stem, stem? hash = some stem ∧ s.folder.isSome = true ∧
    NamesFit stem token (cleanExtension extension)

/-- Adding ends in one of two ways, and which one is known beforehand. -/
theorem add_ends (hfits : ∀ folder, s.folder = some folder → folder.Fits)
    (hfree : ∀ folder stem, s.folder = some folder → stem? hash = some stem →
      folder.get? (temporaryName stem token) = none) (extension : String) (bytes : List UInt8) :
    (¬ s.CanStore token hash extension ∧
        ∃ error, s.add token hash extension bytes = (s, .error error)) ∨
      s.CanStore token hash extension ∧ ∃ stem folder,
        stem? hash = some stem ∧ s.folder = some folder ∧
        s.add token hash extension bytes =
          ({ s with
              folder := some (kept folder (fileName stem (cleanExtension extension)) bytes)
              index := putIndex s.index (describe s.baseUrl stem (cleanExtension extension)) },
            .ok (describe s.baseUrl stem (cleanExtension extension))) := by
  cases hstem : stem? hash with
  | none =>
    -- the hash makes no file name
    refine .inl ⟨by simp [CanStore, hstem], .invalidHash hash, ?_⟩
    unfold add
    rw [hstem]
  | some stem =>
    cases hfolder : s.folder with
    | none =>
      refine .inl ⟨by simp [CanStore, hfolder], .storage, ?_⟩
      unfold add
      simp only [hstem, hfolder]
    | some folder =>
      have hadd := add_of_stem hstem hfolder (hfits folder hfolder)
        (hfree folder stem hfolder hstem) extension bytes
      split at hadd
      · next hnames =>
        exact .inr ⟨⟨stem, hstem, by simp [hfolder], hnames⟩, stem, folder, rfl, rfl, hadd⟩
      · next hnames =>
        exact .inl ⟨by simpa [CanStore, hstem, hfolder] using hnames, .storage, hadd⟩

/-- What hashes find once a file is in the index: those of its stem find it, the others what they
found before. -/
theorem lookup?_putIndex {file : StoredFile} (hfile : stem? hash = some file.stem)
    (folder : Option Folder) (other : String) :
    { s with folder, index := putIndex s.index file }.lookup? other =
      if stem? other = stem? hash then some file else s.lookup? other := by
  unfold lookup?
  cases hother : stem? other with
  | none => simp [hfile]
  | some own => simp [hfile, lookup_putIndex]

/-- **Adding a file is all or nothing.** In any store, whatever is in its folder and its index, a
file is added under a temporary name that is free.

* If that fails, the store is as before.
* If it succeeds, the hashes of the stem find the file and all others what they found before, every
  entry of another name is as before, no temporary file is left, and the entry of the file's name is
  a file of just these bytes, unless it was a folder. Then all of the folder is as before.

It succeeds exactly if the hash makes a file name, the folder is there and both names fit. -/
theorem adding_is_all_or_nothing (s : Store) (token hash extension : String) (bytes : List UInt8)
    (hfits : ∀ folder, s.folder = some folder → folder.Fits)
    (hfree : ∀ folder stem, s.folder = some folder → stem? hash = some stem →
      folder.get? (temporaryName stem token) = none) :
    (∀ s' error, s.add token hash extension bytes = (s', .error error) → s' = s) ∧
      (∀ s' file, s.add token hash extension bytes = (s', .ok file) →
        stem? hash = some file.stem ∧
        file.name = fileName file.stem (cleanExtension extension) ∧
        (∀ other, s'.lookup? other =
          if stem? other = stem? hash then some file else s.lookup? other) ∧
        ∃ folder folder', s.folder = some folder ∧ s'.folder = some folder' ∧
          (∀ name, name ≠ file.name → folder'.get? name = folder.get? name) ∧
          folder'.get? (temporaryName file.stem token) = none ∧
          (folder'.get? file.name = some (.file bytes) ↔ folder.holdsFolder file.name = false) ∧
          (folder.holdsFolder file.name = true → folder' = folder)) ∧
      ((∃ file, (s.add token hash extension bytes).2 = .ok file) ↔
        s.CanStore token hash extension) := by
  rcases add_ends hfits hfree extension bytes with
    ⟨hcannot, error, hadd⟩ | ⟨hcan, stem, folder, hstem, hfolder, hadd⟩
  · -- it fails and leaves the store as it was
    rw [hadd]
    refine ⟨?_, ?_, iff_of_false (by simp) hcannot⟩
    · intro s' error' heq
      exact (Prod.mk.inj heq).1.symm
    · intro s' file heq
      exact absurd (Prod.mk.inj heq).2 (by simp)
  · have hvisible := (isStem_of_stem? hstem).isHiddenName_fileName (cleanExtension extension)
    rw [hadd]
    refine ⟨?_, ?_, iff_of_true ⟨_, rfl⟩ hcan⟩
    · intro s' error heq
      exact absurd (Prod.mk.inj heq).2 (by simp)
    · intro s' file heq
      obtain ⟨rfl, hfile⟩ := Prod.mk.inj heq
      obtain rfl := Except.ok.inj hfile
      refine ⟨hstem, describe_name _ _ _, fun other => ?_, folder, _, hfolder, rfl, ?_⟩
      · exact lookup?_putIndex hstem _ other
      rw [describe_name, describe_stem]
      refine ⟨?_, ?_, get?_kept_eq_file_iff, kept_of_holdsFolder⟩
      · intro name hname
        exact get?_kept_of_ne hname bytes
      · -- the temporary name is not that of the file, and was free before
        rw [get?_kept_of_ne (ne_temporaryName hvisible _ _).symm]
        exact hfree folder stem hfolder hstem

/-- A folder with a file, a folder and what an interrupted attempt left behind. -/
def sampleFolder : Folder :=
  [("note", .file [104, 105]), ("thumbs", .folder []), (".a-b_.0.tmp", .file [255])]

theorem photo_is_added_beside_others :
    let s := openOn sampleFolder "http://x/files/"
    sampleFolder.Fits ∧ sampleFolder.get? (temporaryName "a-b_" "1") = none ∧
      ∃ s' file folder', s.add "1" "a+b/" ".JPG" [255, 216] = (s', .ok file) ∧
        file.name = "a-b_.jpg" ∧ s'.lookup? "a+b/=" = some file ∧
        s'.lookup? "note" = s.lookup? "note" ∧ s'.folder = some folder' ∧
        folder'.get? "a-b_.jpg" = some (.file [255, 216]) ∧
        folder'.get? "thumbs" = some (.folder []) ∧ folder'.get? ".a-b_.1.tmp" = none ∧
        folder'.get? ".a-b_.0.tmp" = some (.file [255]) := by
  intro s
  have hfits : sampleFolder.Fits := by decide
  have hfree : sampleFolder.get? (temporaryName "a-b_" "1") = none := by rfl
  have hstem : stem? "a+b/" = some "a-b_" := by rfl
  obtain ⟨-, hstored, hends⟩ := adding_is_all_or_nothing s "1" "a+b/" ".JPG" [255, 216]
    (by rintro folder heq; obtain rfl := Option.some.inj heq; exact hfits)
    (by
      rintro folder stem heq hown
      obtain rfl := Option.some.inj heq
      obtain rfl := Option.some.inj (hstem.symm.trans hown)
      exact hfree)
  obtain ⟨file, hfile⟩ := hends.mpr ⟨"a-b_", hstem, rfl, by decide⟩
  obtain ⟨hown, hname, hlookup, folder, folder', hfolder, hfolder', hothers, hleft, hhas, -⟩ :=
    hstored _ file (Prod.ext rfl hfile)
  obtain rfl := Option.some.inj hfolder
  -- the hash gives the stem, and the stem and the extension the name
  have hstem' : file.stem = "a-b_" := Option.some.inj (hown.symm.trans hstem)
  rw [hstem'] at hname hleft
  have hname' : file.name = "a-b_.jpg" := hname.trans (by rfl)
  rw [hname'] at hothers hhas
  refine ⟨hfits, hfree, _, file, folder', Prod.ext rfl hfile, hname', ?_, ?_, hfolder', ?_, ?_,
    hleft, ?_⟩
  · exact (hlookup "a+b/=").trans (if_pos rfl)
  · exact (hlookup "note").trans (if_neg (by decide))
  · exact hhas.mpr rfl
  · exact hothers "thumbs" (by decide)
  · exact hothers ".a-b_.0.tmp" (by decide)

/-- Something of the file's name is there, and passes for the file: the store says that it has
stored it and finds it from now on, but there is a folder, as before, and no file. -/
theorem folder_passes_for_file :
    ∃ s' file, (openOn [("abc.jpg", .folder [])] "http://x/files").add "1" "abc" "jpg" [255, 216]
        = (s', .ok file) ∧
      file.name = "abc.jpg" ∧ s'.lookup? "abc" = some file ∧
      ∃ folder, s'.folder = some folder ∧ folder.get? "abc.jpg" = some (.folder []) ∧
        ∀ content, folder.get? "abc.jpg" ≠ some (.file content) := by
  refine ⟨_, describe _ "abc" "jpg", rfl, rfl, rfl, _, rfl, rfl, ?_⟩
  intro content hfile
  exact Node.noConfusion (Option.some.inj hfile)

end Store

end IrcGateway.Media

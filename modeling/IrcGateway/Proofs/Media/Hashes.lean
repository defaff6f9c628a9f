import IrcGateway.Proofs.Media.Adding
import IrcGateway.Proofs.Media.Reopening
import IrcGateway.Proofs.Protocol.Reading
import Mathlib.Data.List.DropRight

/-!
# From hashes to file names

The hash of a file and the extension of its name come from others, and nothing that they say may
lead out of the folder, hide a file, or make one file pass for another.

The first is a matter of characters. A hash with other characters than a stem has is turned down,
and of an extension only letters and digits are kept, so that every name that is used has one form
(`IsFileName`), from which everything else is read off.

The last is a matter of the hash, whose padding does not show in the stem. Hashes in base64 come in
groups of four characters, and so the length of what is left tells how much padding there was: a
stem gives back its hash (`paddedHash_eq`).
-/

namespace IrcGateway.Media

open IrcGateway.Text

/-! ### The form of file names -/

theorem isLower_iff {c : Char} : c.isLower = true ↔ 97 ≤ c.toNat ∧ c.toNat ≤ 122 := by
  change (decide ('a'.val ≤ c.val) && decide (c.val ≤ 'z'.val)) = true ↔ _
  rw [Bool.and_eq_true, decide_eq_true_iff, decide_eq_true_iff]
  exact and_congr UInt32.le_iff_toNat_le UInt32.le_iff_toNat_le

/-- A letter or digit in lower case is a small letter or a digit. -/
theorem isLower_or_isDigit_toLower {c : Char} (h : c.isAlphanum = true) :
    c.toLower.isLower = true ∨ c.toLower.isDigit = true := by
  rcases isAlphanum_iff.mp h with (hcapital | hsmall) | hdigit
  · have hbounds := isUpper_iff.mp hcapital
    rw [isLower_iff, toNat_toLower, if_pos hbounds]
    omega
  · have hlow : 97 ≤ c.toNat := UInt32.le_iff_toNat_le.mp hsmall.1
    have hhigh : c.toNat ≤ 122 := UInt32.le_iff_toNat_le.mp hsmall.2
    rw [isLower_iff, toNat_toLower, if_neg (by omega)]
    exact .inl ⟨hlow, hhigh⟩
  · rw [Char.isDigit_iff_toNat] at hdigit
    have hnine : '9'.toNat = 57 := rfl
    rw [Char.isDigit_iff_toNat, toNat_toLower, if_neg (by omega)]
    exact .inr hdigit

theorem mem_cleanExtension {extension : String} {c : Char}
    (h : c ∈ (cleanExtension extension).toList) : c.isLower = true ∨ c.isDigit = true := by
  unfold cleanExtension lower at h
  rw [String.toList_ofList, String.toList_ofList] at h
  obtain ⟨d, hd, rfl⟩ := List.mem_map.mp h
  exact isLower_or_isDigit_toLower (List.mem_filter.mp hd).2

/-- The form of the names that files have: a stem of ASCII letters, digits, underscores and hyphens,
and then, if there is an extension, a dot and its small ASCII letters and digits. -/
structure IsFileName (name stem extension : String) : Prop where
  stem_ne : stem ≠ ""
  stem_char : ∀ c ∈ stem.toList, c.isAlphanum = true ∨ c = '_' ∨ c = '-'
  extension_char : ∀ c ∈ extension.toList, c.isLower = true ∨ c.isDigit = true
  name_eq : name = if extension = "" then stem else stem ++ "." ++ extension

theorem isFileName_fileName {stem : String} (h : IsStem stem) (extension : String) :
    IsFileName (fileName stem (cleanExtension extension)) stem (cleanExtension extension) where
  stem_ne := by
    rintro rfl
    exact h.ne_nil rfl
  stem_char := by
    intro c hc
    simpa [isStemChar, or_assoc] using h.isStemChar c hc
  extension_char := fun c hc => mem_cleanExtension hc
  name_eq := rfl

namespace IsFileName

variable {name stem extension : String}

theorem isStem (h : IsFileName name stem extension) : IsStem stem where
  ne_nil := by
    intro hnil
    exact h.stem_ne (String.toList_eq_nil_iff.mp hnil)
  isStemChar := by
    intro c hc
    simpa [Media.isStemChar, or_assoc] using h.stem_char c hc

theorem eq_fileName (h : IsFileName name stem extension) : name = fileName stem extension :=
  h.name_eq

theorem splitName_eq (h : IsFileName name stem extension) :
    Store.splitName name = (stem, extension) := by
  rw [h.eq_fileName]
  exact Store.splitName_fileName h.isStem.dot_notMem extension

theorem isHiddenName_eq_false (h : IsFileName name stem extension) :
    Store.isHiddenName name = false := by
  rw [h.eq_fileName]
  exact h.isStem.isHiddenName_fileName extension

theorem slash_notMem (h : IsFileName name stem extension) : '/' ∉ name.toList := by
  rw [h.eq_fileName, toList_fileName, List.mem_append, not_or]
  constructor
  · intro hslash
    exact absurd (h.stem_char '/' hslash) (by decide)
  · split
    · exact List.not_mem_nil
    · rw [List.mem_cons, not_or]
      refine ⟨by decide, fun hslash => ?_⟩
      exact absurd (h.extension_char '/' hslash) (by decide)

end IsFileName

/-- A name that leads from a folder to one of its own entries. -/
structure IsChildName (name : String) : Prop where
  ne_empty : name ≠ ""
  slash_notMem : '/' ∉ name.toList
  ne_self : name ≠ "."
  ne_parent : name ≠ ".."

theorem IsFileName.isChildName {name stem extension : String}
    (h : IsFileName name stem extension) : IsChildName name := by
  have hvisible := h.isHiddenName_eq_false
  refine ⟨?_, h.slash_notMem, ?_, ?_⟩
  · rintro rfl
    have hnil := congrArg Prod.fst h.splitName_eq
    exact h.stem_ne hnil.symm
  · rintro rfl
    exact Bool.noConfusion hvisible
  · rintro rfl
    exact Bool.noConfusion hvisible

/-! ### Padding -/

/-- A character of base64. -/
def isBase64Char (c : Char) : Bool :=
  c.isAlphanum || c == '+' || c == '/'

/-- A text in padded base64: characters of base64 and at most two equals signs behind them, in
groups of four. -/
structure IsPaddedBase64 (hash : String) : Prop where
  four_dvd : 4 ∣ hash.toList.length
  parts : ∃ body padding, hash.toList = body ++ List.replicate padding '=' ∧ padding ≤ 2 ∧
    ∀ c ∈ body, isBase64Char c = true

/-- The character of a hash for that of a stem. -/
def hashChar (c : Char) : Char :=
  if c = '_' then '/' else if c = '-' then '+' else c

theorem hashChar_stemChar {c : Char} (h : isBase64Char c = true) : hashChar (stemChar c) = c := by
  have hunderscore : c ≠ '_' := by
    rintro rfl
    exact absurd h (by decide)
  have hhyphen : c ≠ '-' := by
    rintro rfl
    exact absurd h (by decide)
  unfold stemChar
  split
  · next hc => rw [hc]; rfl
  · split
    · next hc => rw [hc]; rfl
    · simp [hashChar, hunderscore, hhyphen]

theorem isStemChar_stemChar {c : Char} (h : isBase64Char c = true) :
    isStemChar (stemChar c) = true := by
  unfold stemChar
  split
  · decide
  · next hslash =>
    split
    · decide
    · next hplus =>
      have halnum : c.isAlphanum = true := by simpa [isBase64Char, hslash, hplus] using h
      simp [isStemChar, halnum]

/-- The hash in padded base64 that has a stem. -/
def paddedHash (stem : String) : String :=
  let body := stem.toList.map hashChar
  String.ofList (body ++ List.replicate ((4 - body.length % 4) % 4) '=')

theorem stem?_eq_some_iff {hash stem : String} :
    stem? hash = some stem ↔
      stem.toList = (hash.toList.rdropWhile (· == '=')).map stemChar ∧ IsStem stem := by
  constructor
  · intro h
    refine ⟨?_, isStem_of_stem? h⟩
    unfold stem? at h
    simp only at h
    split at h
    · exact absurd h (by simp)
    · split at h
      · rw [← Option.some.inj h, String.toList_ofList]
        rfl
      · exact absurd h (by simp)
  · rintro ⟨hchars, hstem⟩
    have hne : stem.toList.isEmpty = false := by simpa using hstem.ne_nil
    have hall : stem.toList.all isStemChar = true := List.all_eq_true.mpr hstem.isStemChar
    unfold List.rdropWhile at hchars
    simp only [stem?, ← hchars, hne, hall, String.ofList_toList, Bool.false_eq_true, if_false,
      if_true]

/-- Padding does not show. -/
theorem rdropWhile_padding {body : List Char} (h : ∀ c ∈ body, isBase64Char c = true)
    (padding : Nat) : (body ++ List.replicate padding '=').rdropWhile (· == '=') = body := by
  induction padding with
  | zero =>
    rw [List.replicate_zero, List.append_nil, List.rdropWhile_eq_self_iff]
    intro hne hlast
    have hpad : body.getLast hne = '=' := by simpa using hlast
    exact absurd (h _ (List.getLast_mem hne)) (by rw [hpad]; decide)
  | succ padding ih =>
    rw [List.replicate_succ', ← List.append_assoc, List.rdropWhile_concat_pos _ _ _ (by simp), ih]

namespace IsPaddedBase64

variable {hash stem : String}

/-- **A stem gives back its hash.** The length of what is left without the padding tells how much
padding there was. -/
theorem paddedHash_eq (h : IsPaddedBase64 hash) (hstem : stem? hash = some stem) :
    paddedHash stem = hash := by
  obtain ⟨body, padding, hparts, hpadding, hbody⟩ := h.parts
  obtain ⟨hchars, -⟩ := stem?_eq_some_iff.mp hstem
  rw [hparts, rdropWhile_padding hbody] at hchars
  -- the stem has the body of the hash, and the length of the body tells the padding
  have hback : stem.toList.map hashChar = body := by
    rw [hchars, List.map_map]
    calc
      body.map (hashChar ∘ stemChar) = body.map id :=
        List.map_congr_left fun c hc => hashChar_stemChar (hbody c hc)
      _ = body := List.map_id body
  have hlength : (4 - body.length % 4) % 4 = padding := by
    have hfour := h.four_dvd
    rw [hparts, List.length_append, List.length_replicate] at hfour
    omega
  simp only [paddedHash, hback, hlength, ← hparts, String.ofList_toList]

theorem isSome_stem? (h : IsPaddedBase64 hash) (hne : hash ≠ "") : (stem? hash).isSome = true := by
  obtain ⟨body, padding, hparts, hpadding, hbody⟩ := h.parts
  -- at most two characters of padding alone are no group of four
  have hbodyne : body ≠ [] := by
    rintro rfl
    have hfour := h.four_dvd
    rw [hparts, List.nil_append, List.length_replicate] at hfour
    have hnone : padding = 0 := by omega
    subst hnone
    exact hne (String.toList_eq_nil_iff.mp hparts)
  have hstem : stem? hash = some (String.ofList (body.map stemChar)) := by
    refine stem?_eq_some_iff.mpr ⟨?_, ?_, ?_⟩
    · rw [hparts, rdropWhile_padding hbody, String.toList_ofList]
    · rw [String.toList_ofList]
      exact fun hnil => hbodyne (List.map_eq_nil_iff.mp hnil)
    · rw [String.toList_ofList]
      intro c hc
      obtain ⟨d, hd, rfl⟩ := List.mem_map.mp hc
      exact isStemChar_stemChar (hbody d hd)
  rw [hstem, Option.isSome_some]

end IsPaddedBase64

namespace Store

/-! ### What adding uses -/

/-- A hash that makes a file name is not turned down. -/
theorem add_of_stem? {hash stem : String} (hstem : stem? hash = some stem) (s : Store)
    (token extension : String) (bytes : List UInt8) :
    (s.add token hash extension bytes).2 =
        .ok (describe s.baseUrl stem (cleanExtension extension)) ∨
      (s.add token hash extension bytes).2 = .error .storage := by
  unfold add
  simp only [hstem]
  generalize describe s.baseUrl stem (cleanExtension extension) = file
  cases s.folder with
  | none => exact .inr rfl
  | some folder =>
    simp only
    split
    · exact .inr rfl
    split
    · exact .inl rfl
    split
    · exact .inl rfl
    · exact .inr rfl

/-- Adding leaves everything alone but what has the name of the file or a temporary name. -/
theorem get?_add {hash stem : String} (hstem : stem? hash = some stem) (s : Store)
    (token extension : String) (bytes : List UInt8) {folder : Folder}
    (hfolder : s.folder = some folder) :
    ∃ folder', (s.add token hash extension bytes).1.folder = some folder' ∧
      ∀ name, name ≠ fileName stem (cleanExtension extension) → name ≠ temporaryName stem token →
        folder'.get? name = folder.get? name := by
  -- the temporary file leaves nothing behind
  have hcleared : ∀ name, name ≠ temporaryName stem token →
      ((folder.put (temporaryName stem token) (.file bytes)).erase
        (temporaryName stem token)).get? name = folder.get? name := by
    intro name htemporary
    rw [Folder.get?_erase, if_neg htemporary, Folder.get?_put, if_neg htemporary]
  rw [← describe_name s.baseUrl stem (cleanExtension extension)]
  unfold add
  simp only [hstem, hfolder]
  generalize describe s.baseUrl stem (cleanExtension extension) = file
  split
  · exact ⟨folder, hfolder, fun name _ _ => rfl⟩
  split
  · next renamed hrenamed =>
    obtain ⟨node, -, -, rfl⟩ := rename?_eq_some_iff.mp hrenamed
    refine ⟨_, rfl, fun name hname htemporary => ?_⟩
    rw [Folder.get?_put, if_neg hname, hcleared name htemporary]
  split
  · exact ⟨_, rfl, fun name _ htemporary => hcleared name htemporary⟩
  · exact ⟨_, rfl, fun name _ htemporary => hcleared name htemporary⟩

/-- A file whose hash makes a name is stored under it, where the folder can take both of its names
and no folder has that of the file. -/
theorem get?_add_of_fits {s : Store} {token hash stem extension : String} {bytes : List UInt8}
    {folder folder' : Folder} (hstem : stem? hash = some stem) (hfolder : s.folder = some folder)
    (hfolder' : (s.add token hash extension bytes).1.folder = some folder') (hfits : folder.Fits)
    (hfree : folder.get? (temporaryName stem token) = none)
    (hnames : NamesFit stem token (cleanExtension extension))
    (hholds : folder.holdsFolder (fileName stem (cleanExtension extension)) = false) :
    (s.add token hash extension bytes).2 =
        .ok (describe s.baseUrl stem (cleanExtension extension)) ∧
      folder'.get? (fileName stem (cleanExtension extension)) = some (.file bytes) := by
  have hadd := add_of_stem hstem hfolder hfits hfree extension bytes
  rw [if_pos hnames] at hadd
  rw [hadd] at hfolder' ⊢
  obtain rfl := Option.some.inj hfolder'
  exact ⟨rfl, get?_kept_eq_file_iff.mpr hholds⟩

/-- **The names of files are safe and do not clash.** For every hash and every text as extension,
adding either turns the hash down or uses a name that

* has the form of a stem and possibly a dot and an extension, both of which the name gives back: the
  stem that the hash makes, and what is left of the extension without other characters;
* leads to an entry of the folder itself, is not hidden and is no temporary name.

Only what has this name or the temporary name can change in the folder, and a file that is stored
has this name. It is stored if the temporary name is free, both names fit and no folder has the
name.

Of hashes in padded base64 no two have the same stem, and none is turned down but the empty one. -/
theorem file_names_are_safe :
    (∀ (s : Store) (token hash extension : String) (bytes : List UInt8),
      s.add token hash extension bytes = (s, .error (.invalidHash hash)) ∨
        ∃ name stem suffix, IsFileName name stem suffix ∧ stem? hash = some stem ∧
          suffix = cleanExtension extension ∧ splitName name = (stem, suffix) ∧
          IsChildName name ∧ isHiddenName name = false ∧
          (∀ stem' token', name ≠ temporaryName stem' token') ∧
          (∀ file, (s.add token hash extension bytes).2 = .ok file → file.name = name) ∧
          ∀ folder, s.folder = some folder →
            ∃ folder', (s.add token hash extension bytes).1.folder = some folder' ∧
              (∀ other, other ≠ name → other ≠ temporaryName stem token →
                folder'.get? other = folder.get? other) ∧
              (folder.Fits → folder.get? (temporaryName stem token) = none →
                NamesFit stem token suffix → folder.holdsFolder name = false →
                (s.add token hash extension bytes).2 = .ok (describe s.baseUrl stem suffix) ∧
                  folder'.get? name = some (.file bytes))) ∧
      (∀ hash hash', IsPaddedBase64 hash → IsPaddedBase64 hash' → stem? hash = stem? hash' →
        hash = hash') ∧
      ∀ hash, IsPaddedBase64 hash → hash ≠ "" →
        ∀ (s : Store) (token extension : String) (bytes : List UInt8) (other : String),
          (s.add token hash extension bytes).2 ≠ .error (.invalidHash other) := by
  refine ⟨?_, ?_, ?_⟩
  · -- the name of a file
    intro s token hash extension bytes
    cases hstem : stem? hash with
    | none =>
      left
      unfold add
      rw [hstem]
    | some stem =>
      right
      have hname := isFileName_fileName (isStem_of_stem? hstem) extension
      refine ⟨_, stem, _, hname, rfl, rfl, hname.splitName_eq, hname.isChildName,
        hname.isHiddenName_eq_false, ?_, ?_, ?_⟩
      · intro stem' token'
        exact ne_temporaryName hname.isHiddenName_eq_false stem' token'
      · intro file hfile
        rcases add_of_stem? hstem s token extension bytes with hok | herror
        · obtain rfl := Except.ok.inj (hok.symm.trans hfile)
          exact describe_name _ _ _
        · exact absurd (herror.symm.trans hfile) (by simp)
      · intro folder hfolder
        obtain ⟨folder', hfolder', hothers⟩ := get?_add hstem s token extension bytes hfolder
        exact ⟨folder', hfolder', hothers, get?_add_of_fits hstem hfolder hfolder'⟩
  · -- two hashes of one stem
    intro hash hash' h h' hsame
    by_cases hempty : hash = ""
    · -- the empty hash has no stem, and every other has one
      by_contra hne
      have hsome := h'.isSome_stem? fun hempty' => hne (hempty.trans hempty'.symm)
      rw [← hsame, hempty] at hsome
      exact absurd hsome (by decide)
    · obtain ⟨stem, hstem⟩ := Option.isSome_iff_exists.mp (h.isSome_stem? hempty)
      rw [← h.paddedHash_eq hstem, h'.paddedHash_eq (hsame.symm.trans hstem)]
  · -- a hash that is not empty
    intro hash h hne s token extension bytes other herror
    obtain ⟨stem, hstem⟩ := Option.isSome_iff_exists.mp (h.isSome_stem? hne)
    rcases add_of_stem? hstem s token extension bytes with hok | hstorage
    · exact absurd (hok.symm.trans herror) (by simp)
    · exact absurd (hstorage.symm.trans herror) (by simp)

/-- Two hashes with the same beginning and different padding have different stems. A text short of
its padding, which is no padded base64, shares the stem of the padded one. -/
theorem padded_hashes_keep_apart :
    IsPaddedBase64 "a+/=" ∧ IsPaddedBase64 "a+==" ∧ stem? "a+/=" ≠ stem? "a+==" ∧
      stem? "a+/" = stem? "a+/=" ∧ ("a+/=" : String) ≠ "" ∧
      ∀ (s : Store) (token extension : String) (bytes : List UInt8) (other : String),
        (s.add token "a+/=" extension bytes).2 ≠ .error (.invalidHash other) := by
  have h : IsPaddedBase64 "a+/=" :=
    ⟨by decide, ['a', '+', '/'], 1, rfl, by decide, List.all_eq_true.mp rfl⟩
  have h' : IsPaddedBase64 "a+==" :=
    ⟨by decide, ['a', '+'], 2, rfl, by decide, List.all_eq_true.mp rfl⟩
  obtain ⟨-, happart, haccepted⟩ := file_names_are_safe
  refine ⟨h, h', ?_, rfl, by decide, haccepted "a+/=" h (by decide)⟩
  intro hsame
  exact absurd (happart _ _ h h' hsame) (by decide)

end Store

end IrcGateway.Media

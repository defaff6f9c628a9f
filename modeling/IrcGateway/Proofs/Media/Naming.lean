import IrcGateway.Media.Store
import Mathlib.Data.List.Induction

/-!
# The names of stored files

A file is named by its stem and its extension, and the name gives both back: a stem has no dot, so
that the name is cut at the first dot it has, if any (`splitName_fileName`). The names that files
have while they are written are hidden, and no name of a stem is (`isHiddenName_temporaryName`,
`IsStem.isHiddenName_fileName`).

What an index of names finds is read off the names: the last one of the stem that is not hidden
(`lookup_indexNames`).
-/

namespace IrcGateway.Media

open IrcGateway.Text

/-! ### Stems -/

/-- A text that can be the stem of a file name. -/
structure IsStem (stem : String) : Prop where
  ne_nil : stem.toList ≠ []
  isStemChar : ∀ c ∈ stem.toList, isStemChar c = true

theorem isStem_of_stem? {hash stem : String} (h : stem? hash = some stem) : IsStem stem := by
  unfold stem? at h
  simp only at h
  split at h
  · simp at h
  · next hne =>
    split at h
    · next hall =>
      rw [Option.some.injEq] at h
      subst h
      constructor
      · simpa using hne
      · simpa [List.all_eq_true] using hall
    · simp at h

theorem isStemChar_dot : isStemChar '.' = false := by
  decide

namespace IsStem

variable {stem : String}

theorem dot_notMem (h : IsStem stem) : '.' ∉ stem.toList := by
  intro hdot
  have hchar := h.isStemChar '.' hdot
  rw [isStemChar_dot] at hchar
  exact Bool.false_ne_true hchar

end IsStem

/-! ### File names -/

theorem toList_fileName (stem extension : String) :
    (fileName stem extension).toList =
      stem.toList ++ if extension = "" then [] else '.' :: extension.toList := by
  unfold fileName
  by_cases h : extension = ""
  · simp [h]
  · simp [h]

namespace Store

@[simp]
theorem describe_stem (baseUrl stem extension : String) :
    (describe baseUrl stem extension).stem = stem := rfl

@[simp]
theorem describe_name (baseUrl stem extension : String) :
    (describe baseUrl stem extension).name = fileName stem extension := rfl

/-- **A file name gives back its stem and its extension.** -/
theorem splitName_fileName {stem : String} (h : '.' ∉ stem.toList) (extension : String) :
    splitName (fileName stem extension) = (stem, extension) := by
  unfold splitName
  rw [toList_fileName]
  by_cases he : extension = ""
  · -- without an extension there is no dot at all
    subst he
    have hnone : splitAtFirst '.' stem.toList = none := splitAtFirst_eq_none_iff.mpr h
    rw [if_pos rfl, List.append_nil, hnone]
    rfl
  · rw [if_neg he, splitAtFirst_append _ h]
    simp only [String.ofList_toList]

theorem isHiddenName_temporaryName (stem token : String) :
    isHiddenName (temporaryName stem token) = true := by
  unfold isHiddenName temporaryName
  simp [String.toList_append]

theorem ne_temporaryName {name : String} (h : isHiddenName name = false) (stem token : String) :
    name ≠ temporaryName stem token := by
  rintro rfl
  rw [isHiddenName_temporaryName] at h
  exact Bool.noConfusion h

end Store

theorem IsStem.isHiddenName_fileName {stem : String} (h : IsStem stem) (extension : String) :
    Store.isHiddenName (fileName stem extension) = false := by
  -- the name begins with the stem, and so with a character that is no dot
  obtain ⟨c, cs, hstem⟩ := List.exists_cons_of_ne_nil h.ne_nil
  have hc : c ≠ '.' := by
    rintro rfl
    exact h.dot_notMem (hstem ▸ List.mem_cons_self)
  unfold Store.isHiddenName
  rw [toList_fileName, hstem, List.cons_append, List.head?_cons]
  simpa using hc

/-! ### Indexes of names -/

namespace Store

/-- The file that a name is taken for. -/
def describeName (baseUrl name : String) : StoredFile :=
  describe baseUrl (splitName name).1 (splitName name).2

/-- Whether an index finds a name under a stem. -/
def belongsTo (stem name : String) : Bool :=
  !isHiddenName name && (splitName name).1 == stem

/-- **What an index of names finds**: the last of the names that belong to the stem. -/
theorem lookup_indexNames (baseUrl : String) (names : List String) (stem : String) :
    (indexNames baseUrl names).lookup stem =
      ((names.filter (belongsTo stem)).getLast?).map (describeName baseUrl) := by
  -- on the names from the end, because a later name takes the place of an earlier one
  induction names using List.reverseRecOn with
  | nil => rfl
  | append_singleton names name ih =>
    unfold indexNames at ih ⊢
    rw [List.filter_append, List.filter_append]
    by_cases hhidden : isHiddenName name = true
    · have hnot : belongsTo stem name = false := by simp [belongsTo, hhidden]
      simp only [List.filter_cons, List.filter_nil, hhidden, hnot, Bool.not_true,
        Bool.false_eq_true, if_false, List.append_nil]
      exact ih
    · rw [Bool.not_eq_true] at hhidden
      simp only [List.filter_cons, List.filter_nil, hhidden, Bool.not_false, if_true,
        List.foldl_append, List.foldl_cons, List.foldl_nil]
      rw [lookup_putIndex, ih]
      by_cases hstem : stem = (splitName name).1
      · -- the last name is of the stem, whatever stands before it
        have hnames : belongsTo stem name = true := by simp [belongsTo, hhidden, hstem]
        have hput : stem = (describe baseUrl (splitName name).1 (splitName name).2).stem := hstem
        rw [if_pos hput, if_pos hnames, List.getLast?_concat]
        rfl
      · have hnames : belongsTo stem name = false := by
          simp [belongsTo, hhidden, Ne.symm hstem]
        have hput : stem ≠ (describe baseUrl (splitName name).1 (splitName name).2).stem := hstem
        rw [if_neg hput, hnames]
        simp

end Store

end IrcGateway.Media

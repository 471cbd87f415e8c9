import DefsGlue.Proofs.TypeName.Words
import Mathlib.Data.List.Forall2

/-! Underscored names taken apart again. For an ASCII name with a capital and no underscore from
there on, cutting the underscored form at its underscores gives the words back in upper case, so two
such names share their underscored form just if their words differ in case at most. -/
namespace DefsGlue.TypeName

/-- An ASCII name with a capital and no underscore from its first capital on. -/
structure Plain (name : String) : Prop where
  ascii : Text.IsAscii name
  capital : ∃ c ∈ name.toList, isCapital c = true
  joined : '_' ∉ name.toList.dropWhile isTail

/-- Whether two words differ in the case of letters at most. -/
def SameButCase (v w : String) : Prop := v.toList.map Char.toLower = w.toList.map Char.toLower

instance (v w : String) : Decidable (SameButCase v w) :=
  inferInstanceAs (Decidable (v.toList.map Char.toLower = w.toList.map Char.toLower))

variable {name word a b : String}

theorem Plain.ascii_of_mem (h : Plain name) (hw : word ∈ words name) : Text.IsAscii word := by
  intro c hc
  have hname := mem_of_mem_words hw hc
  exact h.ascii c ((List.dropWhile_sublist isTail).subset hname)

/-- No word has an underscore, and upper case adds none. -/
theorem Plain.underscore_not_mem (h : Plain name) (hw : word ∈ words name) :
    '_' ∉ word.toUpper.toList := by
  intro hmem
  obtain ⟨c, hc, hupper⟩ : ∃ c ∈ word.toList, c.toUpper = '_' := by
    simpa [String.toUpper] using hmem
  obtain rfl := Text.toUpper_eq_underscore_iff.mp hupper
  exact h.joined (mem_of_mem_words hw hc)

theorem Plain.macroName_eq (h : Plain name) :
    macroName name = "_".intercalate ((words name).map String.toUpper) := by
  rw [TypeName.macroName_eq]
  congr 1
  exact List.map_congr_left fun w hw => Text.uppercase_ascii (h.ascii_of_mem hw)

theorem Plain.splitOn_macroName (h : Plain name) :
    ((macroName name).toList.splitOn '_').map String.ofList =
      (words name).map String.toUpper := by
  have hfree : ∀ cs ∈ ((words name).map String.toUpper).map String.toList, '_' ∉ cs := by
    intro cs hcs
    obtain ⟨word, hw, rfl⟩ : ∃ word ∈ words name, word.toUpper.toList = cs := by
      simpa using hcs
    exact h.underscore_not_mem hw
  rw [h.macroName_eq, String.toList_intercalate,
    show "_".toList = ['_'] from rfl, List.splitOn_intercalate '_' hfree]
  · simp
  · simpa using words_ne_nil h.capital

/-- The underscored form of a name without underscores is cut back into the words, in upper case and
in order. So two such names share it if and only if they have equally many words, which agree pair
by pair but for the case of letters. -/
theorem underscored_resplits :
    (∀ name, Plain name → ∃ rest, (underscored name).toList = '_' :: rest ∧
      (rest.splitOn '_').map String.ofList = (words name).map String.toUpper) ∧
    ∀ a b, Plain a → Plain b →
      (underscored a = underscored b ↔ List.Forall₂ SameButCase (words a) (words b)) := by
  constructor
  · intro name h
    exact ⟨(macroName name).toList, by simp [underscored], h.splitOn_macroName⟩
  · intro a b ha hb
    have hcase : List.Forall₂ SameButCase (words a) (words b) ↔
        (words a).map String.toUpper = (words b).map String.toUpper := by
      rw [← List.forall₂_eq_eq_eq, List.forall₂_map_left_iff, List.forall₂_map_right_iff]
      simp only [Text.toUpper_eq_iff]
      rfl
    rw [hcase]
    constructor
    · intro h
      have hmacro : macroName a = macroName b := by simpa [underscored] using h
      rw [← ha.splitOn_macroName, ← hb.splitOn_macroName, hmacro]
    · intro h
      rw [underscored, underscored, ha.macroName_eq, hb.macroName_eq, h]

/-- What stands before the first capital is in no word, and a word may begin with two capitals: the
names come to the same form. -/
theorem underscored_resplits_list :
    Plain "my_GtkCListRow" ∧ Plain "GTkClistROw" ∧
    (∃ rest, (underscored "my_GtkCListRow").toList = '_' :: rest ∧
      (rest.splitOn '_').map String.ofList = (words "my_GtkCListRow").map String.toUpper) ∧
    List.Forall₂ SameButCase (words "my_GtkCListRow") (words "GTkClistROw") ∧
    underscored "my_GtkCListRow" = underscored "GTkClistROw" := by
  have ha : Plain "my_GtkCListRow" := ⟨by decide +kernel, ⟨'G', by decide, rfl⟩, by decide⟩
  have hb : Plain "GTkClistROw" := ⟨by decide +kernel, ⟨'G', by decide, rfl⟩, by decide⟩
  have hwa : words "my_GtkCListRow" = ["Gtk", "CList", "Row"] := by decide +kernel
  have hwb : words "GTkClistROw" = ["GTk", "Clist", "ROw"] := by decide +kernel
  have hwords : List.Forall₂ SameButCase (words "my_GtkCListRow") (words "GTkClistROw") := by
    rw [hwa, hwb]
    exact .cons (by decide) (.cons (by decide) (.cons (by decide) .nil))
  exact ⟨ha, hb, underscored_resplits.1 _ ha, hwords, (underscored_resplits.2 _ _ ha hb).mpr hwords⟩

end DefsGlue.TypeName

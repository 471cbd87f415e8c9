import DefsGlue.Proofs.TypeName.Words

/-! The tag macro by words. The framework's marker is taken off the front of the underscored name
as a piece of text, so a first word that goes on after the marker is cut in two and the tag lacks
the underscore behind its head. In every other case the tag is its head and the words. -/
namespace DefsGlue.TypeName

/-- The words that a tag spells out: all of them, but for a first one that is the framework's marker
when others follow. -/
def taggedWords : List String → List String
  | w :: v :: ws => if w = "GTK" then v :: ws else w :: v :: ws
  | ws => ws

/-- Whether the first word begins with the framework's marker and goes on after it. -/
def CutsWord (ws : List String) : Prop := ∃ tail vs, tail ≠ "" ∧ ws = ("GTK" ++ tail) :: vs

/-- What the tag of a name with the given words in upper case can be. -/
inductive Tagged : List String → String → Prop
  | folded {v : String} {vs : List String} :
      Tagged ("GTK" :: v :: vs) ("GTK_TYPE_" ++ "_".intercalate (v :: vs))
  | cut {tail : String} {vs : List String} : tail ≠ "" →
      Tagged (("GTK" ++ tail) :: vs) ("GTK_TYPE" ++ "_".intercalate (tail :: vs))
  | whole {ws : List String} : (∀ tail vs, ws = ("GTK" ++ tail) :: vs → tail = "" ∧ vs = []) →
      Tagged ws ("GTK_TYPE_" ++ "_".intercalate ws)

variable {name tail tag : String} {vs ws : List String} {c : Char} {rest : List Char}

theorem isPrefixOf?_eq_some_iff {marker text : List Char} :
    marker.isPrefixOf? text = some rest ↔ text = marker ++ rest := by
  induction marker generalizing text with
  | nil => simp [List.isPrefixOf?]
  | cons m marker ih =>
    cases text with
    | nil => simp [List.isPrefixOf?]
    | cons t text =>
      by_cases h : m = t
      · subst h
        simp [List.isPrefixOf?, ih]
      · simp [List.isPrefixOf?, h, Ne.symm h]

theorem tagMacro_of_marker (h : (underscored name).toList = "_GTK".toList ++ c :: rest) :
    tagMacro name = "GTK_TYPE" ++ String.ofList (c :: rest) := by
  have hcut : "_GTK".toList.isPrefixOf? (underscored name).toList = some (c :: rest) :=
    isPrefixOf?_eq_some_iff.mpr h
  simp only [tagMacro, hcut]

theorem tagMacro_of_no_marker
    (h : ∀ c rest, (underscored name).toList ≠ "_GTK".toList ++ c :: rest) :
    tagMacro name = "GTK_TYPE" ++ underscored name := by
  unfold tagMacro
  split
  · next c rest hcut => exact (h c rest (isPrefixOf?_eq_some_iff.mp hcut)).elim
  · rfl

/-- Joined words are the first of them and, unless it is the only one, an underscore and more. -/
theorem toList_intercalate_cons (w : String) (ws : List String) : ∃ more,
    ("_".intercalate (w :: ws)).toList = w.toList ++ more ∧ ∀ c ∈ more.head?, c = '_' := by
  cases ws with
  | nil => exact ⟨[], by simp⟩
  | cons v ws =>
    refine ⟨'_' :: ("_".intercalate (v :: ws)).toList, ?_, by simp⟩
    rw [String.intercalate_cons_cons]
    simp

/-- Joined words begin with the marker only if the first word does. -/
theorem eq_marker_cons (h : ("_".intercalate ws).toList = "GTK".toList ++ rest) :
    ∃ tail vs, ws = ("GTK" ++ tail) :: vs := by
  cases ws with
  | nil => simp at h
  | cons w ws =>
    obtain ⟨more, hjoin, hmore⟩ := toList_intercalate_cons w ws
    rw [hjoin, List.append_eq_append_iff] at h
    rcases h with ⟨front, hmarker, hrest⟩ | ⟨tail, hw, -⟩
    · -- The word is a piece of the marker. It is all of it, since no underscore is in the marker.
      cases front with
      | nil =>
        have hw : w = "GTK" := String.toList_injective (by simpa using hmarker.symm)
        exact ⟨"", ws, by simp [hw]⟩
      | cons c front =>
        have hc : c = '_' := hmore c (by simp [hrest])
        have hmem : c ∈ "GTK".toList := by simp [hmarker]
        subst hc
        exact absurd hmem (by decide)
    · have hw : w = "GTK" ++ .ofList tail := String.toList_injective (by simpa using hw)
      exact ⟨.ofList tail, ws, by rw [hw]⟩

theorem tagged_tagMacro (name : String) :
    Tagged ((words name).map Text.uppercase) (tagMacro name) := by
  have hname : underscored name = "_" ++ "_".intercalate ((words name).map Text.uppercase) := by
    rw [underscored, macroName_eq]
  generalize (words name).map Text.uppercase = ws at hname
  by_cases hmarker : ∃ c rest, (underscored name).toList = "_GTK".toList ++ c :: rest
  · obtain ⟨c, rest, h⟩ := hmarker
    have hjoin : ("_".intercalate ws).toList = "GTK".toList ++ c :: rest := by
      simpa [hname] using h
    obtain ⟨tail, vs, rfl⟩ := eq_marker_cons hjoin
    have hrest : String.ofList (c :: rest) = "_".intercalate (tail :: vs) := by
      rw [String.intercalate_cons_append, String.toList_append, List.append_cancel_left_eq] at hjoin
      rw [← hjoin, String.ofList_toList]
    rw [tagMacro_of_marker h, hrest]
    by_cases htail : tail = ""
    · subst htail
      cases vs with
      | nil => simp at hrest
      | cons v vs =>
        rw [String.intercalate_cons_cons, String.append_empty]
        exact .folded
    · exact .cut htail
  · rw [tagMacro_of_no_marker (fun c rest h => hmarker ⟨c, rest, h⟩), hname]
    refine .whole fun tail vs hws => ?_
    cases hrest : ("_".intercalate (tail :: vs)).toList with
    | nil =>
      cases vs with
      | nil => exact ⟨by simpa using hrest, rfl⟩
      | cons v vs => simp [String.intercalate_cons_cons] at hrest
    | cons c rest =>
      refine (hmarker ⟨c, rest, ?_⟩).elim
      rw [hname, hws, String.intercalate_cons_append, String.toList_append, String.toList_append,
        hrest]
      rfl

theorem marker_append_eq_iff : "GTK" = "GTK" ++ tail ↔ tail = "" := by
  rw [eq_comm, String.append_eq_left_iff]

theorem taggedWords_of_ne (h : ∀ vs, ws = "GTK" :: vs → vs = []) : taggedWords ws = ws := by
  unfold taggedWords
  split
  · next w v vs =>
    have hw : w ≠ "GTK" := by
      rintro rfl
      exact List.cons_ne_nil v vs (h _ rfl)
    rw [if_neg hw]
  · rfl

theorem Tagged.of_cut (h : Tagged ws tag) (hws : ws = ("GTK" ++ tail) :: vs) (htail : tail ≠ "") :
    tag = "GTK_TYPE" ++ "_".intercalate (tail :: vs) := by
  cases h with
  | folded => exact absurd (marker_append_eq_iff.mp (List.cons.inj hws).1) htail
  | @cut tail' vs' _ =>
    obtain ⟨hword, rfl⟩ := List.cons.inj hws
    obtain rfl : tail' = tail := by simpa using hword
    rfl
  | whole hkept => exact absurd (hkept tail vs hws).1 htail

theorem Tagged.of_not_cutsWord (h : Tagged ws tag) (hws : ¬ CutsWord ws) :
    tag = "GTK_TYPE_" ++ "_".intercalate (taggedWords ws) := by
  cases h with
  | folded => simp [taggedWords]
  | @cut tail vs htail => exact (hws ⟨tail, vs, htail, rfl⟩).elim
  | whole hkept => rw [taggedWords_of_ne fun vs hvs => (hkept "" vs (by simpa using hvs)).2]

/-- What spells the words is longer, by the underscore behind the head and by the marker. -/
theorem cut_ne_spelled (htail : tail ≠ "") (vs : List String) :
    "GTK_TYPE" ++ "_".intercalate (tail :: vs) ≠
      "GTK_TYPE_" ++ "_".intercalate (taggedWords (("GTK" ++ tail) :: vs)) := by
  have hall : taggedWords (("GTK" ++ tail) :: vs) = ("GTK" ++ tail) :: vs := by
    apply taggedWords_of_ne
    intro us hus
    exact absurd (marker_append_eq_iff.mp (List.cons.inj hus).1.symm) htail
  have hhead : "GTK_TYPE".length = 8 ∧ "GTK_TYPE_".length = 9 := by decide
  intro h
  rw [hall, String.intercalate_cons_append] at h
  have hlen := congrArg String.length h
  simp only [String.length_append, hhead.1, hhead.2] at hlen
  omega

/-- The tag of a name is its head, then the words in upper case with underscores between them, less
a first word that is the framework's marker when others follow. It fails to be so for exactly those
names whose first word goes on after the marker: of that word the tag keeps what goes on, with no
underscore in front. -/
theorem tagMacro_spells_words_iff (name : String) :
    let ws := (words name).map Text.uppercase
    (tagMacro name = "GTK_TYPE_" ++ "_".intercalate (taggedWords ws) ↔ ¬ CutsWord ws) ∧
    ∀ tail vs, tail ≠ "" → ws = ("GTK" ++ tail) :: vs →
      tagMacro name = "GTK_TYPE" ++ "_".intercalate (tail :: vs) := by
  intro ws
  have htagged : Tagged ws (tagMacro name) := tagged_tagMacro name
  refine ⟨⟨?_, htagged.of_not_cutsWord⟩, fun tail vs htail hws => htagged.of_cut hws htail⟩
  rintro hspelled ⟨tail, vs, htail, hws⟩
  rw [htagged.of_cut hws htail, hws] at hspelled
  exact cut_ne_spelled htail vs hspelled

/-- A marker that is a word is folded into the head of the tag, one that is not takes the word's end
along. -/
theorem tagMacro_spells_words_iff_window :
    ¬ CutsWord ((words "GtkWindowType").map Text.uppercase) ∧
    tagMacro "GtkWindowType" = "GTK_TYPE_" ++ "_".intercalate ["WINDOW", "TYPE"] ∧
    "EXTRA" ≠ "" ∧
    (words "GtkextraPlotData").map Text.uppercase = ["GTK" ++ "EXTRA", "PLOT", "DATA"] ∧
    tagMacro "GtkextraPlotData" = "GTK_TYPE" ++ "_".intercalate ["EXTRA", "PLOT", "DATA"] := by
  have hwindow : (words "GtkWindowType").map Text.uppercase = ["GTK", "WINDOW", "TYPE"] := by
    decide +kernel
  have hextra : (words "GtkextraPlotData").map Text.uppercase =
      ["GTK" ++ "EXTRA", "PLOT", "DATA"] := by
    decide +kernel
  have hkept : ¬ CutsWord ((words "GtkWindowType").map Text.uppercase) := by
    rw [hwindow]
    rintro ⟨tail, vs, htail, hws⟩
    exact htail (marker_append_eq_iff.mp (List.cons.inj hws).1)
  have htag := (tagMacro_spells_words_iff "GtkWindowType").1.mpr hkept
  rw [hwindow] at htag
  exact ⟨hkept, htag, by decide, hextra,
    (tagMacro_spells_words_iff "GtkextraPlotData").2 _ _ (by decide) hextra⟩

/-- The first word of this name begins with the marker but is not the marker, and the tag neither
spells it out nor starts with the head and an underscore. -/
theorem tagMacro_cuts_area :
    Text.IsAscii "GtkglArea" ∧ (∃ c ∈ "GtkglArea".toList, isCapital c = true) ∧
    (words "GtkglArea").map Text.uppercase = ["GTKGL", "AREA"] ∧
    tagMacro "GtkglArea" = "GTK_TYPEGL_AREA" ∧
    tagMacro "GtkglArea" ≠ "GTK_TYPE_" ++ "_".intercalate (taggedWords ["GTKGL", "AREA"]) ∧
    ¬ "GTK_TYPE_".toList <+: (tagMacro "GtkglArea").toList := by
  have htag : tagMacro "GtkglArea" = "GTK_TYPEGL_AREA" := by decide +kernel
  refine ⟨by decide +kernel, ⟨'G', by decide, rfl⟩, by decide +kernel, htag, ?_, ?_⟩
  · rw [htag]
    decide +kernel
  · rw [htag]
    decide

end DefsGlue.TypeName

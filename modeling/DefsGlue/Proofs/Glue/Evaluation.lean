import DefsGlue.Proofs.Glue.Parts

/-! Where a native call is made. The form of every result has one place for the call, whatever the
names of types and wrapper families are, and the call may be any text. -/
namespace DefsGlue

namespace ReturnForm

/-- What stands in a form for the native call. -/
def mark : String := "%s"

/-- Whether a form is made of two texts with a mark between them, before which there is none. -/
structure Frames (f : ReturnForm) (before after : String) : Prop where
  text : f.text = before ++ mark ++ after
  first : ¬ mark.toList <:+: before.toList

variable {f : ReturnForm} {before after : String}

theorem cut?_cons {c : Char} {cs : List Char} (h : ¬ mark.toList <+: c :: cs) :
    cut? (c :: cs) = (cut? cs).map fun parts => (c :: parts.1, parts.2) := by
  rw [cut?]
  rintro cs' rfl rfl
  exact h ⟨cs', rfl⟩

theorem cut?_append {front back : List Char} (h : ¬ mark.toList <:+: front) :
    cut? (front ++ (mark.toList ++ back)) = some (front, back) := by
  induction front with
  | nil => rfl
  | cons c front ih =>
    -- A mark that began at this character would lie in the front, or have its end at the first
    -- character of the next mark.
    have hhere : ¬ mark.toList <+: c :: (front ++ (mark.toList ++ back)) := by
      rintro ⟨rest, hrest⟩
      cases front with
      | nil => simp [mark] at hrest
      | cons d front =>
        obtain ⟨rfl, rfl, -⟩ : '%' = c ∧ 's' = d ∧ _ := by simpa [mark] using hrest
        exact h (List.prefix_append mark.toList front).isInfix
    have hrest : ¬ mark.toList <:+: front := fun hin => h (List.infix_cons hin)
    rw [List.cons_append, cut?_cons hhere, ih hrest]
    rfl

theorem Frames.around_eq (h : f.Frames before after) (call : String) :
    f.around call = before ++ call ++ after := by
  have htext : f.text.toList = before.toList ++ (mark.toList ++ after.toList) := by
    rw [h.text, String.toList_append, String.toList_append, List.append_assoc]
  simp only [around, htext, cut?_append h.first, String.ofList_toList]

theorem exists_frames (h : '%' ∉ before.toList)
    (hstart : before.toList ++ mark.toList <+: f.text.toList) : ∃ after, f.Frames before after := by
  obtain ⟨after, htext⟩ := hstart
  refine ⟨.ofList after, ?_, fun hin => h (hin.subset (by simp [mark]))⟩
  rw [← String.toList_inj, ← htext]
  simp

end ReturnForm

namespace Strategy

variable {s : Strategy} {type : String} {c : Conversion}

/-- Names that a strategy was made for come after the mark only. -/
theorem frames_of_convert (h : s.convert type = .ok c) :
    ∃ before after, c.form.Frames before after := by
  cases s with
  | none =>
    obtain rfl := Except.ok.inj h
    exact ⟨"\t", ReturnForm.exists_frames (by simp) (by simp [ReturnForm.mark])⟩
  | string =>
    obtain rfl := Except.ok.inj h
    unfold convertString
    split <;> exact ⟨"\tret = ", ReturnForm.exists_frames (by simp) (by simp [ReturnForm.mark])⟩
  | char =>
    obtain rfl := Except.ok.inj h
    exact ⟨"\tret[0] = ", ReturnForm.exists_frames (by simp) (by simp [ReturnForm.mark])⟩
  | int | enumeration =>
    obtain rfl := Except.ok.inj h
    exact ⟨"\tRETURN_LONG(", ReturnForm.exists_frames (by simp) (by simp [ReturnForm.mark])⟩
  | bool =>
    obtain rfl := Except.ok.inj h
    exact ⟨"\tRETURN_BOOL(", ReturnForm.exists_frames (by simp) (by simp [ReturnForm.mark])⟩
  | double =>
    obtain rfl := Except.ok.inj h
    exact ⟨"\tRETURN_DOUBLE(", ReturnForm.exists_frames (by simp) (by simp [ReturnForm.mark])⟩
  | object name =>
    obtain rfl := Except.ok.inj h
    exact ⟨"\tret = php_gtk_new((GtkObject *)",
      ReturnForm.exists_frames (by simp) (by simp [ReturnForm.mark])⟩
  | boxed family =>
    obtain rfl := Except.ok.inj h
    refine ⟨"\tret = ", ReturnForm.exists_frames (by simp) ?_⟩
    simp only [String.toList_append, List.append_assoc]
    exact List.IsPrefix.trans (by simp [ReturnForm.mark]) (List.prefix_append _ _)
  | stringRef | intRef | rectangle => cases h

end Strategy

namespace Registry

variable {r : Registry} {type? : Option String} {site site' : CallSite} {form : ReturnForm}

theorem frames_of_form (h : r.convert type? site = .ok (form, site')) :
    ∃ before after, form.Frames before after := by
  rw [convert_eq] at h
  obtain ⟨c, hc, h⟩ := exists_of_map_ok h
  obtain ⟨rfl, -⟩ := Prod.mk.inj h
  obtain ⟨s, -, hs⟩ := conversion_ok hc
  exact Strategy.frames_of_convert hs

/-- A result declares locals of its own, and passes nothing to the call. -/
theorem call_of_convert (h : r.convert type? site = .ok (form, site')) (cName : String) :
    site'.call cName = site.call cName := by
  rw [convert_eq] at h
  obtain ⟨c, -, h⟩ := exists_of_map_ok h
  obtain ⟨-, rfl⟩ := Prod.mk.inj h
  rw [CallSite.declareAll_eq]
  rfl

/-- The form of a result is two texts around a mark, and the first mark is where the call goes,
whatever it holds itself. So the statements that a fragment returns with hold the call that the
fragment tells of, and this is the same call before and after the result is converted. -/
theorem call_at_mark (r : Registry) :
    (∀ type? site form site', r.convert type? site = .ok (form, site') →
      ∃ before after, form.Frames before after ∧
        ∀ call, form.around call = before ++ call ++ after) ∧
    ∀ (e : Entrypoint) fragment, e.fragment r = .ok fragment →
      ∃ format bound form site before after,
        r.bindAll false (Fragment.opening e.owner?) e.callable.parameters = .ok (format, bound) ∧
        r.convert e.callable.returnType? bound = .ok (form, site) ∧ form.Frames before after ∧
        fragment.call = bound.call e.cName ∧ fragment.call = site.call e.cName ∧
        fragment.returnCode = before ++ fragment.call ++ after := by
  constructor
  · intro type? site form site' h
    obtain ⟨before, after, hframes⟩ := frames_of_form h
    exact ⟨before, after, hframes, hframes.around_eq⟩
  · intro e fragment h
    obtain ⟨parts, hparts, rfl⟩ := Entrypoint.fragment_ok h
    obtain ⟨bound, hbound, hconvert⟩ := Fragment.run_of_parts hparts e.owner?
    obtain ⟨before, after, hframes⟩ := frames_of_form hconvert
    exact ⟨_, bound, _, _, before, after, hbound, hconvert, hframes,
      call_of_convert hconvert e.cName, rfl, hframes.around_eq _⟩

/-- Marks in the name of a wrapper family and in a native name are no place for the call. -/
theorem call_at_mark_percent :
    let r : Registry := Registry.empty.addBoxed "Gdk" "%s"
    let e : Entrypoint := .function ⟨⟨"new", "g_%s_new", some "Gdk*", [], false⟩, none⟩
    (∃ (form : ReturnForm) (site : CallSite), r.convert (some "Gdk*") .empty = .ok (form, site) ∧
      form.text = "\tret = %s;\n\t*return_value = *php_%s_new(ret);" ∧
      ∃ before after, form.Frames before after ∧
        form.around "%s()" = before ++ "%s()" ++ after) ∧
    ∃ fragment before after, e.fragment r = .ok fragment ∧ fragment.call = "g_%s_new()" ∧
      fragment.returnCode = "\tret = g_%s_new();\n\t*return_value = *php_%s_new(ret);" ∧
      fragment.returnCode = before ++ fragment.call ++ after := by
  intro r e
  obtain ⟨hforms, hfragments⟩ := call_at_mark r
  have hconvert : r.convert (some "Gdk*") .empty =
      .ok (⟨"\tret = %s;\n\t*return_value = *php_%s_new(ret);"⟩,
        CallSite.empty.declare ⟨"Gdk", "*ret"⟩) := by decide +kernel
  have heval : (fun f => (f.call, f.returnCode)) <$> e.fragment r =
      .ok ("g_%s_new()", "\tret = g_%s_new();\n\t*return_value = *php_%s_new(ret);") := by
    decide +kernel
  constructor
  · obtain ⟨before, after, hframes, haround⟩ := hforms _ _ _ _ hconvert
    exact ⟨_, _, hconvert, rfl, before, after, hframes, haround _⟩
  · obtain ⟨fragment, h, heq⟩ := exists_of_map_ok heval
    obtain ⟨hcall, hreturn⟩ := Prod.mk.inj heq
    obtain ⟨-, -, -, -, before, after, -, -, -, -, -, hcode⟩ := hfragments e fragment h
    exact ⟨fragment, before, after, h, hcall, hreturn, hcode⟩

end Registry
end DefsGlue

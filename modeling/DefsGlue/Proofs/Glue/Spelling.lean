import DefsGlue.Proofs.Catalogue.Action
import DefsGlue.Proofs.Glue.Parts
import DefsGlue.Proofs.Record.RoundTrip
import DefsGlue.Proofs.Text.Identifier

/-! Default values keep their spelling. What a source gives for the default of a number stands in
the declaration of the native local character by character. -/
namespace DefsGlue

open Grammar (Leaf SymbolChar)

namespace Grammar

variable {c : Char} {s : Scalar} {cs rest : List Char} {name : String}

/-- A token is written as it is spelled. -/
theorem Leaf.eq_written (h : Leaf s cs rest) : cs = s.written.toList ++ rest := by
  cases h <;> simp [Scalar.written]

theorem isSymbol_of_isIdentifierChar (h : Text.isIdentifierChar c = true) :
    Token.isSymbol c = true := by
  have hranges : ((decide (65 ≤ c.val ∧ c.val ≤ 90) ||
      decide (97 ≤ c.val) && decide (c.val ≤ 122)) ||
      decide (48 ≤ c.val) && decide (c.val ≤ 57) || c == '_') = true := h
  have hn : 48 ≤ c.toNat ∧ c.toNat ≤ 57 ∨ 65 ≤ c.toNat ∧ c.toNat ≤ 90 ∨ c.toNat = 95 ∨
      97 ≤ c.toNat ∧ c.toNat ≤ 122 := by
    simp only [Bool.or_eq_true, Bool.and_eq_true, decide_eq_true_eq, beq_iff_eq,
      UInt32.le_iff_toNat_le] at hranges
    rcases hranges with ((hupper | hlower) | hdigit) | rfl
    · exact .inr (.inl hupper)
    · exact .inr (.inr (.inr hlower))
    · exact .inl hdigit
    · exact .inr (.inr (.inl rfl))
  have hblank : Text.isBlank c = false := by
    simp only [Text.isBlank, Bool.or_eq_false_iff, Bool.and_eq_false_iff, beq_eq_false_iff_ne,
      decide_eq_false_iff_not]
    omega
  refine (isSymbol_iff c).mpr ⟨hblank, ?_, ?_, ?_⟩ <;> rintro rfl <;> simp at hn

/-- A word of symbol characters that begins neither a number nor a quoted text is read back. -/
theorem readable_word (hne : name ≠ "") (hs : name.toList.all Token.isSymbol = true)
    (hq : name.toList.head? ≠ some '"') (hn : Token.startsNumber name.toList = false) :
    (Scalar.atom name).Readable := by
  have hsymbols : ∀ c ∈ name.toList, SymbolChar c := by
    intro c hc
    exact (isSymbol_iff c).mp (List.all_eq_true.mp hs c hc)
  refine ⟨by simpa using hne, hsymbols, hq, fun hstart => ?_⟩
  rw [(startsNumber_iff _).mpr hstart] at hn
  cases hn

theorem readable_identifier (h : Text.isIdentifier name = true) : (Scalar.atom name).Readable := by
  obtain ⟨c, cs, hcs, hc⟩ := Text.exists_cons_of_isIdentifier h
  have hdigit : c.isDigit = false := by
    simp only [Text.isIdentifier, hcs, Bool.and_eq_true, Bool.not_eq_true'] at h
    exact h.1
  have hmark : c ≠ '"' ∧ c ≠ '+' ∧ c ≠ '-' ∧ c ≠ '.' := by
    refine ⟨?_, ?_, ?_, ?_⟩ <;> rintro rfl <;> cases hc
  refine readable_word ?_ ?_ ?_ ?_
  · rintro rfl
    cases h
  · rw [List.all_eq_true]
    intro x hx
    exact isSymbol_of_isIdentifierChar (Text.isIdentifierChar_of_mem h hx)
  · simpa [hcs] using hmark.1
  · rw [hcs]
    cases cs <;> simp [Token.startsNumber, hdigit, hmark]

end Grammar

namespace Record

@[simp] theorem readable_leaf {s : Scalar} : (leaf s).Readable ↔ s.Readable :=
  ⟨fun h => by cases h; assumption, .leaf⟩

@[simp] theorem readable_list {items : List Record} :
    (list items).Readable ↔ ∀ r ∈ items, r.Readable :=
  ⟨fun h => by cases h; assumption, .list⟩

end Record

/-- The strategies of plain numbers, with the native types of their locals and their specifiers. -/
inductive NumberForm : Strategy → String → String → Prop
  | int : NumberForm .int "long" "i"
  | bool : NumberForm .bool "int" "b"
  | double : NumberForm .double "double" "d"

/-- A function with one parameter, whose default is a scalar of any kind. -/
def declaring (function type parameter : String) (default : Scalar) : Record :=
  .list [.leaf (.atom "function"), .leaf (.atom function),
    .list [.leaf (.atom "parameter"),
      .list [.leaf (.atom "type-and-name"), .leaf (.atom type), .leaf (.atom parameter)],
      .list [.leaf (.atom "default"), .leaf default]]]

/-- What the record builds. -/
def declared (function type parameter : String) (default : Scalar) : NativeFunction where
  name := function
  cName := function
  returnType? := none
  parameters := [⟨type, parameter, some default.spelling, false⟩]
  variadic := false
  constructs? := none

section Stages

variable {function type parameter ctype specifier : String} {default : Scalar} {s : Strategy}

theorem written_declaring (function type parameter : String) (default : Scalar) :
    (declaring function type parameter default).written =
      "(function " ++ function ++ " (parameter (type-and-name " ++ type ++ " " ++ parameter ++
        ") (default " ++ default.written ++ ")))" := by
  have hatom : ∀ name, (Scalar.atom name).written = name := fun _ => rfl
  apply String.toList_injective
  simp [declaring, Record.written, Record.writtenAll, hatom]

theorem readable_declaring (hf : (Scalar.atom function).Readable)
    (ht : (Scalar.atom type).Readable) (hp : (Scalar.atom parameter).Readable)
    (hd : default.Readable) : (declaring function type parameter default).Readable := by
  have hkeyword : ∀ word ∈ ["function", "parameter", "type-and-name", "default"],
      (Record.leaf (.atom word)).Readable := by
    intro word hword
    refine .leaf (Grammar.readable_word ?_ ?_ ?_ ?_) <;> revert word <;> decide
  simp only [List.forall_mem_cons, Record.readable_leaf] at hkeyword
  obtain ⟨hfunction, hparameter, htyped, hdefault, -⟩ := hkeyword
  simp [declaring, *]

theorem read_declaring (hf : Text.isIdentifier function = true)
    (ht : Text.isIdentifier type = true) (hp : Text.isIdentifier parameter = true)
    (hd : default.Readable) :
    Record.read (declaring function type parameter default).written =
      .ok [declaring function type parameter default] := by
  have hreadable := readable_declaring (Grammar.readable_identifier hf)
    (Grammar.readable_identifier ht) (Grammar.readable_identifier hp) hd
  apply Record.read_of_document
  have hspells := Grammar.spells_written hreadable [] (by simp [Grammar.Delimited])
  simpa [Grammar.Document] using hspells

theorem isIdentifier_of_number (htype : Registry.builtin.find? type = some s)
    (h : NumberForm s ctype specifier) : Text.isIdentifier type = true := by
  have hall : ∀ e ∈ Registry.builtin.entries, e.2 ∈ [Strategy.int, .bool, .double] →
      Text.isIdentifier e.1 = true := by decide +kernel
  obtain ⟨before, after, hentries, -⟩ := List.lookup_eq_some_iff.mp htype
  refine hall (type, s) (by simp [hentries]) ?_
  cases h <;> simp

theorem directive_declaring (function type parameter : String) (default : Scalar)
    (source : String) :
    Directive.ofRecord source (declaring function type parameter default) =
      .add (.function (declared function type parameter default)) := rfl

/-- A parameter of a number declares one local, with the default as it is spelled. -/
theorem binding_of_number {r : Registry} (htype : r.find? type = some s)
    (h : NumberForm s ctype specifier) (parameter text : String) :
    ∃ b, r.binding ⟨type, parameter, some text, false⟩ = .ok b ∧
      b.locals = [⟨ctype, parameter ++ " = " ++ text⟩] ∧ b.specifier = specifier := by
  simp only [Registry.binding, Registry.find_ok_iff.mpr htype]
  cases h <;> exact ⟨_, rfl, rfl, rfl⟩

theorem exists_parts_declared {r : Registry} (htype : r.find? type = some s)
    (hnone : r.find? "none" = some .none) (h : NumberForm s ctype specifier)
    (function parameter : String) (default : Scalar) :
    ∃ b form, r.parts (declared function type parameter default).toCallable =
        .ok ⟨[b], ⟨[], form⟩⟩ ∧
      b.locals = [⟨ctype, parameter ++ " = " ++ default.spelling⟩] ∧ b.specifier = specifier := by
  obtain ⟨b, hb, hlocals, hspecifier⟩ := binding_of_number htype h parameter default.spelling
  have hresult : ∃ form, r.conversion none = .ok ⟨[], form⟩ := by
    simp only [Registry.conversion, Option.getD_none, Registry.find_ok_iff.mpr hnone]
    exact ⟨_, rfl⟩
  obtain ⟨form, hform⟩ := hresult
  refine ⟨b, form, ?_, hlocals, hspecifier⟩
  simp only [Registry.parts, declared, List.mapM_cons, List.mapM_nil, hb, hform]
  rfl

theorem fragment_declared {r : Registry} (htype : r.find? type = some s)
    (hnone : r.find? "none" = some .none) (h : NumberForm s ctype specifier)
    (function parameter : String) (default : Scalar) :
    ∃ fragment, Fragment.ofFunction r (declared function type parameter default) = .ok fragment ∧
      fragment.declarations =
        "\t" ++ ctype ++ " " ++ parameter ++ " = " ++ default.spelling ++ ";\n\n" ∧
      fragment.format = "|" ++ specifier := by
  obtain ⟨b, form, hparts, hlocals, hspecifier⟩ :=
    exists_parts_declared htype hnone h function parameter default
  have hfragment := Entrypoint.fragment_eq r (.function (declared function type parameter default))
  simp only [Entrypoint.callable, hparts] at hfragment
  refine ⟨_, hfragment, ?_, ?_⟩
  · simp [Parts.fragment, Parts.site, hlocals, Declarations.addAll, Declarations.empty,
      Declarations.add, Declarations.insert, Declarations.render, Declarations.line,
      Declarations.isEmpty, String.append_assoc]
  · simp [Parts.fragment, Parts.marked, declared, hspecifier]

/-- A default of a number stands in the declaration as it is spelled in the source, whatever the
token is. The quotes of a text are left out, and nothing else is. -/
theorem default_keeps_spelling (t : FileTree) (source function type parameter : String)
    {ctype specifier spelled : String} {s : Strategy} {default : Scalar}
    (htype : Registry.builtin.find? type = some s) (hform : NumberForm s ctype specifier)
    (hfunction : Text.isIdentifier function = true)
    (hparameter : Text.isIdentifier parameter = true)
    (hdefault : Leaf default spelled.toList []) :
    let loaded := Catalogue.loadText t ("(function " ++ function ++ " (parameter (type-and-name " ++
      type ++ " " ++ parameter ++ ") (default " ++ spelled ++ ")))") source .empty
    loaded.failure? = none ∧
    ∃ f fragment, loaded.catalogue.functions = [f] ∧
      Fragment.ofFunction .builtin f = .ok fragment ∧
      fragment.declarations =
        "\t" ++ ctype ++ " " ++ parameter ++ " = " ++ default.spelling ++ ";\n\n" ∧
      fragment.format = "|" ++ specifier := by
  have hspelled : spelled = default.written := by
    apply String.toList_injective
    simpa using hdefault.eq_written
  have hread : Record.read ("(function " ++ function ++ " (parameter (type-and-name " ++ type ++
      " " ++ parameter ++ ") (default " ++ spelled ++ ")))") =
      .ok [declaring function type parameter default] := by
    rw [hspelled, ← written_declaring]
    exact read_declaring hfunction (isIdentifier_of_number htype hform) hparameter
      (Grammar.readable_of_leaf hdefault)
  obtain ⟨fragment, hfragment, hdeclarations, hformat⟩ :=
    fragment_declared htype (by decide +kernel) hform function parameter default
  intro loaded
  have hloaded : loaded.failure? = none ∧ loaded.catalogue =
      Catalogue.empty.add (.function (declared function type parameter default)) := by
    simp [loaded, Catalogue.loadText, hread, Catalogue.loadRecords, directive_declaring]
  obtain ⟨hfailure, hcatalogue⟩ := hloaded
  refine ⟨hfailure, _, fragment, ?_, hfragment, hdeclarations, hformat⟩
  rw [hcatalogue]
  rfl

end Stages

/-- A number that no binary64 holds, a run of digits and signs that is no decimal, and a quoted text
with blanks at its ends. -/
theorem default_keeps_spelling_inexact :
    let source := fun type parameter spelled : String => "(function " ++ "f" ++
      " (parameter (type-and-name " ++ type ++ " " ++ parameter ++ ") (default " ++ spelled ++ ")))"
    let declares := fun source declarations format : String =>
      let loaded := Catalogue.loadText ⟨[], []⟩ source "mask.defs" .empty
      loaded.failure? = none ∧ ∃ f fragment, loaded.catalogue.functions = [f] ∧
        Fragment.ofFunction .builtin f = .ok fragment ∧
        fragment.declarations = declarations ∧ fragment.format = format
    declares (source "gulong" "mask" "18446744073709551615")
      "\tlong mask = 18446744073709551615;\n\n" "|i" ∧
    declares (source "gboolean" "ret" "+1.2-3") "\tint ret = +1.2-3;\n\n" "|b" ∧
    declares (source "gfloat" "_x" "\" 1.50 \"") "\tdouble _x =  1.50 ;\n\n" "|d" := by
  intro source declares
  have htoken : ∀ s : Scalar, Record.read s.written = .ok [.leaf s] →
      Leaf s s.written.toList [] := by
    intro s h
    have hs := Grammar.readable_of_spells (Record.document_of_read h) _ List.mem_cons_self
    have hleaf : Leaf s (s.written.toList ++ []) [] :=
      Grammar.leaf_written (Record.readable_leaf.mp hs) (by simp [Grammar.Delimited])
    rwa [List.append_nil] at hleaf
  have hnumber := htoken
    (.number (.ofDecimal ⟨false, 18446744073709551615, 0⟩) "18446744073709551615")
    (by decide +kernel)
  have hatom := htoken (.atom "+1.2-3") (by decide +kernel)
  have hquoted := htoken (.quoted " 1.50 ") (by decide +kernel)
  have hint := default_keeps_spelling ⟨[], []⟩ "mask.defs" "f" "gulong" "mask" (by decide +kernel)
    .int (by decide) (by decide) hnumber
  have hbool := default_keeps_spelling ⟨[], []⟩ "mask.defs" "f" "gboolean" "ret" (by decide +kernel)
    .bool (by decide) (by decide) hatom
  have hdouble := default_keeps_spelling ⟨[], []⟩ "mask.defs" "f" "gfloat" "_x" (by decide +kernel)
    .double (by decide) (by decide) hquoted
  exact ⟨hint, hbool, hdouble⟩

end DefsGlue

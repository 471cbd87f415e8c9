import DefsGlue.Proofs.Numeric.Plain
import DefsGlue.Record.Basic
import DefsGlue.Text.Blank

/-! The grammar of definition files. Every judgment leads from a text to what is left of it, so that
a longest match is held against the characters that really follow. -/
namespace DefsGlue.Grammar

open Decimal (NumberStart Plain)
open Text (Longest)

def NumericChar (c : Char) : Prop := c.isDigit = true ∨ c = '+' ∨ c = '-' ∨ c = '.'

def SymbolChar (c : Char) : Prop := Text.isBlank c = false ∧ c ≠ '(' ∧ c ≠ ')' ∧ c ≠ ';'

/-- A mix of blanks and comments, which may be empty. A comment ends before a line feed, or where
the text ends. -/
inductive Gap : List Char → List Char → Prop
  | none {rest : List Char} : Gap rest rest
  | blank {c : Char} {cs rest : List Char} :
      Text.isBlank c = true → Gap cs rest → Gap (c :: cs) rest
  | comment {body cs rest : List Char} :
      Longest (· ≠ '\n') body cs → Gap cs rest → Gap (';' :: (body ++ cs)) rest

/-- A token that stands for a scalar. -/
inductive Leaf : Scalar → List Char → List Char → Prop
  | quoted {text rest : List Char} : '"' ∉ text →
      Leaf (.quoted (.ofList text)) ('"' :: (text ++ '"' :: rest)) rest
  | number {run rest : List Char} {d : Decimal} : NumberStart (run ++ rest) →
      Longest NumericChar run rest → Plain run d →
      Leaf (.number (.ofDecimal d) (.ofList run)) (run ++ rest) rest
  | misnumber {run rest : List Char} : NumberStart (run ++ rest) →
      Longest NumericChar run rest → (∀ d, ¬ Plain run d) →
      Leaf (.atom (.ofList run)) (run ++ rest) rest
  | symbol {run rest : List Char} : ¬ NumberStart (run ++ rest) →
      Longest SymbolChar run rest → run ≠ [] → run.head? ≠ some '"' →
      Leaf (.atom (.ofList run)) (run ++ rest) rest

/-- Records in a text, with gaps around and between them. -/
inductive Spells : List Record → List Char → List Char → Prop
  | nil {cs rest : List Char} : Gap cs rest → Spells [] cs rest
  | leaf {s : Scalar} {rs : List Record} {cs inner next rest : List Char} :
      Gap cs inner → Leaf s inner next → Spells rs next rest → Spells (.leaf s :: rs) cs rest
  | list {items rs : List Record} {cs inner next rest : List Char} :
      Gap cs ('(' :: inner) → Spells items inner (')' :: next) → Spells rs next rest →
      Spells (.list items :: rs) cs rest

/-- A whole source. -/
def Document (rs : List Record) (source : String) : Prop := Spells rs source.toList []

variable {s : Scalar} {rs items : List Record} {cs mid rest : List Char}

theorem Gap.trans (h : Gap cs mid) (h' : Gap mid rest) : Gap cs rest := by
  induction h with
  | none => exact h'
  | blank hc _ ih => exact .blank hc (ih h')
  | comment hl _ ih => exact .comment hl (ih h')

theorem Spells.leading (hg : Gap cs mid) (h : Spells rs mid rest) : Spells rs cs rest := by
  cases h with
  | nil hg' => exact .nil (hg.trans hg')
  | leaf hg' hs ht => exact .leaf (hg.trans hg') hs ht
  | list hg' hi ht => exact .list (hg.trans hg') hi ht

theorem Spells.append {rs' : List Record} (h : Spells rs cs mid) (h' : Spells rs' mid rest) :
    Spells (rs ++ rs') cs rest := by
  induction h with
  | nil hg => exact h'.leading hg
  | leaf hg hs _ ih => exact .leaf hg hs (ih h')
  | list hg hi _ _ ih => exact .list hg hi (ih h')

theorem Spells.trailing (h : Spells rs cs mid) (hg : Gap mid rest) : Spells rs cs rest := by
  have h' := h.append (.nil hg)
  rwa [List.append_nil] at h'

theorem Spells.single_leaf (h : Leaf s cs rest) : Spells [.leaf s] cs rest :=
  .leaf .none h (.nil .none)

theorem Spells.single_list (h : Spells items cs (')' :: rest)) :
    Spells [.list items] ('(' :: cs) rest :=
  .list .none h (.nil .none)

end DefsGlue.Grammar

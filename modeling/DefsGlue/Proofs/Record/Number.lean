import DefsGlue.Proofs.Numeric.Rounding
import DefsGlue.Proofs.Record.RoundTrip

/-! The numbers in what a source reads to. Each of them, at whatever depth, has the value that its
spelling rounds to. -/
namespace DefsGlue.Record

open Binary64 (RoundsTo)
open Decimal (Plain spelledNegative spelledSize)

/-- A scalar is the record itself or is somewhere among its items. -/
inductive Holds (s : Scalar) : Record → Prop
  | leaf : Holds s (.leaf s)
  | item {items : List Record} {r : Record} : r ∈ items → Holds s r → Holds s (.list items)

variable {s : Scalar} {r : Record} {rs : List Record} {source lexeme : String} {x : Binary64}

theorem Readable.of_holds (h : r.Readable) (hs : Holds s r) : s.Readable := by
  induction hs with
  | leaf =>
    cases h with
    | leaf h => exact h
  | item hr _ ih =>
    cases h with
    | list h => exact ih (h _ hr)

theorem roundsTo_of_readable (h : (Scalar.number x lexeme).Readable) :
    RoundsTo (spelledNegative lexeme.toList) (spelledSize lexeme.toList) x := by
  obtain ⟨d, hplain, rfl⟩ := h
  obtain ⟨hsize, hsign⟩ := Decimal.spelled_of_plain hplain
  rw [← hsize, ← hsign]
  exact Binary64.roundsTo_ofDecimal d

/-- A number that is read is spelled as a plain decimal, and its value is the one double that this
decimal rounds to; in particular it is a number. -/
theorem read_rounds (h : read source = .ok rs) (hr : r ∈ rs) (hn : Holds (.number x lexeme) r) :
    (∃ d, Plain lexeme.toList d) ∧
    (∀ y, RoundsTo (spelledNegative lexeme.toList) (spelledSize lexeme.toList) y ↔ y = x) ∧
    ¬ x.IsNaN := by
  have hreadable := (Grammar.readable_of_spells (document_of_read h) r hr).of_holds hn
  have hrounds := roundsTo_of_readable hreadable
  obtain ⟨d, hplain, -⟩ := hreadable
  refine ⟨⟨d, hplain⟩, fun y => ⟨fun hy => hy.unique hrounds, ?_⟩, hrounds.not_nan⟩
  rintro rfl
  exact hrounds

/-- A zero keeps its sign, and of the two doubles next to an odd integer of 54 bits the even one is
taken. -/
theorem read_rounds_zero_and_tie :
    let zero : Scalar := .number ⟨0x8000000000000000⟩ "-0"
    let tie : Scalar := .number ⟨0x4340000000000000⟩ "+9007199254740993"
    let inner : Record := .list [.leaf (.atom "of"), .leaf tie]
    let outer : Record := .list [.leaf (.atom "at"), .leaf zero, inner]
    read "(at -0 (of +9007199254740993))" = .ok [outer] ∧
    RoundsTo true 0 ⟨0x8000000000000000⟩ ∧
    RoundsTo false 9007199254740993 ⟨0x4340000000000000⟩ := by
  intro zero tie inner outer
  have hread : read "(at -0 (of +9007199254740993))" = .ok [outer] := by decide +kernel
  have hzero : Holds zero outer := .item (r := .leaf zero) (by simp) .leaf
  have htie : Holds tie outer :=
    .item (r := inner) (by simp) (.item (r := .leaf tie) (by simp) .leaf)
  have hzeroSize : spelledSize "-0".toList = 0 := by decide +kernel
  have htieSize : spelledSize "+9007199254740993".toList = 9007199254740993 := by decide +kernel
  refine ⟨hread, ?_, ?_⟩
  · rw [← hzeroSize]
    exact ((read_rounds hread (by simp) hzero).2.1 _).mpr rfl
  · rw [← htieSize]
    exact ((read_rounds hread (by simp) htie).2.1 _).mpr rfl

end DefsGlue.Record

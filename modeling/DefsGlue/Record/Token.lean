import DefsGlue.Record.Basic
import DefsGlue.Text.Blank

/-!
Tokens of a definition file. A source is cut into runs from the left; each run is as long as it can
be and stands for one token or, if it is blank or a comment, for none.
-/

namespace DefsGlue

inductive Token where
  | opening
  | closing
  | scalar (value : Scalar)
  /-- A quote that the rest of the source does not close. -/
  | openQuote
deriving DecidableEq, Repr

/-- The first run of a source, its token if it has one, and what follows it. -/
structure Cut where
  token? : Option Token
  run : List Char
  rest : List Char
deriving DecidableEq, Repr

namespace Token

def isNumeric (c : Char) : Bool :=
  c.isDigit || c == '+' || c == '-' || c == '.'

/-- A sign or a point begins a number only before a digit. -/
def startsNumber : List Char → Bool
  | [] => false
  | [c] => c.isDigit
  | c :: d :: _ => c.isDigit || ((c == '+' || c == '-' || c == '.') && d.isDigit)

def isSymbol (c : Char) : Bool :=
  !Text.isBlank c && c != '(' && c != ')' && c != ';'

/-- A numeric run that is not a decimal is an atom. -/
def numeric (run : List Char) : Scalar :=
  match Decimal.ofChars? run with
  | some d => .number (.ofDecimal d) (.ofList run)
  | none => .atom (.ofList run)

/-- The first run of the source `c :: cs`. -/
def cut (c : Char) (cs : List Char) : Cut :=
  if Text.isBlank c then ⟨none, [c], cs⟩
  else if c = '(' then ⟨some .opening, [c], cs⟩
  else if c = ')' then ⟨some .closing, [c], cs⟩
  else if c = '"' then
    let text := cs.takeWhile (· != '"')
    match cs.dropWhile (· != '"') with
    | [] => ⟨some .openQuote, c :: text, []⟩
    | quote :: rest => ⟨some (.scalar (.quoted (.ofList text))), c :: (text ++ [quote]), rest⟩
  else if c = ';' then ⟨none, c :: cs.takeWhile (· != '\n'), cs.dropWhile (· != '\n')⟩
  else if startsNumber (c :: cs) then
    let run := c :: cs.takeWhile isNumeric
    ⟨some (.scalar (numeric run)), run, cs.dropWhile isNumeric⟩
  else
    let run := c :: cs.takeWhile isSymbol
    ⟨some (.scalar (.atom (.ofList run))), run, cs.dropWhile isSymbol⟩

theorem cut_run_append_rest (c : Char) (cs : List Char) :
    (cut c cs).run ++ (cut c cs).rest = c :: cs := by
  have h := List.takeWhile_append_dropWhile (p := (· != '"')) (l := cs)
  simp only [cut]
  repeat' split
  all_goals simp_all

theorem cut_rest_length_le (c : Char) (cs : List Char) : (cut c cs).rest.length ≤ cs.length := by
  have h := congrArg List.length (cut_run_append_rest c cs)
  have : (cut c cs).run ≠ [] := by
    simp only [cut]
    repeat' split
    all_goals simp
  have := List.length_pos_iff.mpr this
  simp at h
  omega

end Token
end DefsGlue

import DefsGlue.Record.Position
import DefsGlue.Record.Token

/-!
Reading a definition file into its records. The reader keeps the lists that are still open and
takes the tokens one at a time; the first token that does not fit ends the reading.
-/

namespace DefsGlue

inductive ReadFault where
  | unmatchedClose (place : Position)
  /-- The position is that of the innermost list still open. -/
  | unclosedList (depth : Nat) (place : Position)
  | unterminatedText (place : Position)
deriving DecidableEq, Repr

def ReadFault.message : ReadFault → String
  | unmatchedClose p => p.text ++ ": unmatched ')'"
  | unclosedList depth p =>
    p.text ++ ": unmatched parentheses, " ++ toString depth ++
      " list(s) still open at end of input"
  | unterminatedText p => p.text ++ ": unterminated string literal"

/-- A list that is not closed yet, with its items so far, last item first. -/
structure OpenList where
  start : Position
  items : List Record
deriving DecidableEq, Repr

/-- The records read so far, last record first, and the open lists, innermost first. -/
structure Nesting where
  done : List Record
  pending : List OpenList
deriving DecidableEq, Repr

namespace Nesting

def empty : Nesting := ⟨[], []⟩

/-- Adds a finished record to the innermost open list. -/
def add (n : Nesting) (r : Record) : Nesting :=
  match n.pending with
  | [] => { n with done := r :: n.done }
  | inner :: outer => { n with pending := { inner with items := r :: inner.items } :: outer }

/-- The effect of a token that stands at `p`. -/
def accept (n : Nesting) (p : Position) : Token → Except ReadFault Nesting
  | .opening => .ok { n with pending := ⟨p, []⟩ :: n.pending }
  | .closing =>
    match n.pending with
    | [] => .error (.unmatchedClose p)
    | inner :: outer => .ok ({ n with pending := outer }.add (.list inner.items.reverse))
  | .scalar s => .ok (n.add (.leaf s))
  | .openQuote => .error (.unterminatedText p)

/-- The effect of a run, which may hold no token. -/
def acceptRun (n : Nesting) (p : Position) : Option Token → Except ReadFault Nesting
  | none => .ok n
  | some t => n.accept p t

/-- The records of a source that ends here. -/
def finish (n : Nesting) : Except ReadFault (List Record) :=
  match n.pending with
  | [] => .ok n.done.reverse
  | inner :: _ => .error (.unclosedList n.pending.length inner.start)

/-- Takes the tokens of a text that starts at `p`. -/
def consume (n : Nesting) (p : Position) : List Char → Except ReadFault Nesting
  | [] => .ok n
  | c :: cs =>
    match n.acceptRun p (Token.cut c cs).token? with
    | .error e => .error e
    | .ok m => m.consume (p.past (Token.cut c cs).run) (Token.cut c cs).rest
termination_by cs => cs.length
decreasing_by exact Nat.lt_succ_of_le (Token.cut_rest_length_le c cs)

end Nesting

/-- The top-level records of a source. -/
def Record.read (source : String) : Except ReadFault (List Record) := do
  let n ← Nesting.empty.consume .start source.toList
  n.finish

end DefsGlue

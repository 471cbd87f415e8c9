/-! Places in a source text, counted in lines and columns from one. -/

namespace DefsGlue

structure Position where
  line : Nat
  column : Nat
deriving DecidableEq, Repr

namespace Position

def start : Position := ⟨1, 1⟩

/-- The place after one character; only a line feed begins a new line. -/
def next (p : Position) (c : Char) : Position :=
  if c = '\n' then ⟨p.line + 1, 1⟩ else ⟨p.line, p.column + 1⟩

/-- The place after a stretch of text. -/
def past (p : Position) (cs : List Char) : Position :=
  cs.foldl next p

def text (p : Position) : String :=
  toString p.line ++ ":" ++ toString p.column

end Position
end DefsGlue

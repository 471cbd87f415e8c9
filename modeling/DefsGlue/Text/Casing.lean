import DefsGlue.Text.CaseTable

/-!
Upper and lower case of whole texts. Upper case goes character by character; lower case looks at
the neighbours of a capital sigma, which is written differently at the end of a word.
-/

namespace DefsGlue.Text

/-- The character that the first run to cover a character maps it to. -/
def shifted (runs : List CaseRun) (c : Char) : Char :=
  match runs.find? (·.covers c.toNat) with
  | some run => Char.ofNat (c.toNat + run.shift).toNat
  | none => c

def inRanges (ranges : List (Nat × Nat)) (c : Char) : Bool :=
  ranges.any fun r => r.1 ≤ c.toNat && c.toNat ≤ r.2

/-- Upper case of one character. -/
def upper (c : Char) : List Char :=
  if c.toNat < 0x80 then [c.toUpper]
  else match upperExpansions.lookup c.toNat with
    | some codes => codes.map Char.ofNat
    | none => [shifted upperRuns c]

/-- Lower case of one character that stands alone. -/
def lower (c : Char) : List Char :=
  if c.toNat < 0x80 then [c.toLower]
  else match lowerExpansions.lookup c.toNat with
    | some codes => codes.map Char.ofNat
    | none => [shifted lowerRuns c]

/-- Whether the nearest character that counts is a letter with case. -/
def meetsCased (cs : List Char) : Bool :=
  ((cs.dropWhile (inRanges ignorableRanges)).head?.map (inRanges casedRanges)).getD false

/-- Lower case of `cs`, where `before` holds what precedes it, nearest character first. -/
def lowerAfter (before : List Char) : List Char → List Char
  | [] => []
  | c :: cs =>
    let here :=
      if c = 'Σ' then [if meetsCased before && !meetsCased cs then 'ς' else 'σ'] else lower c
    here ++ lowerAfter (c :: before) cs

def uppercase (s : String) : String :=
  String.ofList (s.toList.flatMap upper)

def lowercase (s : String) : String :=
  String.ofList (lowerAfter [] s.toList)

end DefsGlue.Text

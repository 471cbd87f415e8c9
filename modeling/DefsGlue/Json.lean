/-!
JSON values and their layout over several lines: two blanks for each level, a colon and a blank
after a key, and nothing between the brackets of an empty list.
-/

namespace DefsGlue

inductive Json where
  | text (s : String)
  | bool (b : Bool)
  | list (items : List Json)
  | object (fields : List (String × Json))

namespace Json

def hexDigit (n : Nat) : Char :=
  (Nat.toDigits 16 n).headD '0'

/-- A character inside quotes. Only quotes, backslashes and control characters are escaped. -/
def escape (c : Char) : List Char :=
  match c with
  | '"' => ['\\', '"']
  | '\\' => ['\\', '\\']
  | '\x08' => ['\\', 'b']
  | '\t' => ['\\', 't']
  | '\n' => ['\\', 'n']
  | '\x0c' => ['\\', 'f']
  | '\r' => ['\\', 'r']
  | c =>
    if c.toNat < 0x20 then
      ['\\', 'u', '0', '0', hexDigit (c.toNat / 16), hexDigit (c.toNat % 16)]
    else [c]

def quote (s : String) : String :=
  "\"" ++ String.ofList (s.toList.flatMap escape) ++ "\""

/-- A new line at a level of nesting. -/
def newline (level : Nat) : String :=
  "\n" ++ String.ofList (List.replicate (2 * level) ' ')

/-- Items in brackets, each on a line of its own. -/
def enclose (level : Nat) (left right : String) (items : List String) : String :=
  if items.isEmpty then left ++ right
  else
    left ++ ",".intercalate (items.map (newline (level + 1) ++ ·)) ++ newline level ++ right

mutual

def write (level : Nat) : Json → String
  | text s => quote s
  | bool b => if b then "true" else "false"
  | list items => enclose level "[" "]" (writeItems (level + 1) items)
  | object fields => enclose level "\x7b" "\x7d" (writeFields (level + 1) fields)

def writeItems (level : Nat) : List Json → List String
  | [] => []
  | j :: js => write level j :: writeItems level js

def writeFields (level : Nat) : List (String × Json) → List String
  | [] => []
  | (key, j) :: rest => (quote key ++ ": " ++ write level j) :: writeFields level rest

end

def render (j : Json) : String :=
  write 0 j

end Json
end DefsGlue

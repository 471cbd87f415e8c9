/-! Statements that hand a native return value on, with a mark where the native call goes. -/

namespace DefsGlue

structure ReturnForm where
  text : String
deriving DecidableEq, Repr

namespace ReturnForm

/-- What stands before and after the first mark of a text. -/
def cut? : List Char → Option (List Char × List Char)
  | [] => none
  | '%' :: 's' :: cs => some ([], cs)
  | c :: cs => (cut? cs).map fun parts => (c :: parts.1, parts.2)

/-- The statements with the call at the first mark. Marks inside the call stay as they are. -/
def around (f : ReturnForm) (call : String) : String :=
  match cut? f.text.toList with
  | some (before, after) => String.ofList before ++ call ++ String.ofList after
  | none => f.text

end ReturnForm
end DefsGlue

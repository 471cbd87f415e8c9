import DefsGlue.Definition.Keyword
import DefsGlue.Failure

/-! What a top-level record asks for, decided by the keyword it begins with. -/

namespace DefsGlue

inductive Directive where
  | skip
  | add (d : Definition)
  | follow (path : String)
  | reject (f : Failure)
deriving DecidableEq

namespace Directive

/-- A definition that can be built is added; one that cannot be built ends the load. -/
def define (source : String) (kind : DefinitionKind) (args : List Record) : Directive :=
  match Definition.build kind args with
  | .ok d => add d
  | .error e => reject (.definition source kind e)

/-- An include names a file by its path from the directory of the including file. -/
def includeFile (source : String) (args : List Record) : Directive :=
  match args.head?.bind Record.spelling? with
  | some name => follow (Path.resolve (Path.parent source) name)
  | none => reject (.missingInclude source)

def ofKeyword (source : String) (args : List Record) : Keyword → Directive
  | .definition kind => define source kind args
  | .inclusion => includeFile source args
  | .unknown => skip

/-- The directive of a record in the file that `source` spells. A record that is no list, or whose
head is no name, asks for nothing. -/
def ofRecord (source : String) : Record → Directive
  | .list (head :: args) =>
    match head.name? with
    | some name => ofKeyword source args (.ofHead name)
    | none => skip
  | _ => skip

end Directive
end DefsGlue

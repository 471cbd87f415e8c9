import DefsGlue.Definition.Build
import DefsGlue.File.Tree
import DefsGlue.Passing.Fault
import DefsGlue.Record.Reading

/-! What ends a run, and what is only worth a warning. -/

namespace DefsGlue

inductive Failure where
  /-- A path that cannot be read or written. -/
  | access (path : String) (fault : FileFault)
  | records (source : String) (error : ReadFault)
  | definition (source : String) (kind : DefinitionKind) (error : BuildFault)
  | missingInclude (source : String)
  | includeCycle (path : String)
  | unknownObject (name : String)
  | generate (cName : String) (error : PassingFault)
deriving DecidableEq, Repr

def Failure.message : Failure → String
  | access path fault => "failed to read " ++ path ++ ": " ++ fault.message
  | records source error => "parse error in " ++ source ++ ":" ++ error.message
  | definition source kind error =>
    source ++ ": invalid " ++ kind.label ++ " definition: " ++ error.message
  | missingInclude source => source ++ ": include record does not name a file"
  | includeCycle path => "include cycle: " ++ path ++ " is already being parsed"
  | unknownObject name => "no object named '" ++ name ++ "'"
  | generate cName error => "while generating " ++ cName ++ ": " ++ error.message

inductive Warning where
  | repeatedName (cName : String)
  | variadicFunction (cName : String)
  | variadicMethod (cName : String)
deriving DecidableEq, Repr

def Warning.message : Warning → String
  | repeatedName cName => "c-name defined more than once c_name=" ++ cName
  | variadicFunction cName => "skipping varargs function c_name=" ++ cName
  | variadicMethod cName => "skipping varargs method c_name=" ++ cName

end DefsGlue

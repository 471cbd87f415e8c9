import DefsGlue.Glue.Bundle
import DefsGlue.Json

/-! The written form of a bundle. What is absent or, of the names left out, empty has no key. -/

namespace DefsGlue

def Json.texts (ss : List String) : Json :=
  .list (ss.map .text)

def Fragment.toJson (f : Fragment) : Json :=
  .object (
    [("c_name", .text f.cName), ("kind", .text f.role.label)] ++
    (match f.ofObject? with
      | some type => [("of_object", .text type)]
      | none => []) ++
    [("declarations", .text f.declarations), ("format", .text f.format),
      ("parse_targets", .texts f.parseTargets), ("by_ref", .list (f.byRef.map .bool)),
      ("extra_code", .text f.extraCode), ("call", .text f.call),
      ("return_code", .text f.returnCode)])

def Bundle.toJson (b : Bundle) : Json :=
  .object (
    [("sources", .texts b.sources), ("callables", .list (b.callables.map Fragment.toJson))] ++
    if b.skipped.isEmpty then [] else [("skipped", .texts b.skipped)])

/-- The bundle as a document that ends its last line. -/
def Bundle.render (b : Bundle) : String :=
  b.toJson.render ++ "\n"

end DefsGlue

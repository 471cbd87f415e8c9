import DefsGlue.Main
import DefsGlue.Proofs.Record.RoundTrip
import DefsGlue.Proofs.Catalogue.Expansion
import DefsGlue.Proofs.Catalogue.Cycle
import DefsGlue.Proofs.Catalogue.Index
import DefsGlue.Proofs.Glue.Parts
import DefsGlue.Proofs.Passing.Shape
import DefsGlue.Proofs.Text.Identifier
import DefsGlue.Proofs.Glue.Alignment
import DefsGlue.Proofs.Passing.Defaults
import DefsGlue.Proofs.Glue.Locals
import DefsGlue.Proofs.Glue.Restriction
import DefsGlue.Proofs.Program.Delivery
import DefsGlue.Proofs.Catalogue.Consistency
import DefsGlue.Proofs.Record.Continuation
import DefsGlue.Proofs.Record.Faults
import DefsGlue.Proofs.Catalogue.Determinacy
import DefsGlue.Proofs.Catalogue.DirectText
import DefsGlue.Proofs.Catalogue.Arrangement
import DefsGlue.Proofs.Glue.Overview
import DefsGlue.Proofs.Record.Resumption
import DefsGlue.Proofs.Glue.Layout
import DefsGlue.Proofs.Glue.Precedence
import DefsGlue.Proofs.Glue.Refusal
import DefsGlue.Proofs.Glue.Evaluation
import DefsGlue.Proofs.Glue.Optional
import DefsGlue.Proofs.Passing.Writing
import DefsGlue.Proofs.Catalogue.Unknown
import DefsGlue.Proofs.Catalogue.Lookup
import DefsGlue.Proofs.Definition.Order
import DefsGlue.Proofs.Glue.Spelling
import DefsGlue.Proofs.Text.Casing
import DefsGlue.Proofs.TypeName.Words
import DefsGlue.Proofs.Definition.NativeName
import DefsGlue.Proofs.Passing.FirstSeen
import DefsGlue.Proofs.TypeName.Resplitting
import DefsGlue.Proofs.TypeName.Tag
import DefsGlue.Proofs.TypeName.Decomposition
import DefsGlue.Proofs.Catalogue.Dispatch
import DefsGlue.Proofs.Options
import DefsGlue.Proofs.Record.Number
import DefsGlue.Proofs.Glue.Provided

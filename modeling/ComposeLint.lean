import ComposeLint.Admission
import ComposeLint.Catalog.Basic
import ComposeLint.Catalog.Definition
import ComposeLint.Catalog.TypeKey
import ComposeLint.CommandLine.Options
import ComposeLint.CommandLine.Run
import ComposeLint.Composition.Basic
import ComposeLint.Composition.Linter
import ComposeLint.Composition.Mode
import ComposeLint.Composition.References
import ComposeLint.Composition.Render
import ComposeLint.Composition.Rules
import ComposeLint.Composition.Splice
import ComposeLint.Finding
import ComposeLint.Json.Basic
import ComposeLint.Json.Codec
import ComposeLint.Json.Documents
import ComposeLint.Json.Form
import ComposeLint.Json.Printer
import ComposeLint.Json.Reader
import ComposeLint.Json.Type
import ComposeLint.Keyed
import ComposeLint.Main
import ComposeLint.Number.Double
import ComposeLint.Number.Shortest
import ComposeLint.Patch.Action
import ComposeLint.Patch.Basic
import ComposeLint.Patch.Check
import ComposeLint.Path.Basic
import ComposeLint.Path.Parser
import ComposeLint.Path.Printer
import ComposeLint.Proofs.ApiFormat
import ComposeLint.Proofs.CatalogEntries
import ComposeLint.Proofs.CatalogUnion
import ComposeLint.Proofs.ChainFlow
import ComposeLint.Proofs.ChainParts
import ComposeLint.Proofs.CommonTypes
import ComposeLint.Proofs.Conformance
import ComposeLint.Proofs.ConversionFaults
import ComposeLint.Proofs.ConvertedSchemas
import ComposeLint.Proofs.FaultPlaces
import ComposeLint.Proofs.FindingSites
import ComposeLint.Proofs.JoinedPaths
import ComposeLint.Proofs.LintPhases
import ComposeLint.Proofs.MandatoryFields
import ComposeLint.Proofs.MessageTexts
import ComposeLint.Proofs.MoreSchemas
import ComposeLint.Proofs.NarrowerSource
import ComposeLint.Proofs.Outcomes
import ComposeLint.Proofs.OutputLines
import ComposeLint.Proofs.PatchFindings
import ComposeLint.Proofs.PatchPositions
import ComposeLint.Proofs.PatchSoundness
import ComposeLint.Proofs.PatchVerdict
import ComposeLint.Proofs.PathFaults
import ComposeLint.Proofs.PathGrammar
import ComposeLint.Proofs.PathReader
import ComposeLint.Proofs.PathRoundTrip
import ComposeLint.Proofs.Placeholders
import ComposeLint.Proofs.PlainText
import ComposeLint.Proofs.Positions
import ComposeLint.Proofs.ReadDeclarations
import ComposeLint.Proofs.RecordFormat
import ComposeLint.Proofs.ReferencedTypes
import ComposeLint.Proofs.RuleFindings
import ComposeLint.Proofs.RuleVerdict
import ComposeLint.Proofs.SchemaParts
import ComposeLint.Proofs.SchemaWalk
import ComposeLint.Proofs.ShapeFaults
import ComposeLint.Proofs.Splicing
import ComposeLint.Proofs.StrictAndLoose
import ComposeLint.Proofs.StrictVerdict
import ComposeLint.Proofs.TemplateIsolation
import ComposeLint.Proofs.TemplateVerdict
import ComposeLint.Proofs.UndeclaredFields
import ComposeLint.Proofs.UnknownSource
import ComposeLint.Proofs.UnresolvedPaths
import ComposeLint.Regex.Basic
import ComposeLint.Regex.Check
import ComposeLint.Regex.Parser
import ComposeLint.Regex.Property
import ComposeLint.Schema.Basic
import ComposeLint.Schema.Declaration
import ComposeLint.Schema.Declaration.Reader
import ComposeLint.Schema.Resolve
import ComposeLint.Schema.Shape
import ComposeLint.Schema.Stub
import ComposeLint.Template.Basic
import ComposeLint.Template.Check
import ComposeLint.Text.Letters
import ComposeLint.Text.Quoted
import ComposeLint.Text.Unprintable
import ComposeLint.Transform.Basic
import ComposeLint.Transform.Chain
import ComposeLint.Transform.Operation

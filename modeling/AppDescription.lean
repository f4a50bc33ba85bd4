import AppDescription.Cursor
import AppDescription.Main
import AppDescription.Proofs.Loop
import AppDescription.Proofs.Seam
import AppDescription.Proofs.SketchRoundTrip
import AppDescription.Proofs.TopScan
import AppDescription.Proofs.Pairing
import AppDescription.Proofs.Indentation
import AppDescription.Proofs.Condensation
import AppDescription.Proofs.Standing
import AppDescription.Proofs.FaultLine
import AppDescription.Proofs.Foresight
import AppDescription.Proofs.Location
import AppDescription.Proofs.SkippedBody
import AppDescription.Proofs.Opacity
import AppDescription.Proofs.DistinctPaths
import AppDescription.Proofs.ImportClosure
import AppDescription.Proofs.Spelling
import AppDescription.Proofs.Subdirectories
import AppDescription.Proofs.InterruptedBuild
import AppDescription.Proofs.LiteralRoundTrip
import AppDescription.Proofs.ComputedForms
import AppDescription.Proofs.ElementNodes
import AppDescription.Proofs.HeaderLines
import AppDescription.Proofs.OutlineElements
import AppDescription.Proofs.ElementLines
import AppDescription.Proofs.ElseBinding
import AppDescription.Proofs.OpeningTags
import AppDescription.Proofs.PageEntries
import AppDescription.Proofs.NamedElements
import AppDescription.Proofs.ForeignCharacters
import AppDescription.Proofs.TagDelimiters
import AppDescription.Proofs.StoreNames
import AppDescription.Proofs.VacantHeaders
import AppDescription.Proofs.OperatorChains
import AppDescription.Proofs.StringLiterals
import AppDescription.Proofs.PhraseDifference
import AppDescription.Proofs.FieldDefinitions
import AppDescription.Proofs.RelationshipLines
import AppDescription.Proofs.CheckedReading
import AppDescription.Proofs.DisplayProperties
import AppDescription.Proofs.TagParts
import AppDescription.Proofs.StaticText
import AppDescription.Proofs.Children
import AppDescription.Proofs.NestedLines
import AppDescription.Proofs.SourceSearch
import AppDescription.Proofs.LintReport
import AppDescription.Proofs.Traversals
import AppDescription.Proofs.ElementRendering
import AppDescription.Proofs.Registries
import AppDescription.Proofs.ReentrantScan
import AppDescription.Proofs.LineGrammar

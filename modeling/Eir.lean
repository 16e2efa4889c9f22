import Eir.BundleDocument
import Eir.CommandLine
import Eir.Compiler.Basic
import Eir.Compiler.Program
import Eir.Compiler.Rules
import Eir.Compiler.Scope
import Eir.Compiler.Sink
import Eir.Configuration
import Eir.Consolidation
import Eir.Constraint
import Eir.Content
import Eir.Date
import Eir.Dialect
import Eir.Digest.Blake3
import Eir.Digest.NameId
import Eir.Digest.Sha1
import Eir.Digest.Words
import Eir.Facet
import Eir.FacetGroup
import Eir.Fault
import Eir.Files.Path
import Eir.Files.Tree
import Eir.Ids.Document
import Eir.Ids.Summary
import Eir.Inputs
import Eir.Json.Basic
import Eir.Json.Codec
import Eir.Json.Printer
import Eir.Layout
import Eir.Main
import Eir.Naming.Codes
import Eir.Naming.Decision
import Eir.Naming.Resolver
import Eir.Naming.SubKindNames
import Eir.Naming.Tables
import Eir.Naming.TypeName
import Eir.Pattern.Basic
import Eir.Pattern.Bracket
import Eir.Pattern.ByteSequence
import Eir.Pattern.Escape
import Eir.Pattern.Flags
import Eir.Pattern.Folding
import Eir.Pattern.Footprint
import Eir.Pattern.Form
import Eir.Pattern.FullMatch
import Eir.Pattern.Matching
import Eir.Pattern.Meter
import Eir.Pattern.Parser
import Eir.Pattern.Property
import Eir.Pattern.Property.Age
import Eir.Pattern.Property.Binary
import Eir.Pattern.Property.Break
import Eir.Pattern.Property.Category
import Eir.Pattern.Property.Derived
import Eir.Pattern.Property.Script
import Eir.Pattern.Property.Value
import Eir.Pattern.Ranges
import Eir.Proofs.Compiler.Acceptable
import Eir.Proofs.Compiler.Calls
import Eir.Proofs.Compiler.Creations
import Eir.Proofs.Compiler.Deferral
import Eir.Proofs.Compiler.Delivery
import Eir.Proofs.Compiler.Dialects
import Eir.Proofs.Compiler.Documents
import Eir.Proofs.Compiler.Enclosing
import Eir.Proofs.Compiler.Filing
import Eir.Proofs.Compiler.Groups
import Eir.Proofs.Compiler.Identifiers
import Eir.Proofs.Compiler.Numbering
import Eir.Proofs.Compiler.Offers
import Eir.Proofs.Compiler.OneGroup
import Eir.Proofs.Compiler.Ordering
import Eir.Proofs.Compiler.Partition
import Eir.Proofs.Compiler.Recording
import Eir.Proofs.Compiler.Refusals
import Eir.Proofs.Compiler.Runs
import Eir.Proofs.Compiler.Settling
import Eir.Proofs.Compiler.Sound
import Eir.Proofs.Compiler.Steps
import Eir.Proofs.Compiler.Usage
import Eir.Proofs.Consolidation.Account
import Eir.Proofs.Consolidation.Applicability
import Eir.Proofs.Consolidation.Description
import Eir.Proofs.Consolidation.Merge
import Eir.Proofs.Consolidation.Order
import Eir.Proofs.FacetGroup.Rendering
import Eir.Proofs.Files.Contents
import Eir.Proofs.Files.DocumentNames
import Eir.Proofs.Files.Place
import Eir.Proofs.Files.SafeNames
import Eir.Proofs.Ids.Acceptance
import Eir.Proofs.Ids.ReadBack
import Eir.Proofs.Ids.Requirements
import Eir.Proofs.Json.Canonical
import Eir.Proofs.Json.CompactText
import Eir.Proofs.Json.Documents
import Eir.Proofs.Json.Fingerprint
import Eir.Proofs.Lists
import Eir.Proofs.Naming.Allocation
import Eir.Proofs.Naming.Invalid
import Eir.Proofs.Naming.Matching
import Eir.Proofs.Naming.Patterns
import Eir.Proofs.Naming.SpaceLetters
import Eir.Proofs.Naming.TypeNames
import Eir.Proofs.Pattern.Language
import Eir.Proofs.Pattern.Leads
import Eir.Proofs.Pattern.Reading
import Eir.Proofs.Pattern.Refusal
import Eir.Proofs.Pattern.Written
import Eir.Proofs.Rulebook.NameRules
import Eir.Proofs.Rulebook.Passes
import Eir.Proofs.Rulebook.PlaceRules
import Eir.Proofs.Rulebook.Selective
import Eir.Proofs.Rulebook.StageRules
import Eir.Proofs.Run.Publishing
import Eir.Proofs.Run.SelfCheck
import Eir.Proofs.Sample.ComponentNames
import Eir.Proofs.Sample.Instantiable
import Eir.Proofs.Sample.Mutations
import Eir.Proofs.Sample.Overrides
import Eir.Proofs.Sample.Presence
import Eir.Proofs.Sample.RoomSheets
import Eir.Proofs.Sample.Scripts
import Eir.Proofs.Sample.SpatialNames
import Eir.Proofs.Sample.Synthesis
import Eir.Proofs.Sample.Tags
import Eir.Proofs.Sample.TypeObjects
import Eir.Proofs.Sample.UndefinedKinds
import Eir.Proofs.Sample.Values
import Eir.Proofs.Schema.Descent
import Eir.Proofs.Schema.Inference
import Eir.Proofs.Schema.Loading
import Eir.Proofs.Schema.StandIns
import Eir.Proofs.Schema.Subtypes
import Eir.Proofs.Text.Affix
import Eir.Proofs.Text.Casing
import Eir.Proofs.Text.Delimited
import Eir.Proofs.Text.Numbers
import Eir.Proofs.Xml.Injective
import Eir.Requirement
import Eir.RuleIndex
import Eir.Rulebook.Basic
import Eir.Rulebook.Occurrences
import Eir.Rulebook.Patterns
import Eir.Rulebook.Sections
import Eir.Rulebook.Spaces
import Eir.Rulebook.Types
import Eir.Run.Basic
import Eir.Run.Publishing
import Eir.Run.Report
import Eir.Sample.Baseline
import Eir.Sample.Basic
import Eir.Sample.Breakage
import Eir.Sample.Corruption
import Eir.Sample.MetadataModel
import Eir.Sample.Model
import Eir.Sample.Places
import Eir.Sample.ProductData
import Eir.Sample.SpatialModel
import Eir.Sample.Synthesis
import Eir.Sample.Values
import Eir.Schema.Catalog
import Eir.Schema.Conventions
import Eir.Schema.EntityType
import Eir.Schema.Selection
import Eir.Schema.View
import Eir.Settings
import Eir.Specification
import Eir.Stage
import Eir.Standard.EntityTypes
import Eir.Standard.Places
import Eir.Standard.PublishedSettings
import Eir.Standard.ShortCodes
import Eir.Standard.SubKindWords
import Eir.Text.Affix
import Eir.Text.Blank
import Eir.Text.Digits
import Eir.Xml.Attributes
import Eir.Xml.Element
import Eir.Xml.Reference
import Eir.Xml.Token
import Eir.Yaml.Basic
import Eir.Yaml.Literal
import Eir.Yaml.Reader
import Eir.Yaml.Scalar
import Eir.Yaml.Shape
import Eir.Yaml.Source
import Eir.Yaml.Tag
import Eir.Yaml.Token

import ValueShadow.Main
import ValueShadow.Proofs.First
import ValueShadow.Proofs.Result
import ValueShadow.Proofs.Shape
import ValueShadow.Proofs.LocalNames
import ValueShadow.Proofs.LocalNames.Allocation
import ValueShadow.Proofs.ShadowClass.Locals
import ValueShadow.Proofs.ShadowClass.Obstacles
import ValueShadow.Proofs.Naming
import ValueShadow.Proofs.Naming.Stages
import ValueShadow.Proofs.Naming.Markers
import ValueShadow.Proofs.ShadowClass.Assembly
import ValueShadow.Proofs.Session.Turn
import ValueShadow.Proofs.Session.Loop
import ValueShadow.Proofs.Lookup
import ValueShadow.Proofs.Session.Invariant
import ValueShadow.Proofs.Session.Worklist
import ValueShadow.Proofs.Session.Ownership
import ValueShadow.Proofs.Session.Shadows
import ValueShadow.Proofs.Session.Agreement
import ValueShadow.Proofs.Session.Survivors
import ValueShadow.Proofs.Session.CatalogOrder
import ValueShadow.Proofs.Objects.Datum
import ValueShadow.Proofs.Objects.Crossing
import ValueShadow.Proofs.Objects.RoundTrip
import ValueShadow.Proofs.PropertyType.Token
import ValueShadow.Proofs.PropertyType.Cutting
import ValueShadow.Proofs.PropertyType.Name
import ValueShadow.Proofs.PropertyType.Parser
import ValueShadow.Proofs.PropertyType.Lexemes
import ValueShadow.Proofs.QualifiedName
import ValueShadow.Proofs.PropertyType.Display
import ValueShadow.Proofs.Files.Path
import ValueShadow.Proofs.Files.FileTree
import ValueShadow.Proofs.Files.Writing
import ValueShadow.Proofs.Files.Generation
import ValueShadow.Proofs.Manifest.Accounting
import ValueShadow.Proofs.Java.Scope
import ValueShadow.Proofs.Java.Reading
import ValueShadow.Proofs.Java.Mentions
import ValueShadow.Proofs.Java.Capture
import ValueShadow.Proofs.Java.TypeName
import ValueShadow.Proofs.Schema
import ValueShadow.Proofs.Schema.History
import ValueShadow.Proofs.ShadowClass.Members
import ValueShadow.Proofs.ShadowClass.FinalClass
import ValueShadow.Proofs.ShadowClass.Methods
import ValueShadow.Proofs.Objects.Accessors
import ValueShadow.Proofs.Session.Warnings
import ValueShadow.Proofs.PropertyType.ClassNames
import ValueShadow.Proofs.Manifest.Entries
import ValueShadow.Proofs.Manifest.References
import ValueShadow.Proofs.Manifest.Validation
import ValueShadow.Proofs.Json.Printer
import ValueShadow.Proofs.Json.Encoding

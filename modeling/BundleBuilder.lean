import BundleBuilder.Main
import BundleBuilder.Yaml.Printer
import BundleBuilder.Proofs.Controller.Reporting
import BundleBuilder.Proofs.Generation.Isolation
import BundleBuilder.Proofs.Controller.Consistency
import BundleBuilder.Proofs.Controller.Selection
import BundleBuilder.Proofs.JavaType.Grammar
import BundleBuilder.Proofs.JavaType.Recognition
import BundleBuilder.Proofs.Java.Execution
import BundleBuilder.Proofs.Java.Storing
import BundleBuilder.Proofs.Java.Filling
import BundleBuilder.Proofs.Java.Injecting
import BundleBuilder.Proofs.Java.RoundTrip
import BundleBuilder.Proofs.ClassTable.Reachability
import BundleBuilder.Proofs.Controller.Inheritance
import BundleBuilder.Proofs.JavaType.Printing
import BundleBuilder.Proofs.ClassTable.Transitivity
import BundleBuilder.Proofs.ClassTable.Termination
import BundleBuilder.Proofs.ClassTable.Coherence
import BundleBuilder.Proofs.Controller.History
import BundleBuilder.Proofs.Controller.Scoping
import BundleBuilder.Proofs.Controller.Assignments
import BundleBuilder.Proofs.Controller.Hiding
import BundleBuilder.Proofs.Catalog.ImportClosure
import BundleBuilder.Proofs.Catalog.Reordering
import BundleBuilder.Proofs.Controller.SetterTable
import BundleBuilder.Proofs.Controller.Collecting
import BundleBuilder.Proofs.ClassDecl.Types
import BundleBuilder.Proofs.JavaType.NameResolution
import BundleBuilder.Proofs.Catalog.Gathering
import BundleBuilder.Proofs.ClassTable.Reinsertion
import BundleBuilder.Proofs.Catalog.Reloading
import BundleBuilder.Proofs.Catalog.Invariants
import BundleBuilder.Proofs.Catalog.Interruption
import BundleBuilder.Proofs.Generation.Completeness
import BundleBuilder.Proofs.Generation.Output
import BundleBuilder.Proofs.Java.Branches
import BundleBuilder.Proofs.Text.Joining
import BundleBuilder.Proofs.ClassDecl.Naming
import BundleBuilder.Proofs.Files.Writing
import BundleBuilder.Proofs.Java.UnitPaths
import BundleBuilder.Proofs.Generation.Distinctness
import BundleBuilder.Proofs.JavaType.Positions
import BundleBuilder.Proofs.Catalog.SimpleNames
import BundleBuilder.Proofs.Java.Spelling
import BundleBuilder.Proofs.Generation.Advisory
import BundleBuilder.Proofs.Controller.AdditionOrder
import BundleBuilder.Proofs.Java.DeclarationOrder
import BundleBuilder.Proofs.ClassTable.Reflexivity
import BundleBuilder.Proofs.ClassTable.Naturality
import BundleBuilder.Proofs.Java.Fetching
import BundleBuilder.Proofs.Java.LiteralValue
import BundleBuilder.Proofs.Controller.SetterSelection
import BundleBuilder.Proofs.Options.Settings
import BundleBuilder.Proofs.Storage.Classification
import BundleBuilder.Proofs.JavaType.TrailingInput
import BundleBuilder.Proofs.JavaType.Composition
import BundleBuilder.Proofs.ClassDecl.Decomposition
import BundleBuilder.Proofs.Java.WrittenKeys
import BundleBuilder.Proofs.Java.ParameterNames
import BundleBuilder.Proofs.Java.Rendering
import BundleBuilder.Proofs.Java.Nesting

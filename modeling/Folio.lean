import Folio.CommandLine
import Folio.Main
import Folio.Session
import Folio.Tree.Edit
import Folio.Proofs.Tree.Preorder
import Folio.Proofs.Tree.Relabelling
import Folio.Proofs.Options
import Folio.Proofs.References.Assignment
import Folio.Proofs.References.Uniqueness
import Folio.Proofs.References.Replaced
import Folio.Proofs.References.Smallest
import Folio.Proofs.Contents.Forest
import Folio.Proofs.Contents.Nesting
import Folio.Proofs.Contents.Required
import Folio.Proofs.Contents.Resolution
import Folio.Proofs.Json.Exact
import Folio.Proofs.Json.Numbers
import Folio.Proofs.Json.Doubles
import Folio.Proofs.Json.Strings
import Folio.Proofs.Json.RoundTrip
import Folio.Proofs.Tree.Typed
import Folio.Proofs.Tree.Encoding
import Folio.Proofs.Tree.Codec
import Folio.Proofs.Tree.RoundTrip
import Folio.Proofs.Timestamp
import Folio.Proofs.Json.Parsed
import Folio.Proofs.Tree.Decoded
import Folio.Proofs.References.Fixpoint
import Folio.Proofs.CommandLine.Arguments
import Folio.Proofs.FileTree
import Folio.Proofs.Json.Characters
import Folio.Proofs.Logging
import Folio.Proofs.CommandLine.Runs
import Folio.Proofs.CommandLine.Fixpoint
import Folio.Proofs.Tree.Alike
import Folio.Proofs.Tree.Equality
import Folio.Proofs.Tree.Position
import Folio.Proofs.Tree.Walk
import Folio.Proofs.Tree.Recording
import Folio.Proofs.Tree.Traversal
import Folio.Proofs.Tree.NormalForm
import Folio.Proofs.References.Congruence
import Folio.Proofs.References.Settling
import Folio.Proofs.References.Shape
import Folio.Proofs.Contents.Congruence
import Folio.Proofs.Contents.Pruning
import Folio.Proofs.Contents.Flaws
import Folio.Proofs.CommandLine.Loading
import Folio.Proofs.Indistinguishable
import Folio.Proofs.References.Wrapping
import Folio.Proofs.Containers
import Folio.Proofs.Tree.Access
import Folio.Proofs.CommandLine.Checked
import Folio.Proofs.CommandLine.Safety
import Folio.Proofs.Building.InPlace
import Folio.Proofs.Building.Nesting
import Folio.Proofs.Tree.Grammar
import Folio.Proofs.Tree.Guards
import Folio.Proofs.Config
import Folio.Proofs.Tree.Reread
import Folio.Proofs.CommandLine.Usable
import Folio.Proofs.Tree.Visits
import Folio.Proofs.Validation.Strict
import Folio.Proofs.References.Growth
import Folio.Proofs.Slug.Words
import Folio.Proofs.Slug.Wordwise
import Folio.Proofs.Slug.Form
import Folio.Proofs.Tree.Collection
import Folio.Proofs.Validation.Operations
import Folio.Proofs.Settings.Merge
import Folio.Proofs.Config.Discovery
import Folio.Proofs.CommandLine.Outlines
import Folio.Proofs.Building.Expressions
import Folio.Proofs.References.Bounds
import Folio.Proofs.Tree.Lockstep
import Folio.Proofs.Contents.Stack

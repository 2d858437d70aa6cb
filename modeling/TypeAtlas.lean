import TypeAtlas.Cli.Command
import TypeAtlas.Graph.Hover
import TypeAtlas.Main
import TypeAtlas.Text.Edit
import TypeAtlas.Proofs.Declarations.Names
import TypeAtlas.Proofs.Declarations.Ancestry
import TypeAtlas.Proofs.Declarations.Fuel
import TypeAtlas.Proofs.Declarations.Inheritance
import TypeAtlas.Proofs.Declarations.Questions
import TypeAtlas.Proofs.Model.Classification
import TypeAtlas.Proofs.Model.Dependencies
import TypeAtlas.Proofs.Model.Graph
import TypeAtlas.Proofs.Model.Arrays
import TypeAtlas.Proofs.Declarations.Merging
import TypeAtlas.Proofs.Declarations.Members
import TypeAtlas.Proofs.Declarations.Agreement
import TypeAtlas.Proofs.Model.Reordering
import TypeAtlas.Proofs.Types.Parts
import TypeAtlas.Proofs.Types.Composition
import TypeAtlas.Proofs.Declarations.Acyclic
import TypeAtlas.Proofs.Declarations.Compositional
import TypeAtlas.Proofs.Declarations.InheritedLast
import TypeAtlas.Proofs.Types.Arguments
import TypeAtlas.Proofs.Types.Unambiguous
import TypeAtlas.Proofs.Types.OfTree
import TypeAtlas.Proofs.Declarations.Unambiguous
import TypeAtlas.Proofs.Model.Fields
import TypeAtlas.Proofs.Declarations.Joined
import TypeAtlas.Proofs.Declarations.Answers
import TypeAtlas.Proofs.Model.InheritedFields
import TypeAtlas.Proofs.Graph.Edges
import TypeAtlas.Proofs.Model.Classes
import TypeAtlas.Proofs.Json.Layout
import TypeAtlas.Proofs.Json.Values
import TypeAtlas.Proofs.Model.Decoding
import TypeAtlas.Proofs.Model.RoundTrip
import TypeAtlas.Proofs.Declarations.Bodies
import TypeAtlas.Proofs.Types.Bare
import TypeAtlas.Proofs.Types.Laws
import TypeAtlas.Proofs.Declarations.Laws
import TypeAtlas.Proofs.Graph.Hovering
import TypeAtlas.Proofs.Model.Differences
import TypeAtlas.Proofs.Sessions.History
import TypeAtlas.Proofs.Declarations.Signatures
import TypeAtlas.Proofs.Model.Candidates
import TypeAtlas.Proofs.Model.Overloads
import TypeAtlas.Proofs.Types.Flat
import TypeAtlas.Proofs.Declarations.Flat
import TypeAtlas.Proofs.Model.Alternatives
import TypeAtlas.Proofs.Text.Edits
import TypeAtlas.Proofs.Text.Points
import TypeAtlas.Proofs.Types.Instances
import TypeAtlas.Proofs.Declarations.Instances
import TypeAtlas.Proofs.Declarations.Expansion
import TypeAtlas.Proofs.Model.TypeParameters
import TypeAtlas.Proofs.Types.Places
import TypeAtlas.Proofs.Declarations.Keys
import TypeAtlas.Proofs.Model.Detectors
import TypeAtlas.Proofs.Model.IndexedAliases
import TypeAtlas.Proofs.Text.Literals
import TypeAtlas.Proofs.Model.Literals
import TypeAtlas.Proofs.Text.Pieces
import TypeAtlas.Proofs.Types.Legible
import TypeAtlas.Proofs.Types.Alike
import TypeAtlas.Proofs.Text.Qualifiers
import TypeAtlas.Proofs.Path.Spellings
import TypeAtlas.Proofs.Watch.Batches
import TypeAtlas.Proofs.Sessions.Batches
import TypeAtlas.Proofs.Declarations.Resolved
import TypeAtlas.Proofs.Tree.Rounds
import TypeAtlas.Proofs.Tree.Operands
import TypeAtlas.Proofs.Tree.Returns
import TypeAtlas.Proofs.Json.Ignoring
import TypeAtlas.Proofs.Config.Options
import TypeAtlas.Proofs.Config.Reading

import ShaderInterface.Text.Basic
import ShaderInterface.Text.CodePoint
import ShaderInterface.Text.Blank
import ShaderInterface.Text.Word
import ShaderInterface.Text.Digit
import ShaderInterface.Text.LowerCase
import ShaderInterface.Text.Identifier
import ShaderInterface.Text.Quoted
import ShaderInterface.Text.Encoding
import ShaderInterface.Table
import ShaderInterface.Primitive
import ShaderInterface.Brackets
import ShaderInterface.Attribute
import ShaderInterface.Field
import ShaderInterface.Stage
import ShaderInterface.Diagnostic
import ShaderInterface.SourceLines
import ShaderInterface.EntryPoint
import ShaderInterface.Placement
import ShaderInterface.Declaration.Table
import ShaderInterface.Declaration.Reading
import ShaderInterface.Declaration.Containment
import ShaderInterface.Interface
import ShaderInterface.Layout
import ShaderInterface.Header
import ShaderInterface.Files.Path
import ShaderInterface.Files.Failure
import ShaderInterface.Files.Tree
import ShaderInterface.Files.Host
import ShaderInterface.Command.Options
import ShaderInterface.Command.Dump
import ShaderInterface.Command.Run
import ShaderInterface.Main
import ShaderInterface.Proofs.Fallible
import ShaderInterface.Proofs.Table.Laws
import ShaderInterface.Proofs.KnownTypes
import ShaderInterface.Proofs.Containment.Graph
import ShaderInterface.Proofs.Containment.Walk
import ShaderInterface.Proofs.Containment.Flattening
import ShaderInterface.Proofs.Containment.Recursion
import ShaderInterface.Proofs.Containment.Ways
import ShaderInterface.Proofs.Containment.Blocks
import ShaderInterface.Proofs.Containment.DeclarationOrder
import ShaderInterface.Proofs.Containment.Idempotence
import ShaderInterface.Proofs.Text.Cuts
import ShaderInterface.Proofs.Text.Runs
import ShaderInterface.Proofs.Text.Names
import ShaderInterface.Proofs.Text.Line
import ShaderInterface.Proofs.Brackets.Pieces
import ShaderInterface.Proofs.Brackets.Joining
import ShaderInterface.Proofs.Brackets.Parentheses
import ShaderInterface.Proofs.Declaration.Entries
import ShaderInterface.Proofs.Declaration.Lookup
import ShaderInterface.Proofs.Declaration.Parts
import ShaderInterface.Proofs.Declaration.Requests
import ShaderInterface.Proofs.Declaration.Soundness
import ShaderInterface.Proofs.Declaration.Steps
import ShaderInterface.Proofs.Declaration.Annotations
import ShaderInterface.Proofs.Declaration.Reached
import ShaderInterface.Proofs.Declaration.ScannerStates
import ShaderInterface.Proofs.Declaration.Frame
import ShaderInterface.Proofs.Declaration.Printing
import ShaderInterface.Proofs.Declaration.Bodies
import ShaderInterface.Proofs.Declaration.Resources
import ShaderInterface.Proofs.Declaration.AttributeOrder
import ShaderInterface.Proofs.Declaration.RoundTrip
import ShaderInterface.Proofs.Declaration.BrokenBodies
import ShaderInterface.Proofs.Declaration.AnnotationForms
import ShaderInterface.Proofs.EntryPoint.Front
import ShaderInterface.Proofs.EntryPoint.Layout
import ShaderInterface.Proofs.EntryPoint.RoundTrip
import ShaderInterface.Proofs.Interface.Resolution
import ShaderInterface.Proofs.Declaration.Overlay
import ShaderInterface.Proofs.Declaration.SharedLines
import ShaderInterface.Proofs.Containment.Orders
import ShaderInterface.Proofs.Containment.DottedNames
import ShaderInterface.Proofs.Interface.Orders
import ShaderInterface.Proofs.Interface.Verdict
import ShaderInterface.Proofs.Interface.Names
import ShaderInterface.Proofs.Interface.Faults
import ShaderInterface.Proofs.Source.Comments
import ShaderInterface.Proofs.Source.LineComments
import ShaderInterface.Proofs.Source.Spans
import ShaderInterface.Proofs.Source.Divisions
import ShaderInterface.Proofs.Source.Pair
import ShaderInterface.Proofs.Source.Edits
import ShaderInterface.Proofs.Containment.Sizes
import ShaderInterface.Proofs.Interface.WholeNames
import ShaderInterface.Proofs.Header.Completeness
import ShaderInterface.Proofs.Header.CStructs
import ShaderInterface.Proofs.Header.Structs
import ShaderInterface.Proofs.Header.StructNames
import ShaderInterface.Proofs.Header.Members
import ShaderInterface.Proofs.Header.Sizes
import ShaderInterface.Proofs.Header.Descriptors
import ShaderInterface.Proofs.Header.Counts
import ShaderInterface.Proofs.Header.BindingTable
import ShaderInterface.Proofs.Packing
import ShaderInterface.Proofs.Command.Arguments
import ShaderInterface.Proofs.Command.Listing
import ShaderInterface.Proofs.Command.Relisting
import ShaderInterface.Proofs.Command.Upkeep
import ShaderInterface.Proofs.Command.Effects
import ShaderInterface.Proofs.Command.Endings
import ShaderInterface.Proofs.Command.Rerun
import ShaderInterface.Proofs.Command.ShaderNames

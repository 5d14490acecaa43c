import CallSearch.Tree.Compress
import CallSearch.Table
import CallSearch.Json.Number
import CallSearch.Json.Reader
import CallSearch.Json.Writer
import CallSearch.Json.Decode
import CallSearch.Tree.Document
import CallSearch.Text.CharClass
import CallSearch.Text.CaseFolding
import CallSearch.Text.CharSet
import CallSearch.Text.Category
import CallSearch.Text.Script
import CallSearch.Text.Age
import CallSearch.Text.Property
import CallSearch.Text.Segmentation
import CallSearch.Text.ByteSequence
import CallSearch.Regex
import CallSearch.Regex.Automaton
import CallSearch.Regex.Property
import CallSearch.Regex.Words
import CallSearch.Regex.Parser
import CallSearch.Program
import CallSearch.Failure
import CallSearch.Program.Document
import CallSearch.Typing
import CallSearch.Code.Simplify
import CallSearch.Region
import CallSearch.MethodTree
import CallSearch.Dispatch.Table
import CallSearch.Dispatch
import CallSearch.Index.Document
import CallSearch.Query
import CallSearch.Search
import CallSearch.Report
import CallSearch.Run
import CallSearch.Main
import CallSearch.Proofs.Suffix
import CallSearch.Proofs.Table
import CallSearch.Proofs.Sorted
import CallSearch.Proofs.Notice
import CallSearch.Proofs.Sample
import CallSearch.Proofs.Tree.Splice
import CallSearch.Proofs.Tree.Language
import CallSearch.Proofs.Tree.Feasible
import CallSearch.Proofs.Tree.Compress
import CallSearch.Proofs.Tree.Expand
import CallSearch.Proofs.Tree.Map
import CallSearch.Proofs.Code.Run
import CallSearch.Proofs.Code.Chains
import CallSearch.Proofs.Code.MergeLabels
import CallSearch.Proofs.Code.DropJumps
import CallSearch.Proofs.Code.Live
import CallSearch.Proofs.Region.Run
import CallSearch.Proofs.Region.Boxes
import CallSearch.Proofs.Region.Loops
import CallSearch.Proofs.Region.Changes
import CallSearch.Proofs.Region.Flatten
import CallSearch.Proofs.Region.Live
import CallSearch.Proofs.Path.Language
import CallSearch.Proofs.Path.Walk
import CallSearch.Proofs.Path.Boxes
import CallSearch.Proofs.Path.Queue
import CallSearch.Proofs.Path.Bounds
import CallSearch.Proofs.Region.Structured
import CallSearch.Proofs.MethodTree
import CallSearch.Proofs.Layers
import CallSearch.Proofs.Hierarchy
import CallSearch.Proofs.Hierarchy.Distance
import CallSearch.Proofs.Dispatch.Offers
import CallSearch.Proofs.Dispatch.Table
import CallSearch.Proofs.Dispatch
import CallSearch.Proofs.CallGraph.Search
import CallSearch.Proofs.CallGraph
import CallSearch.Proofs.CallGraph.Depth
import CallSearch.Proofs.Forest.Arena
import CallSearch.Proofs.Forest.Build
import CallSearch.Proofs.Forest.Depth
import CallSearch.Proofs.Forest.Shape
import CallSearch.Proofs.Forest.Numbers
import CallSearch.Proofs.Forest.Summary
import CallSearch.Proofs.Forest.Sharing
import CallSearch.Proofs.Index
import CallSearch.Proofs.Index.Sharing
import CallSearch.Proofs.Forest.Reachable
import CallSearch.Proofs.Forest.Visits
import CallSearch.Proofs.Forest.Lowest
import CallSearch.Proofs.Query
import CallSearch.Proofs.Excerpt.Unfold
import CallSearch.Proofs.Excerpt.Shallowest
import CallSearch.Proofs.Excerpt.Ways
import CallSearch.Proofs.Excerpt.Paths
import CallSearch.Proofs.Excerpt.Contexts
import CallSearch.Proofs.Excerpt.Prune
import CallSearch.Proofs.Dispatch.Closest
import CallSearch.Proofs.Dispatch.Resolve
import CallSearch.Proofs.Index.Matching
import CallSearch.Proofs.Index.Validate
import CallSearch.Proofs.Index.Loadable
import CallSearch.Proofs.Index.Hits
import CallSearch.Proofs.Index.Paths
import CallSearch.Proofs.Index.FirstFound
import CallSearch.Proofs.Index.Cuts
import CallSearch.Proofs.Index.Forms
import CallSearch.Proofs.Tree.Factor
import CallSearch.Proofs.Tree.Substitute
import CallSearch.Proofs.Code.Simplify
import CallSearch.Proofs.Excerpt.Evidence
import CallSearch.Proofs.Dispatch.Assignable
import CallSearch.Proofs.Code.Tangles
import CallSearch.Proofs.Json.Reader
import CallSearch.Proofs.Json.Decode
import CallSearch.Proofs.Index.Document
import CallSearch.Proofs.Index.Stored

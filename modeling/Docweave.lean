import Docweave.Main
import Docweave.Proofs.Forest.Source
import Docweave.Proofs.Project.Edges
import Docweave.Proofs.Project.Reach
import Docweave.Proofs.Project.Roots
import Docweave.Proofs.Forest.Kept
import Docweave.Proofs.Directive.Moves
import Docweave.Proofs.Directive.Walk
import Docweave.Proofs.Directive.Run
import Docweave.Proofs.Project.Built
import Docweave.Proofs.Directive.Stop
import Docweave.Proofs.Directive.Structure
import Docweave.Proofs.Directive.Tables
import Docweave.Proofs.Directive.Effect
import Docweave.Proofs.Directive.Overwrite
import Docweave.Proofs.Directive.Again
import Docweave.Proofs.Directive.Visits
import Docweave.Proofs.Forest.Owner
import Docweave.Proofs.Directive.Once
import Docweave.Proofs.Forest.Spoken
import Docweave.Proofs.Directive.Bodies
import Docweave.Proofs.Files.Places
import Docweave.Proofs.Page.Paths
import Docweave.Proofs.Directive.Graph
import Docweave.Proofs.Page.Written
import Docweave.Proofs.Directive.Refused
import Docweave.Proofs.Project.Registers
import Docweave.Proofs.Page.Layout
import Docweave.Proofs.Block.ImportHeader
import Docweave.Proofs.Block.Imports
import Docweave.Proofs.Block.Callables
import Docweave.Proofs.Block.AssignedBody
import Docweave.Proofs.Forest.Naming
import Docweave.Proofs.Directive.Filling
import Docweave.Proofs.Directive.Segments
import Docweave.Proofs.Directive.CallTree
import Docweave.Proofs.Directive.Literals
import Docweave.Proofs.Directive.Drafts
import Docweave.Proofs.Comment.Reading
import Docweave.Proofs.Comment.Tiling
import Docweave.Proofs.Comment.SourceRows
import Docweave.Proofs.Text.Wrap
import Docweave.Proofs.Page.Groups
import Docweave.Proofs.Page.Declarations
import Docweave.Proofs.Settings.Merge
import Docweave.Proofs.Settings.RoundTrip
import Docweave.Proofs.Session.Loading
import Docweave.Proofs.Session.Found
import Docweave.Proofs.Project.Unfolded
import Docweave.Proofs.Forest.LineComments
import Docweave.Proofs.Forest.Chains
import Docweave.Proofs.Text.Indent
import Docweave.Proofs.Text.Tokens
import Docweave.Proofs.Block.Statement
import Docweave.Proofs.Block.BracedBody
import Docweave.Proofs.Directive.Commas

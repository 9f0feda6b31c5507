import UriDispatch.Main
import UriDispatch.Text.Description
import UriDispatch.Proofs.Pattern.Pieces
import UriDispatch.Proofs.Pattern.Compiled
import UriDispatch.Proofs.Pattern.Origins
import UriDispatch.Proofs.Table.History
import UriDispatch.Proofs.Pattern.Anchors
import UriDispatch.Proofs.Pattern.Language
import UriDispatch.Proofs.Table.Dispatch
import UriDispatch.Proofs.RouteFile.Agreement
import UriDispatch.Proofs.Pattern.Translation
import UriDispatch.Proofs.Regex.Confinement
import UriDispatch.Proofs.Pattern.DefaultTrees
import UriDispatch.Proofs.Parameters
import UriDispatch.Proofs.Pattern.DefaultCaptures
import UriDispatch.Proofs.Table.SingleRoute
import UriDispatch.Proofs.Table.Stability
import UriDispatch.Proofs.Text.JsonReading
import UriDispatch.Proofs.Text.JsonRoundTrip
import UriDispatch.Proofs.CommandLine.Batch
import UriDispatch.Proofs.Pattern.Demotion
import UriDispatch.Proofs.Regex.Ends
import UriDispatch.Proofs.Pattern.Backtracking
import UriDispatch.Proofs.Pattern.Balance
import UriDispatch.Proofs.Pattern.Delimited
import UriDispatch.Proofs.Pattern.GroupBodies
import UriDispatch.Proofs.Pattern.Enclosure
import UriDispatch.Proofs.RouteFile.Problems
import UriDispatch.Proofs.Maps
import UriDispatch.Proofs.Overlay
import UriDispatch.Proofs.CommandLine.Compiling
import UriDispatch.Proofs.Pattern.Acceptance
import UriDispatch.Proofs.Pattern.Grammar
import UriDispatch.Proofs.Pattern.Redemotion
import UriDispatch.Proofs.Pattern.Recovery
import UriDispatch.Proofs.Table.Events
import UriDispatch.Proofs.Collecting

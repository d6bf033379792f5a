import ClusterStack.Association
import ClusterStack.Aws.Answer
import ClusterStack.Aws.Call
import ClusterStack.Aws.ErrorText
import ClusterStack.Aws.Script
import ClusterStack.Cluster.Config
import ClusterStack.Cluster.ContainerRow
import ClusterStack.Cluster.Creation
import ClusterStack.Cluster.Deletion
import ClusterStack.Cluster.Instances
import ClusterStack.Cluster.Listing
import ClusterStack.Cluster.Operator
import ClusterStack.Cluster.Options
import ClusterStack.Cluster.Resizing
import ClusterStack.Cluster.Service
import ClusterStack.Cluster.Size
import ClusterStack.Cluster.Task
import ClusterStack.CommandLine.Confirmation
import ClusterStack.CommandLine.Flag
import ClusterStack.CommandLine.Help
import ClusterStack.CommandLine.Request
import ClusterStack.CommandLine.Scan
import ClusterStack.CommandLine.Session
import ClusterStack.Failure
import ClusterStack.Image
import ClusterStack.Json.Basic
import ClusterStack.Json.Display
import ClusterStack.Json.Layout
import ClusterStack.Json.Reader
import ClusterStack.Json.Scalar
import ClusterStack.Json.Writer
import ClusterStack.Main
import ClusterStack.Number.Binary64
import ClusterStack.Number.DecimalText
import ClusterStack.Number.IntegerText
import ClusterStack.Number.Shortest
import ClusterStack.Program
import ClusterStack.Proofs.Association
import ClusterStack.Proofs.Changes
import ClusterStack.Proofs.Cluster.Calls
import ClusterStack.Proofs.Cluster.Commands
import ClusterStack.Proofs.Cluster.CreationOrder
import ClusterStack.Proofs.Cluster.DeletionOrder
import ClusterStack.Proofs.Cluster.Guards
import ClusterStack.Proofs.Cluster.Kinds
import ClusterStack.Proofs.Cluster.Listing
import ClusterStack.Proofs.Cluster.Methods
import ClusterStack.Proofs.Cluster.Rejections
import ClusterStack.Proofs.Cluster.SubmittedSets
import ClusterStack.Proofs.Exchanges
import ClusterStack.Proofs.Faults
import ClusterStack.Proofs.Kinds
import ClusterStack.Proofs.Rehearsals
import ClusterStack.Proofs.Replies
import ClusterStack.Proofs.Runs
import ClusterStack.Proofs.Stack.Blame
import ClusterStack.Proofs.Stack.Calls
import ClusterStack.Proofs.Stack.Confirmation
import ClusterStack.Proofs.Stack.Endings
import ClusterStack.Proofs.Stack.FailedStatus
import ClusterStack.Proofs.Stack.FailureSearch
import ClusterStack.Proofs.Stack.Looks
import ClusterStack.Proofs.Stack.Parameters
import ClusterStack.Proofs.Stack.Validation
import ClusterStack.Proofs.Stack.Waits
import ClusterStack.Stack.Event
import ClusterStack.Stack.Handle
import ClusterStack.Stack.History
import ClusterStack.Stack.Parameter
import ClusterStack.Stack.Service
import ClusterStack.Stack.Wait
import ClusterStack.Template.Declaration
import ClusterStack.Template.Document
import ClusterStack.Template.Instances
import ClusterStack.Template.Intrinsic
import ClusterStack.Template.Network
import ClusterStack.Text.Basic
import ClusterStack.Text.Blank
import ClusterStack.Text.DecimalDigit
import ClusterStack.Text.Printable
import ClusterStack.Text.Quoted
import ClusterStack.Text.Ranges
import ClusterStack.Text.Table
import ClusterStack.Text.Utf8
import ClusterStack.Text.WordCharacter
import ClusterStack.Timestamp.Basic
import ClusterStack.Timestamp.Elapsed
import ClusterStack.Timestamp.Reader
import ClusterStack.Validation.Checked
import ClusterStack.Validation.Report
import ClusterStack.Validation.Scalar
import ClusterStack.Validation.Time
import ClusterStack.Proofs.Template.Assignment
import ClusterStack.Proofs.Cluster.SizeUpdate
import ClusterStack.Proofs.Cluster.Submission
import ClusterStack.Proofs.Cluster.Stages
import ClusterStack.Proofs.Cluster.FailStop
import ClusterStack.Proofs.Json.Escapes
import ClusterStack.Proofs.Json.RoundTrip
import ClusterStack.Proofs.Stack.RequestText
import ClusterStack.Proofs.Bounds
import ClusterStack.Proofs.Stack.Termination
import ClusterStack.Proofs.Cluster.Leftovers
import ClusterStack.Proofs.Executions
import ClusterStack.Proofs.Cluster.Recovery
import ClusterStack.Proofs.Cluster.Unforeseen
import ClusterStack.Proofs.CommandLine.Reports
import ClusterStack.Proofs.Stack.WriteHistory
import ClusterStack.Proofs.Cluster.ResizeOrder
import ClusterStack.Proofs.Cluster.Reach
import ClusterStack.Proofs.CommandLine.Reach
import ClusterStack.Proofs.Cluster.Placement
import ClusterStack.Proofs.Cluster.Rearrangement
import ClusterStack.Proofs.Cluster.Join
import ClusterStack.Proofs.Timestamp.Order
import ClusterStack.Proofs.Stack.Offenders
import ClusterStack.Proofs.Stack.HistorySearch
import ClusterStack.Proofs.CommandLine.Answers
import ClusterStack.Proofs.CommandLine.Forcing
import ClusterStack.Proofs.CommandLine.Agreement
import ClusterStack.Proofs.Cluster.Turnover
import ClusterStack.Proofs.Aws.ErrorText
import ClusterStack.Proofs.Union
import ClusterStack.Proofs.Cluster.Batches
import ClusterStack.Proofs.Stack.Existence
import ClusterStack.Proofs.Cluster.Network
import ClusterStack.Proofs.Cluster.SizeText
import ClusterStack.Proofs.Cluster.ImageChoice
import ClusterStack.Proofs.Cluster.CompleteParameters
import ClusterStack.Proofs.Cluster.ContainerTable
import ClusterStack.Proofs.Stack.EventOrder

import CooperativeTasks.Bindings
import CooperativeTasks.CharacterRanges
import CooperativeTasks.CommandLine
import CooperativeTasks.Decimal.Binary
import CooperativeTasks.Decimal.Layout
import CooperativeTasks.Decimal.Shortest
import CooperativeTasks.Document.Header
import CooperativeTasks.Document.Letters
import CooperativeTasks.Document.Number
import CooperativeTasks.Document.Program
import CooperativeTasks.Document.Quoted
import CooperativeTasks.Document.Reader
import CooperativeTasks.Document.Settings
import CooperativeTasks.Document.Shape
import CooperativeTasks.Document.Skipping
import CooperativeTasks.Fault
import CooperativeTasks.FileTree
import CooperativeTasks.Future
import CooperativeTasks.Interpreter.Basic
import CooperativeTasks.Interpreter.Calls
import CooperativeTasks.Interpreter.Describe
import CooperativeTasks.Interpreter.Expressions
import CooperativeTasks.Interpreter.Operators
import CooperativeTasks.Interpreter.Run
import CooperativeTasks.Interpreter.Statements
import CooperativeTasks.Journal
import CooperativeTasks.Log
import CooperativeTasks.LogLevel
import CooperativeTasks.Main
import CooperativeTasks.Place
import CooperativeTasks.Positions
import CooperativeTasks.Program.Summary
import CooperativeTasks.Program.Tree
import CooperativeTasks.Program.Validation
import CooperativeTasks.Proofs.Bracketing
import CooperativeTasks.Proofs.Composition
import CooperativeTasks.Proofs.Deepening
import CooperativeTasks.Proofs.Endings
import CooperativeTasks.Proofs.Changes
import CooperativeTasks.Proofs.Extension
import CooperativeTasks.Proofs.Operations
import CooperativeTasks.Proofs.ScopeIdentities
import CooperativeTasks.ReadyQueue
import CooperativeTasks.Report
import CooperativeTasks.Scheduler.Basic
import CooperativeTasks.Scheduler.Drive
import CooperativeTasks.Scheduler.Publication
import CooperativeTasks.Scheduler.Registration
import CooperativeTasks.Scheduler.Step
import CooperativeTasks.Scope
import CooperativeTasks.Session
import CooperativeTasks.Settings
import CooperativeTasks.Signal
import CooperativeTasks.Task
import CooperativeTasks.TaskId
import CooperativeTasks.Unmarked
import CooperativeTasks.Value
import CooperativeTasks.Proofs.Watching
import CooperativeTasks.Proofs.Turns
import CooperativeTasks.Proofs.QueueAccounting
import CooperativeTasks.Proofs.QueueInvariant
import CooperativeTasks.Proofs.LifeCycle
import CooperativeTasks.Proofs.Marks
import CooperativeTasks.Proofs.PlainPrograms
import CooperativeTasks.Proofs.Segments
import CooperativeTasks.Proofs.Suspension
import CooperativeTasks.Proofs.SingleTask
import CooperativeTasks.Proofs.Transparency
import CooperativeTasks.Proofs.Reachability
import CooperativeTasks.Proofs.Awaiting
import CooperativeTasks.Proofs.Mirroring
import CooperativeTasks.Proofs.Seclusion
import CooperativeTasks.Proofs.Crowd
import CooperativeTasks.Proofs.Becoming
import CooperativeTasks.Proofs.Sites
import CooperativeTasks.Proofs.WriteBack
import CooperativeTasks.Proofs.Orderly
import CooperativeTasks.Proofs.Heeding
import CooperativeTasks.Proofs.Veil
import CooperativeTasks.Proofs.VeiledTasks
import CooperativeTasks.Proofs.VeiledSessions
import CooperativeTasks.Proofs.VeiledTurns
import CooperativeTasks.Proofs.Isolation
import CooperativeTasks.Proofs.Proceeding
import CooperativeTasks.Proofs.FairTurns
import CooperativeTasks.Proofs.Tally
import CooperativeTasks.Proofs.Moments
import CooperativeTasks.Proofs.StepForms
import CooperativeTasks.Proofs.Unwinding
import CooperativeTasks.Proofs.FaultCosts
import CooperativeTasks.Proofs.Timelessness
import CooperativeTasks.Proofs.TimelessTurns
import CooperativeTasks.Proofs.ClockIndependence
import CooperativeTasks.Proofs.Reporting
import CooperativeTasks.Proofs.Printing
import CooperativeTasks.Proofs.RoundRobin
import CooperativeTasks.Proofs.ScopeOwners
import CooperativeTasks.Proofs.ScopeHistory
import CooperativeTasks.Proofs.Weaving
import CooperativeTasks.Proofs.Gates
import CooperativeTasks.Proofs.DueSteps
import CooperativeTasks.Proofs.AwaitMarks
import CooperativeTasks.Proofs.AwaitRuns
import CooperativeTasks.Proofs.TimerRaces
import CooperativeTasks.Proofs.WaitCycles
import CooperativeTasks.Proofs.Spots
import CooperativeTasks.Proofs.Publishing
import CooperativeTasks.Proofs.PrintingSteps
import CooperativeTasks.Proofs.Completion
import CooperativeTasks.Proofs.Termination
import CooperativeTasks.Proofs.FaultedSteps
import CooperativeTasks.Proofs.Layers
import CooperativeTasks.Proofs.Places
import CooperativeTasks.Proofs.MethodWrites
import CooperativeTasks.Proofs.Lasting
import CooperativeTasks.Proofs.EndlessTurns
import CooperativeTasks.Proofs.MethodScopes
import CooperativeTasks.Proofs.MethodTasks
import CooperativeTasks.Proofs.MethodCalls
import CooperativeTasks.Proofs.Assignments
import CooperativeTasks.Proofs.Stitching
import CooperativeTasks.Proofs.Modes
import CooperativeTasks.Proofs.Signals
import CooperativeTasks.Proofs.StoredFutures
import CooperativeTasks.Proofs.FutureBindings
import CooperativeTasks.Proofs.Sweeps
import CooperativeTasks.Proofs.FrameResolution
import CooperativeTasks.Proofs.CallResolution
import CooperativeTasks.Proofs.NearestDoubles
import CooperativeTasks.Proofs.IntComparisons
import CooperativeTasks.Proofs.SavedPositions

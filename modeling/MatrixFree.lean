import MatrixFree.Krylov.ConjugateGradient
import MatrixFree.Krylov.BiconjugateGradient
import MatrixFree.Krylov.MinimalResidual
import MatrixFree.Text.Blank
import MatrixFree.Text.Layout
import MatrixFree.Text.Number
import MatrixFree.Text.Numeral
import MatrixFree.Text.Quoted
import MatrixFree.Failure
import MatrixFree.Grid.Field
import MatrixFree.Options.Settings
import MatrixFree.Slice
import MatrixFree.Timing
import MatrixFree.Engine.Context
import MatrixFree.Engine.Handle
import MatrixFree.Session.Basic
import MatrixFree.Session.ApplyOnly
import MatrixFree.Operators.Flat
import MatrixFree.Operators.OnField
import MatrixFree.Proofs.Krylov.Iteration
import MatrixFree.Proofs.Krylov.Loop
import MatrixFree.Proofs.Krylov.Verdict
import MatrixFree.Proofs.Krylov.TrueResidual
import MatrixFree.Proofs.Krylov.Termination
import MatrixFree.Proofs.Krylov.Applications
import MatrixFree.Proofs.Engine.Solve
import MatrixFree.Proofs.Session.Setup
import MatrixFree.Proofs.Session.Calls
import MatrixFree.Proofs.Session.Parts
import MatrixFree.Proofs.Session.Lifecycle
import MatrixFree.Proofs.Grid.Fields
import MatrixFree.Proofs.Session.Invert
import MatrixFree.Proofs.Session.Flattening
import MatrixFree.Proofs.Session.History
import MatrixFree.Proofs.Session.Multiply
import MatrixFree.Proofs.Session.Transport
import MatrixFree.Proofs.Grid.Copies
import MatrixFree.Proofs.Scalar.Comparison
import MatrixFree.Proofs.Options.Settings
import MatrixFree.Proofs.Options.Grammar
import MatrixFree.Proofs.Engine.Configuration
import MatrixFree.Proofs.Scalar.Exact
import MatrixFree.Proofs.Krylov.CarriedResidual
import MatrixFree.Proofs.Session.Verification
import MatrixFree.Proofs.Engine.CommandLine
import MatrixFree.Proofs.Engine.Sizes
import MatrixFree.Proofs.Krylov.Answers
import MatrixFree.Proofs.Engine.Outcomes
import MatrixFree.Proofs.Scalar.Euclidean
import MatrixFree.Proofs.Krylov.Exact
import MatrixFree.Proofs.Krylov.Conjugacy
import MatrixFree.Proofs.Krylov.Rotations
import MatrixFree.Proofs.Krylov.Axes
import MatrixFree.Proofs.Krylov.Cycles
import MatrixFree.Proofs.Krylov.Estimate
import MatrixFree.Proofs.Krylov.Breakdown
import MatrixFree.Proofs.Krylov.NotFinite
import MatrixFree.Proofs.Krylov.Limit
import MatrixFree.Proofs.Engine.Monitoring
import MatrixFree.Proofs.Session.WarmStart
import MatrixFree.Proofs.Engine.Records
import MatrixFree.Proofs.Session.Records
import MatrixFree.Proofs.Session.Planes
import MatrixFree.Proofs.Options.Reading
import MatrixFree.Proofs.Scalar.Signs
import MatrixFree.Proofs.Krylov.Stored.Program
import MatrixFree.Proofs.Krylov.Stored.Access
import MatrixFree.Proofs.Krylov.Stored.Kernels
import MatrixFree.Proofs.Krylov.Stored.Runs
import MatrixFree.Proofs.Krylov.Stored.Division
import MatrixFree.Proofs.Krylov.Stored.States
import MatrixFree.Proofs.Krylov.Restart
import MatrixFree.Proofs.Engine.Storage
import MatrixFree.Proofs.Options.Sources
import MatrixFree.Proofs.Session.Readiness
import MatrixFree.Proofs.Grid.Arrays
import MatrixFree.Proofs.Scalar.Zeros
import MatrixFree.Proofs.Krylov.Zeros
import MatrixFree.Proofs.Krylov.Singular
import MatrixFree.Proofs.Session.Singular
import MatrixFree.Proofs.Timing.Totals
import MatrixFree.Proofs.Timing.Ledgers
import MatrixFree.Proofs.Krylov.Hessenberg
import MatrixFree.Proofs.Krylov.Stored.LeastSquares

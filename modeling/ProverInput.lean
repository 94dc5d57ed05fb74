import ProverInput.Main
import ProverInput.Service.Scripted
import ProverInput.Proofs.Command.Action
import ProverInput.Proofs.Log.Offers
import ProverInput.Proofs.Log.JsonLine
import ProverInput.Proofs.Command.Invoke
import ProverInput.Proofs.Command.Recording
import ProverInput.Proofs.Command.Verdict
import ProverInput.Proofs.Command.History
import ProverInput.Proofs.Command.Audit
import ProverInput.Proofs.Command.Context
import ProverInput.Proofs.DryRun.Cancellation
import ProverInput.Proofs.DryRun.Account
import ProverInput.Proofs.Tree.Json
import ProverInput.Proofs.Tree.Update
import ProverInput.Proofs.Tree.Overlay
import ProverInput.Proofs.Tree.Algebra
import ProverInput.Proofs.Tree.Scan
import ProverInput.Proofs.Configuration.Dump
import ProverInput.Proofs.Configuration.Completeness
import ProverInput.Proofs.Configuration.Offences
import ProverInput.Proofs.Configuration.Layering
import ProverInput.Proofs.Configuration.LogChoice
import ProverInput.Proofs.CommandLine.Secrecy
import ProverInput.Proofs.CommandLine.Answer
import ProverInput.Proofs.CommandLine.Order
import ProverInput.Proofs.CommandLine.Errors
import ProverInput.Proofs.Text.Positional
import ProverInput.Proofs.Block.Grammar
import ProverInput.Proofs.Block.Rendering
import ProverInput.Proofs.DryRun.Composition
import ProverInput.Proofs.DryRun.Protocol
import ProverInput.Proofs.Endpoint.NormalForm
import ProverInput.Proofs.CommandLine.Usage
import ProverInput.Proofs.CommandLine.FailureRecords

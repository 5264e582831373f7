import Vesting.Act
import Vesting.Address
import Vesting.Bank
import Vesting.Bytes
import Vesting.Bytes.Base58
import Vesting.Bytes.Base64
import Vesting.Bytes.Hex
import Vesting.Bytes.LittleEndian
import Vesting.Bytes.Radix
import Vesting.Bytes.Size
import Vesting.Client
import Vesting.Command
import Vesting.Command.Kind
import Vesting.CommandLine.Blueprint
import Vesting.CommandLine.Ending
import Vesting.CommandLine.Errand
import Vesting.CommandLine.Grammar
import Vesting.CommandLine.Request
import Vesting.CommandLine.Value
import Vesting.Contract
import Vesting.Curve.Edwards25519
import Vesting.Datum
import Vesting.Datum.Bounded
import Vesting.Engine
import Vesting.Fault
import Vesting.FileSystem
import Vesting.Hash.Sha2
import Vesting.Host
import Vesting.Instruction
import Vesting.Instruction.Bundle
import Vesting.Json.Printer
import Vesting.Json.Reader
import Vesting.Key
import Vesting.Keypair
import Vesting.Ledger
import Vesting.Log
import Vesting.Main
import Vesting.Message
import Vesting.Path
import Vesting.Record
import Vesting.Rejection
import Vesting.Seeds
import Vesting.Seeds.Phrase
import Vesting.Session
import Vesting.Settings
import Vesting.Settings.Files
import Vesting.Settings.Target
import Vesting.Settings.Value
import Vesting.Simulation
import Vesting.Text.Blank
import Vesting.Text.Digit
import Vesting.Text.IntegerLiteral
import Vesting.Text.Lines
import Vesting.Text.Quoted
import Vesting.Text.Reader
import Vesting.Text.Shown
import Vesting.Text.Split
import Vesting.TokenAccount
import Vesting.Toml.Lexeme
import Vesting.Toml.Printer
import Vesting.Toml.Reader
import Vesting.Toml.Scalar
import Vesting.Tranche
import Vesting.Viewer
import Vesting.Viewer.Markup
import Vesting.Viewer.Palette
import Vesting.Viewer.Report
import Vesting.Proofs.Act
import Vesting.Proofs.Allocation
import Vesting.Proofs.Arguments
import Vesting.Proofs.Atomicity
import Vesting.Proofs.Authority
import Vesting.Proofs.Base58
import Vesting.Proofs.Base64
import Vesting.Proofs.Builders
import Vesting.Proofs.CanonicalForm
import Vesting.Proofs.Checks
import Vesting.Proofs.CommandText
import Vesting.Proofs.Commands
import Vesting.Proofs.Composition
import Vesting.Proofs.Confinement
import Vesting.Proofs.Consent
import Vesting.Proofs.Conservation
import Vesting.Proofs.Contract
import Vesting.Proofs.Delivery
import Vesting.Proofs.Disbursement
import Vesting.Proofs.Display
import Vesting.Proofs.Effect
import Vesting.Proofs.Forecast
import Vesting.Proofs.Founding
import Vesting.Proofs.Header
import Vesting.Proofs.InPlace
import Vesting.Proofs.Inspection
import Vesting.Proofs.Ledger
import Vesting.Proofs.LifeCycle
import Vesting.Proofs.Literal
import Vesting.Proofs.Locality
import Vesting.Proofs.Mint
import Vesting.Proofs.Movement
import Vesting.Proofs.Number
import Vesting.Proofs.Opening
import Vesting.Proofs.Path
import Vesting.Proofs.PathIndependence
import Vesting.Proofs.Payment
import Vesting.Proofs.Plan
import Vesting.Proofs.Precedence
import Vesting.Proofs.Record
import Vesting.Proofs.Redirection
import Vesting.Proofs.Refusal
import Vesting.Proofs.Release
import Vesting.Proofs.Resolution
import Vesting.Proofs.Roles
import Vesting.Proofs.Run
import Vesting.Proofs.Schedules
import Vesting.Proofs.Session
import Vesting.Proofs.Settings
import Vesting.Proofs.Settlement
import Vesting.Proofs.Signing
import Vesting.Proofs.Simulation
import Vesting.Proofs.Solvency
import Vesting.Proofs.Spelling
import Vesting.Proofs.Stranding
import Vesting.Proofs.TokenAccount
import Vesting.Proofs.Touch
import Vesting.Proofs.Transfer
import Vesting.Proofs.Verdict
import Vesting.Proofs.Wire

import Inkwell.Octets
import Inkwell.Keccak
import Inkwell.Brotli.Prefix
import Inkwell.Brotli.Words
import Inkwell.Brotli.Decode
import Inkwell.Package
import Inkwell.Wasm.Types
import Inkwell.Wasm.Instruction
import Inkwell.Wasm.Module
import Inkwell.Wasm.Stack
import Inkwell.Wasm.Typing
import Inkwell.Wasm.Valid
import Inkwell.Normalize
import Inkwell.Compile
import Inkwell.Params
import Inkwell.Record
import Inkwell.Pricer
import Inkwell.Meter.Ink
import Inkwell.Abi
import Inkwell.Activation
import Inkwell.Call
import Inkwell.CallResult
import Inkwell.Deploy
import Inkwell.Overrides
import Inkwell.Overrides.Document
import Inkwell.Session
import Inkwell.Proofs.Work
import Inkwell.Proofs.View
import Inkwell.Proofs.Journal
import Inkwell.Proofs.Compile
import Inkwell.Proofs.Caches
import Inkwell.Proofs.Ledger
import Inkwell.Proofs.Access
import Inkwell.Proofs.State
import Inkwell.Proofs.World
import Inkwell.Proofs.SystemContract
import Inkwell.Proofs.SystemCalls
import Inkwell.Proofs.Told
import Inkwell.Proofs.Calls
import Inkwell.Proofs.ProgramCalls
import Inkwell.Proofs.Provenance
import Inkwell.Proofs.Deploy
import Inkwell.Proofs.Settle
import Inkwell.Proofs.Starts
import Inkwell.Proofs.Sessions
import Inkwell.Proofs.Frames
import Inkwell.Proofs.Keccak
import Inkwell.Proofs.Layout
import Inkwell.Proofs.Meter
import Inkwell.Proofs.GasSettlement
import Inkwell.Proofs.Apart
import Inkwell.Proofs.Effects
import Inkwell.Proofs.Turns
import Inkwell.Proofs.Pins
import Inkwell.Proofs.Answers
import Inkwell.Proofs.Activity
import Inkwell.Proofs.Fees
import Inkwell.Proofs.Sales
import Inkwell.Proofs.Lifetimes
import Inkwell.Proofs.Slots
import Inkwell.Proofs.Spaces
import Inkwell.Proofs.Members
import Inkwell.Proofs.AddressSets
import Inkwell.Proofs.Cells
import Inkwell.Proofs.Summary
import Inkwell.Proofs.Progress
import Inkwell.Proofs.Creations
import Inkwell.Proofs.Routes
import Inkwell.Proofs.Agreement
import Inkwell.Proofs.Changes
import Inkwell.Proofs.Services
import Inkwell.Proofs.Payments
import Inkwell.Proofs.Entries
import Inkwell.Proofs.Quotes
import Inkwell.Proofs.Pages
import Inkwell.Proofs.Stock
import Inkwell.Proofs.Tiers
import Inkwell.Proofs.Marks
import Inkwell.Proofs.GasLimits
import Inkwell.Proofs.Distinct
import Inkwell.Proofs.Recency
import Inkwell.Proofs.CacheRuns
import Inkwell.Proofs.Acceptance
import Inkwell.Proofs.Growth
import Inkwell.Proofs.MeterRuns
import Inkwell.Proofs.Window
import Inkwell.Proofs.Leb
import Inkwell.Proofs.Codecs
import Inkwell.Proofs.TypeForms
import Inkwell.Proofs.InstructionForms
import Inkwell.Proofs.Locals
import Inkwell.Proofs.PartForms
import Inkwell.Proofs.ModuleForms
import Inkwell.Proofs.DataCounts
import Inkwell.Proofs.Canonical
import Inkwell.Proofs.Normalize
import Inkwell.Proofs.Demand
import Inkwell.Proofs.Layers
import Inkwell.Proofs.Documents
import Inkwell.Proofs.RoundTrip
import Inkwell.Proofs.Bounds
import Inkwell.Proofs.Fields
import Inkwell.Proofs.Narrowing
import Inkwell.Proofs.Weights
import Inkwell.Proofs.Estimates
import Inkwell.Proofs.Machine
import Inkwell.Proofs.InitCode

import RwaAgents.Library.OrderedMap
import RwaAgents.Library.Machine
import RwaAgents.Library.Effect
import RwaAgents.Library.Locality
import RwaAgents.Library.Lifecycle
import RwaAgents.Library.JsValue
import RwaAgents.Library.Borsh
import RwaAgents.Library.Codec
import RwaAgents.Library.Layout
import RwaAgents.Library.SetEdit
import RwaAgents.Library.Decimal
import RwaAgents.Library.TwoKeys
import RwaAgents.Library.Share
import RwaAgents.Agents.Types
import RwaAgents.Agents.Identity
import RwaAgents.Agents.Launch
import RwaAgents.Agents.Pairing
import RwaAgents.Agents.PairSpec
import RwaAgents.Agents.Registry
import RwaAgents.Agents.RegistrySafety
import RwaAgents.Agents.PairCalls
import RwaAgents.Agents.PairOrder
import RwaAgents.Agents.LaunchOnce
import RwaAgents.Agents.Trade
import RwaAgents.Agents.Authority
import RwaAgents.Agents.TokenIssue
import RwaAgents.Agents.Slippage
import RwaAgents.Agents.Redaction
import RwaAgents.Agents.DryRun
import RwaAgents.Agents.Submission
import RwaAgents.Agents.Registration
import RwaAgents.Agents.Delegation
import RwaAgents.Program.Consts
import RwaAgents.Program.States
import RwaAgents.Program.PlatformFee
import RwaAgents.Program.Ledger
import RwaAgents.Program.TokenProgram
import RwaAgents.Program.Instructions
import RwaAgents.Program.Execution
import RwaAgents.Program.InstructionSpec
import RwaAgents.Program.RecordMethods
import RwaAgents.Program.MetadataUpdate
import RwaAgents.Program.Attestation
import RwaAgents.Program.Panics
import RwaAgents.Program.Frame
import RwaAgents.Program.RecordStep
import RwaAgents.Program.AssetStep
import RwaAgents.Program.TokenStep
import RwaAgents.Program.Balances
import RwaAgents.Program.Invariant
import RwaAgents.Program.AssetLife
import RwaAgents.Program.RecordSafety
import RwaAgents.Program.EventLog
import RwaAgents.Program.Counters
import RwaAgents.Program.Fees
import RwaAgents.Program.StatusSafety
import RwaAgents.Program.Supply
import RwaAgents.Program.Freeze
import RwaAgents.Program.Settlement
import RwaAgents.Program.Wallets
import RwaAgents.Program.Metadata
import RwaAgents.Program.Space
import RwaAgents.Program.Exit
import RwaAgents.Program.Acceptance
import RwaAgents.Program.Availability
import RwaAgents.Program.Locality
import RwaAgents.Program.Kinds
import RwaAgents.Program.Interference
import RwaAgents.Program.RecordFormat
import RwaAgents.Program.Storage
import RwaAgents.Program.EventFormat
import RwaAgents.Program.Dispatch
import RwaAgents.Bridge.TransferPlan
import RwaAgents.Bridge.TokenCalls

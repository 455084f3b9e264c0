import BufferedChannels.Capacity
import BufferedChannels.Channel.Lifecycle
import BufferedChannels.Channel.Stream
import BufferedChannels.Host.Transcript
import BufferedChannels.Concatenate
import BufferedChannels.Main
import BufferedChannels.Proofs.Dialogue
import BufferedChannels.Proofs.Ensures
import BufferedChannels.Proofs.Attempts
import BufferedChannels.Proofs.Reading
import BufferedChannels.Proofs.Writing
import BufferedChannels.Proofs.Positioning
import BufferedChannels.Proofs.Operating
import BufferedChannels.Proofs.Lifecycle
import BufferedChannels.Proofs.Conservation
import BufferedChannels.Proofs.Bounds
import BufferedChannels.Proofs.Integrity
import BufferedChannels.Proofs.PlainFile
import BufferedChannels.Proofs.Medium
import BufferedChannels.Proofs.RegularFile
import BufferedChannels.Proofs.Mirror
import BufferedChannels.Proofs.Refinement
import BufferedChannels.Proofs.CutShort
import BufferedChannels.Proofs.Clock
import BufferedChannels.Proofs.Resubmission
import BufferedChannels.Proofs.Timeliness
import BufferedChannels.Proofs.Confinement
import BufferedChannels.Proofs.Custody
import BufferedChannels.Proofs.Fragmentation
import BufferedChannels.Proofs.Interleaving
import BufferedChannels.Proofs.Ledger
import BufferedChannels.Proofs.Meter
import BufferedChannels.Proofs.Delays
import BufferedChannels.Proofs.AlwaysReady
import BufferedChannels.Proofs.EndOfStream
import BufferedChannels.Proofs.Draining
import BufferedChannels.Proofs.TimeBudget
import BufferedChannels.Proofs.ReadingPosition
import BufferedChannels.Proofs.Leeway
import BufferedChannels.Proofs.Noninterference
import BufferedChannels.Proofs.TwoRuns
import BufferedChannels.Proofs.Completion
import BufferedChannels.Proofs.Material
import BufferedChannels.Proofs.Stock
import BufferedChannels.Proofs.Inventory
import BufferedChannels.Proofs.Copying
import BufferedChannels.Proofs.Openings
import BufferedChannels.Proofs.Shares
import BufferedChannels.Proofs.Concatenation
import BufferedChannels.Proofs.FailedMove
import BufferedChannels.Proofs.Demand
import BufferedChannels.Proofs.Acceptance
import BufferedChannels.Proofs.Withdrawal
import BufferedChannels.Proofs.Ahead
import BufferedChannels.Proofs.SoleUse
import BufferedChannels.Proofs.Solitude
import BufferedChannels.Proofs.Transparency
import BufferedChannels.Proofs.ExactMove
import BufferedChannels.Proofs.Waited
import BufferedChannels.Proofs.FirstBytes
import BufferedChannels.Proofs.Pursuit
import BufferedChannels.Proofs.Causes
import BufferedChannels.Proofs.Breach
import BufferedChannels.Proofs.Impasse
import BufferedChannels.Proofs.LogHistory
import BufferedChannels.Proofs.Milliseconds
import BufferedChannels.Proofs.Tally
import BufferedChannels.Proofs.Queues
import BufferedChannels.Proofs.Numerals
import BufferedChannels.Proofs.OpenMode
import BufferedChannels.Proofs.FixedLength
import BufferedChannels.Proofs.BuildLength

import SoloParaBridge.Lib.Storage
import SoloParaBridge.Lib.Trace
import SoloParaBridge.Lib.Unsigned
import SoloParaBridge.Lib.RingBuffer
import SoloParaBridge.Lib.Intervals
import SoloParaBridge.Lib.EntryMap
import SoloParaBridge.Lib.BinarySearch
import SoloParaBridge.Lib.Checkpoints
import SoloParaBridge.Millau.Primitives
import SoloParaBridge.Millau.Commitments
import SoloParaBridge.Millau.LogicProvider
import SoloParaBridge.Millau.ValidateUnsigned
import SoloParaBridge.Millau.Rounds
import SoloParaBridge.Millau.RoundInvariants
import SoloParaBridge.Millau.OffchainPlugin
import SoloParaBridge.Millau.Consensus
import SoloParaBridge.Millau.Settlement
import SoloParaBridge.Messages.Primitives
import SoloParaBridge.Messages.Rewards
import SoloParaBridge.Messages.InboundLane
import SoloParaBridge.Messages.OutboundLane
import SoloParaBridge.Messages.Pallet
import SoloParaBridge.Messages.DispatchWeight
import SoloParaBridge.XcmBridgeHub.Bridges
import SoloParaBridge.XcmBridgeHub.Invariants
import SoloParaBridge.Messages.Delivery
import SoloParaBridge.Lib.Indices
import SoloParaBridge.HeaderChain.Justification
import SoloParaBridge.HeaderChain.Strict
import SoloParaBridge.HeaderChain.Optimizer
import SoloParaBridge.HeaderChain.Equivocations
import SoloParaBridge.HeaderChain.Ancestry
import SoloParaBridge.RuntimeCommon.RefundRelayer
import SoloParaBridge.RuntimeCommon.CallResult
import SoloParaBridge.Grandpa.Pallet
import SoloParaBridge.Grandpa.Imports
import SoloParaBridge.Grandpa.Authorities
import SoloParaBridge.Parachains.Pallet
import SoloParaBridge.Parachains.Heads
import SoloParaBridge.Runtime.StorageProof
import SoloParaBridge.Beefy.Pallet
import SoloParaBridge.Beefy.Commitments
import SoloParaBridge.Relay.BasicStrategy
import SoloParaBridge.Relay.Delivery
import SoloParaBridge.Relay.Agreement
import SoloParaBridge.Relay.SourceQueue
import SoloParaBridge.Finality.SelectHeader
import SoloParaBridge.Finality.Loop
import SoloParaBridge.Finality.Sync
import SoloParaBridge.Relayers.Pallet
import SoloParaBridge.Relayers.Invariants
import SoloParaBridge.OnDemand.Parachains
import SoloParaBridge.OnDemand.Headers
import SoloParaBridge.ParachainsRelay.Loop
import SoloParaBridge.Relay.RaceLoop

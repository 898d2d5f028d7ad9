import IotPlatform.Lib.Table
import IotPlatform.Lib.Registry
import IotPlatform.Lib.Run
import IotPlatform.Lib.SlidingWindow
import IotPlatform.Lib.Bytes
import IotPlatform.Lib.Binary32
import IotPlatform.Lib.Rounding
import IotPlatform.Lib.Strtof
import IotPlatform.Lib.RingBuffer
import IotPlatform.Lib.Fifo
import IotPlatform.Lib.Suffix
import IotPlatform.Lib.Occurrences
import IotPlatform.Lib.HashChain
import IotPlatform.Lib.Crc
import IotPlatform.Lib.Checksum
import IotPlatform.Lib.Latest
import IotPlatform.Lib.Distinct
import IotPlatform.Lib.CText
import IotPlatform.Lib.Segments
import IotPlatform.Lib.LineProtocol
import IotPlatform.Lib.Printf
import IotPlatform.Lib.Cursor
import IotPlatform.Cloud.TelemetryStore
import IotPlatform.Cloud.IngestionService
import IotPlatform.Cloud.Cardinality
import IotPlatform.Cloud.Ingestion
import IotPlatform.Cloud.MessageBounds
import IotPlatform.Shared.ReplayProtection
import IotPlatform.Shared.ReplayReference
import IotPlatform.Shared.ReplayRuns
import IotPlatform.Shared.Attestation
import IotPlatform.Shared.AuditLog
import IotPlatform.Shared.AuditTrail
import IotPlatform.Shared.AuditChain
import IotPlatform.Shared.TamperDetect
import IotPlatform.Shared.AesCcm
import IotPlatform.Shared.TransportEncryption
import IotPlatform.Shared.TransportChannel
import IotPlatform.Shared.TransportSessions
import IotPlatform.Shared.TransportReplay
import IotPlatform.Shared.RuleEngineCore
import IotPlatform.Shared.RuleSelection
import IotPlatform.Shared.SensorValidation
import IotPlatform.Shared.SensorGate
import IotPlatform.Shared.DeviceIdentity
import IotPlatform.Shared.IdentityRuns
import IotPlatform.Shared.FlashPartition
import IotPlatform.Shared.BootAgreement
import IotPlatform.Shared.OtaSession
import IotPlatform.Shared.OtaRuns
import IotPlatform.Shared.OtaAssembly
import IotPlatform.Shared.OtaExactSize
import IotPlatform.Shared.OtaUpdates
import IotPlatform.Shared.OtaBootCycle
import IotPlatform.Shared.SlotSafety
import IotPlatform.Shared.OtaCanary
import IotPlatform.Shared.LoraHandler
import IotPlatform.Shared.LoraCodec
import IotPlatform.Shared.LoraErrors
import IotPlatform.Shared.LoraLink
import IotPlatform.Shared.LoraRetry
import IotPlatform.Shared.ZigbeeHandler
import IotPlatform.Shared.Rs485Protocol
import IotPlatform.Shared.Rs485Errors
import IotPlatform.Shared.SafetyMonitor
import IotPlatform.Shared.SafetyRuns
import IotPlatform.Shared.SafetyRules
import IotPlatform.Shared.InfluxdbClient
import IotPlatform.Shared.LineEncoding
import IotPlatform.Shared.LineBounds
import IotPlatform.Shared.LineFidelity
import IotPlatform.Shared.MqttClient
import IotPlatform.Shared.NetResilience
import IotPlatform.Shared.NetTiming
import IotPlatform.Shared.FaultTree
import IotPlatform.Shared.Diagnostics
import IotPlatform.Shared.ActuatorFailsafe
import IotPlatform.Shared.ConfigEngine
import IotPlatform.Shared.ConfigParams
import IotPlatform.Shared.ProfileActivation
import IotPlatform.Shared.Reregistration
import IotPlatform.Shared.BootSelfCheck
import IotPlatform.Shared.VerifiedBoot
import IotPlatform.Edge.SensorDriver
import IotPlatform.Edge.EdgeConfig
import IotPlatform.Edge.ConfigPersistence
import IotPlatform.Edge.EdgeAttestation
import IotPlatform.Edge.EdgeNode
import IotPlatform.Profiles.PhysicalRange
import IotPlatform.Profiles.Hvac
import IotPlatform.Profiles.WaterTreatment
import IotPlatform.Profiles.Agriculture
import IotPlatform.Profiles.CommandedState
import IotPlatform.Profiles.ShortCycle
import IotPlatform.Gateway.StatefulCache
import IotPlatform.Gateway.CacheStatistics
import IotPlatform.Gateway.BatchFrame
import IotPlatform.Gateway.GatewayAuth
import IotPlatform.Gateway.BatchForwarder
import IotPlatform.Gateway.CacheForwarding
import IotPlatform.Gateway.Delivery
import IotPlatform.Gateway.TrustGate
import IotPlatform.Gateway.TrustHistory
import IotPlatform.Gateway.AttestFreshness
import IotPlatform.Gateway.SequenceRuns
import IotPlatform.Gateway.RefusedFrames
import IotPlatform.Gateway.CacheFairness
import IotPlatform.Gateway.FrameVersions
import IotPlatform.Gateway.FrameBounds
import IotPlatform.Gateway.RadioForwarding
import IotPlatform.Hub.Historian
import IotPlatform.Hub.HistorianLog
import IotPlatform.Hub.HistorianPersistence
import IotPlatform.Hub.HistorianCrash
import IotPlatform.Hub.HistorianNonce
import IotPlatform.Hub.HistorianEviction
import IotPlatform.Hub.HistorianRetry
import IotPlatform.Hub.HistorianLossBound
import IotPlatform.Hub.IngestionHandler
import IotPlatform.Hub.ValidationGate
import IotPlatform.Hub.TrustExpiry
import IotPlatform.Hub.GateAgreement
import IotPlatform.Hub.IngestionAccounting
import IotPlatform.Hub.RuleActions
import IotPlatform.Hub.NodeIsolation
import IotPlatform.Hub.ConfigPortal
import IotPlatform.Hub.PortalAdmins
import IotPlatform.Hub.PortalLedger
import IotPlatform.Hub.PortalAuthorization
import IotPlatform.Hub.PortalSlots
import IotPlatform.Hub.PortalNames
import IotPlatform.Hub.SafetyLocked
import IotPlatform.Lib.BlockStream
import IotPlatform.Lib.Slots
import IotPlatform.Lib.Records
import IotPlatform.Crypto.Sha256
import IotPlatform.Crypto.Sha256Stream
import IotPlatform.Crypto.HmacSha256
import IotPlatform.Crypto.CcmMode
import IotPlatform.Crypto.CcmFormat
import IotPlatform.Gateway.DeltaFilter
import IotPlatform.Gateway.Deadband
import IotPlatform.Hub.Provenance
import IotPlatform.Hub.ReplicaAgreement
import IotPlatform.Shared.MqttSubscriptions
import IotPlatform.Shared.ZigbeeMailbox
import IotPlatform.Shared.TransportCcm
import IotPlatform.Cloud.TelemetryPath
import IotPlatform.Profiles.Home
import IotPlatform.Profiles.FailSafe
import IotPlatform.Hub.HubProgram
import IotPlatform.Edge.PowerState
import IotPlatform.Shared.TimeSource
import IotPlatform.Shared.FirmwareIntegrity
import IotPlatform.Shared.AuditReboots
import IotPlatform.Lib.Gf256
import IotPlatform.Lib.RoundCipher
import IotPlatform.Lib.Rijndael
import IotPlatform.Crypto.Aes
import IotPlatform.Crypto.AesTables
import IotPlatform.Crypto.AesSchedule
import IotPlatform.Crypto.AesCipher
import IotPlatform.Crypto.AesCcm

import SasCore.Iap.Safety
import SasCore.Iap.Admission
import SasCore.Registry.Overlap
import SasCore.Registry.GrantSession
import SasCore.Registry.Reregistration
import SasCore.Registry.CertificateBinding
import SasCore.Registry.CbsdIdentity
import SasCore.Registry.HeartbeatPrecedence
import SasCore.Dpa.AdmissionRace
import SasCore.Cpas.Atomicity
import SasCore.Cpas.Refusal
import SasCore.Cpas.Coherence
import SasCore.Cpas.Reevaluation
import SasCore.Cpas.ClusterPpa
import SasCore.Cpas.ApplyFrame
import SasCore.Fad.PublicationSafety
import SasCore.Fad.RoundTrip
import SasCore.Fad.PeerSyncSafety
import SasCore.Fad.ExportedPower
import SasCore.Injection.Ledger
import SasCore.Dpa.ScheduledProvenance
import SasCore.Spectrum.PalRenewal
import SasCore.Spectrum.WispRule
import SasCore.Ppa.CreationRace
import SasCore.Federal.Incumbents
import SasCore.Federal.Malformed
import SasCore.Federal.Counters
import SasCore.Federal.NewerFeed
import SasCore.Federal.Stamping
import SasCore.Injection.Rewriting
import SasCore.Iap.FrozenAgreement
import SasCore.Cpas.ExpiredGrants
import SasCore.Cpas.Neighborhoods
import SasCore.Cpas.DailySuccess
import SasCore.Cpas.LockOrder
import SasCore.Iap.LoopBound
import SasCore.Iap.Reordering
import SasCore.Iap.Bystander
import SasCore.Iap.ReportedAggregates
import SasCore.Renewal.Agreement
import SasCore.Spectrum.ChannelAvailability
import SasCore.Dpa.MinimalMovelist
import SasCore.Geometry.BufferBox
import SasCore.Geometry.NearestRing
import SasCore.Geometry.OverlapExact
import SasCore.Ppa.FailedCreation
import SasCore.Ppa.RfContour
import SasCore.Federal.CpiSync
import SasCore.Routes.Batch
import SasCore.Geometry.BorderCone
import SasCore.Routes.RateLimit
import SasCore.Spectrum.Channelizers
import SasCore.Iap.ChannelGrid
import SasCore.Dpa.MovelistRows
import SasCore.Dpa.AllOrNothing
import SasCore.Cpas.CommittedSafety
import SasCore.Terrain.Haat
import SasCore.Routes.RequestLimits
import SasCore.Routes.ApiAccess
import SasCore.Registry.CpiProvenance
import SasCore.Lib.Rounding

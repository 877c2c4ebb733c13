import SessionGateway.Gateway.Traffic
import SessionGateway.Proofs.Authorization
import SessionGateway.Proofs.Ownership
import SessionGateway.Proofs.UserSwitch
import SessionGateway.Proofs.QueryForm
import SessionGateway.Proofs.EntryOrigin
import SessionGateway.Proofs.Failures
import SessionGateway.Proofs.PathSegment
import SessionGateway.Proofs.Base64Url
import SessionGateway.Proofs.ClaimsDraft
import SessionGateway.Proofs.ClaimsRoundTrip
import SessionGateway.Proofs.WriteLog
import SessionGateway.Proofs.PortalCalls
import SessionGateway.Proofs.ServedFromMemory
import SessionGateway.Proofs.TokenRenaming
import SessionGateway.Proofs.FlatCache
import SessionGateway.Proofs.LookupCounts
import SessionGateway.Proofs.CacheSeparation
import SessionGateway.Proofs.PortalOutcomes
import SessionGateway.Proofs.TokenGrammar
import SessionGateway.Proofs.Percent
import SessionGateway.Proofs.Freshness
import SessionGateway.Proofs.SendableTokens
import SessionGateway.Proofs.CallAddresses
import SessionGateway.Proofs.LoginHistory
import SessionGateway.Proofs.Reset
import SessionGateway.Proofs.Refusals

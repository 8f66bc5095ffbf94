import OAuthGateway.Gateway.Answer
import OAuthGateway.Settings.Source
import OAuthGateway.Store.Schema
import OAuthGateway.Proofs.Authority.SingleUse
import OAuthGateway.Proofs.Authority.Rotation
import OAuthGateway.Proofs.Authority.AllOrNothing
import OAuthGateway.Proofs.Authority.StaleRead
import OAuthGateway.Proofs.Authority.Provenance
import OAuthGateway.Proofs.Gateway.Mediation
import OAuthGateway.Proofs.Route.Arrival
import OAuthGateway.Proofs.Route.Separator
import OAuthGateway.Proofs.Gateway.Identity
import OAuthGateway.Proofs.Authority.Isolation
import OAuthGateway.Proofs.Authority.ScopeBound
import OAuthGateway.Proofs.Authority.Pairing
import OAuthGateway.Proofs.Store.Session
import OAuthGateway.Proofs.Authority.Retirement
import OAuthGateway.Proofs.Gateway.Retirement
import OAuthGateway.Proofs.Admission.Bearer
import OAuthGateway.Proofs.Authority.Withdrawal
import OAuthGateway.Proofs.Gateway.DeadToken
import OAuthGateway.Proofs.Gateway.AdminGuard
import OAuthGateway.Proofs.Authority.Readback
import OAuthGateway.Proofs.Authority.Paging
import OAuthGateway.Proofs.Settings.SecretKey
import OAuthGateway.Proofs.Message.RoundTrip
import OAuthGateway.Proofs.Authority.Checklist
import OAuthGateway.Proofs.Authority.Redemption
import OAuthGateway.Proofs.Authority.Exchange
import OAuthGateway.Proofs.Authority.Renewal
import OAuthGateway.Proofs.Route.DotSegment
import OAuthGateway.Proofs.Route.Routing
import OAuthGateway.Proofs.Route.NormalForm
import OAuthGateway.Proofs.Route.Address
import OAuthGateway.Proofs.Authority.Entitlement
import OAuthGateway.Proofs.Authority.Lifetime
import OAuthGateway.Proofs.Admission.Grammar
import OAuthGateway.Proofs.Gateway.Hop
import OAuthGateway.Proofs.Authority.Upkeep
import OAuthGateway.Proofs.Store.Ledger
import OAuthGateway.Proofs.Store.Revocation

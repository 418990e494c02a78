import TicketGrant.Json.Table
import TicketGrant.Http.Wire
import TicketGrant.Negotiation
import TicketGrant.Script
import TicketGrant.Proofs.Conversation
import TicketGrant.Proofs.Trace
import TicketGrant.Proofs.Settlement
import TicketGrant.Proofs.Rounds
import TicketGrant.Proofs.Followed
import TicketGrant.Proofs.Machine
import TicketGrant.Proofs.Presented
import TicketGrant.Proofs.Budget
import TicketGrant.Proofs.Nonce
import TicketGrant.Proofs.Encoding.Base64
import TicketGrant.Proofs.Encoding.Form
import TicketGrant.Proofs.FormBody
import TicketGrant.Proofs.Fields
import TicketGrant.Proofs.LegalFields
import TicketGrant.Proofs.Credentials
import TicketGrant.Proofs.Disclosure
import TicketGrant.Proofs.SharedAlgorithm
import TicketGrant.Proofs.Bound
import TicketGrant.Proofs.Obtained
import TicketGrant.Proofs.InStep
import TicketGrant.Proofs.Crypto.P256
import TicketGrant.Proofs.Secrecy
import TicketGrant.Proofs.WireForms
import TicketGrant.Proofs.DemandBody
import TicketGrant.Proofs.Rearranged
import TicketGrant.Proofs.ScopeEcho
import TicketGrant.Proofs.Described
import TicketGrant.Proofs.FaultyConfig
import TicketGrant.Proofs.Counters
import TicketGrant.Proofs.Balance
import TicketGrant.Proofs.Faults
import TicketGrant.Proofs.ScopeSets
import TicketGrant.Proofs.ScopeReaders
import TicketGrant.Proofs.TokenAnswers
import TicketGrant.Proofs.SignedProofs
import TicketGrant.Proofs.Location
import TicketGrant.Proofs.UnexpectedStatus
import TicketGrant.Proofs.RetryHints
import TicketGrant.Proofs.OneDocument
import TicketGrant.Proofs.MalformedMetadata
import TicketGrant.Proofs.KeyImport

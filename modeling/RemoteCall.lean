import RemoteCall.Bytes.Hexadecimal
import RemoteCall.Dispatch.Desk
import RemoteCall.Host.Describe
import RemoteCall.Host.Peers
import RemoteCall.Proofs.Dispatch.Conservation
import RemoteCall.Services
import RemoteCall.Proofs.Dispatch.FirstVerdict
import RemoteCall.Proofs.Transport.Reading
import RemoteCall.Proofs.Wire.RoundTrip
import RemoteCall.Proofs.Wire.Sequence
import RemoteCall.Proofs.Dispatch.Exchange
import RemoteCall.Proofs.Host.Session
import RemoteCall.Proofs.Host.InProcess
import RemoteCall.Proofs.Transport.Pipeline
import RemoteCall.Proofs.Host.Remote
import RemoteCall.Proofs.Host.Agreement
import RemoteCall.Proofs.Host.Isolation
import RemoteCall.Proofs.Dispatch.Conclusion
import RemoteCall.Proofs.Host.Outage
import RemoteCall.Proofs.Wire.Canonical
import RemoteCall.Proofs.Fault.Delivery
import RemoteCall.Proofs.Wire.Header
import RemoteCall.Proofs.Transport.Outgoing
import RemoteCall.Proofs.Host.Outbound
import RemoteCall.Proofs.Host.Sharing
import RemoteCall.Proofs.Wire.HeaderFormat
import RemoteCall.Proofs.Endpoint.Identity
import RemoteCall.Proofs.Wire.LengthField
import RemoteCall.Proofs.Wire.Corruption
import RemoteCall.Proofs.Dispatch.FreshIds
import RemoteCall.Proofs.Dispatch.Response
import RemoteCall.Proofs.Host.Capacity
import RemoteCall.Proofs.Dispatch.Custody
import RemoteCall.Proofs.Endpoint.Grammar
import RemoteCall.Proofs.Host.Routing
import RemoteCall.Proofs.Dispatch.Completion

import MaCore.Base.Result
import MaCore.Base.Strings
import MaCore.Base.Map
import MaCore.Base.Cbor
import MaCore.Base.Cbor.Size
import MaCore.Base.Serde
import MaCore.Did
import MaCore.Key
import MaCore.Doc
import MaCore.Base.Window
import MaCore.Msg
import MaCore.Msg.Envelope
import MaCore.Laws
import MaCore.Base.Transition
import MaCore.TtlQueue
import MaCore.Outbox
import MaCore.Iroh.Acceptance
import MaCore.Reference
import MaCore.Iroh.Runs
import MaCore.Iroh.Replay
import MaCore.Iroh.Agreement
import MaCore.Iroh.Endpoint
import MaCore.Iroh.Ingress
import MaCore.Iroh.Expiry
import MaCore.Iroh.Delivery
import MaCore.Kubo.Pinning
import MaCore.Kubo.Wake
import MaCore.TtlQueue.Expiry
import MaCore.Inbox
import MaCore.Msg.Binding
import MaCore.Kubo.Publication
import MaCore.Ipfs.Ownership
import MaCore.Ipfs.Aliases
import MaCore.Outbox.Disclosure
import MaCore.Iroh.Discovery
import MaCore.Iroh.Connections
import MaCore.Iroh.Spelling
import MaCore.Iroh.Node
import MaCore.Iroh.Once
import MaCore.Iroh.Guarantee
import MaCore.Iroh.Eviction
import MaCore.Iroh.Capture
import MaCore.Iroh.Streams
import MaCore.Acl.Precedence
import MaCore.Kubo.Latest
import MaCore.Kubo.Survival
import MaCore.Doc.Mutation
import MaCore.Doc.RoundTrip
import MaCore.Doc.Usable
import MaCore.Ipfs.Covered
import MaCore.Config.Build
import MaCore.Config.Published
import MaCore.Iroh.Conversation
import MaCore.Acl.Locality
import MaCore.Msg.Freshness
import MaCore.Msg.Payload
import MaCore.Msg.History
import MaCore.Iroh.Rejection
import MaCore.Outbox.Size
import MaCore.Msg.Authorised
import MaCore.Doc.Methods
import MaCore.Config.Restore
import MaCore.Config.Restart
import MaCore.Config.ExtraKeys
import MaCore.Base.Yaml
import MaCore.Base.Path
import MaCore.Config
import MaCore.Config.Headless
import MaCore.Config.Settings
import MaCore.Config.Export
import MaCore.Did.Canonical
import MaCore.Transport.Resolution
import MaCore.Iroh.Registry
import MaCore.Iroh.Dialling
import MaCore.Ipfs.KeyNames
import MaCore.Kubo.Prefixes
import MaCore.Acl.Storage
import MaCore.Base.Trace
import MaCore.Base.Backoff
import MaCore.Kubo.Fetch
import MaCore.Kubo.Retry
import MaCore.Kubo.Readiness
import MaCore.Base.Report
import MaCore.Ipfs.Daemon
import MaCore.Ipfs.Held
import MaCore.Ipfs.Freshness
import MaCore.Ipfs.Requests
import MaCore.Identity.KeyFile
import MaCore.Base.Rejection
import MaCore.Config.Passphrase

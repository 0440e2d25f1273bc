import StubResolver.Message.Display
import StubResolver.Resolver.Basic
import StubResolver.Resolver.HostSettings
import StubResolver.Resource.Parse
import StubResolver.Proofs.Message.RoundTrip
import StubResolver.Proofs.Resolver.Race
import StubResolver.Proofs.Resolver.Protocol
import StubResolver.Proofs.Name.Text
import StubResolver.Proofs.Name.Reachable
import StubResolver.Proofs.Message.PrefixFree
import StubResolver.Proofs.Message.WellFormed
import StubResolver.Proofs.Resolver.Preflight
import StubResolver.Proofs.Resolver.Report
import StubResolver.Proofs.Name.Compression
import StubResolver.Proofs.Resolver.Request
import StubResolver.Proofs.Resource.Extent
import StubResolver.Proofs.Name.Unambiguous
import StubResolver.Proofs.Name.Padding
import StubResolver.Proofs.Resolver.Search
import StubResolver.Proofs.Resolver.Sequence
import StubResolver.Proofs.Message.Layout
import StubResolver.Proofs.Message.Query
import StubResolver.Proofs.Resolver.Matching
import StubResolver.Proofs.Resource.Strings
import StubResolver.Proofs.Resource.Presentation
import StubResolver.Proofs.Message.Lines
import StubResolver.Proofs.Resolver.Lookup
import StubResolver.Proofs.Resolver.HostSettings

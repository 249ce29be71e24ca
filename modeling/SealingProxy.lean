import SealingProxy.Bytes
import SealingProxy.CommandLine.Arguments
import SealingProxy.CommandLine.FieldPattern
import SealingProxy.CommandLine.LogDirective
import SealingProxy.CommandLine.LogFilter
import SealingProxy.CommandLine.LogLine
import SealingProxy.CommandLine.Run
import SealingProxy.Crypto.Aes
import SealingProxy.Crypto.Gcm
import SealingProxy.Crypto.Md5
import SealingProxy.Crypto.Sha256
import SealingProxy.Decimal.Shortest
import SealingProxy.Decimal.Unsigned
import SealingProxy.Engine
import SealingProxy.Exchange
import SealingProxy.Fields
import SealingProxy.Gateway
import SealingProxy.Headers
import SealingProxy.Hooks.Basic
import SealingProxy.Hooks.Download
import SealingProxy.Hooks.Ranges
import SealingProxy.Hooks.Resumable
import SealingProxy.Hooks.Upload
import SealingProxy.Json.Basic
import SealingProxy.Json.Number
import SealingProxy.Json.Outline
import SealingProxy.Json.Printer
import SealingProxy.Json.Reader
import SealingProxy.Json.Token
import SealingProxy.KeyMapping
import SealingProxy.Main
import SealingProxy.Message
import SealingProxy.Multipart.Body
import SealingProxy.Multipart.Boundary
import SealingProxy.Multipart.Delimiter
import SealingProxy.Multipart.Part
import SealingProxy.ObjectPath
import SealingProxy.Operation
import SealingProxy.Proofs.BoundaryRoundTrip
import SealingProxy.Proofs.CacheHistory
import SealingProxy.Proofs.CachedKeys
import SealingProxy.Proofs.Calendar
import SealingProxy.Proofs.CallEffects
import SealingProxy.Proofs.CheckedScan
import SealingProxy.Proofs.ClaimsUnderCleanUp
import SealingProxy.Proofs.ClientStash
import SealingProxy.Proofs.CompletedUploads
import SealingProxy.Proofs.Decimals
import SealingProxy.Proofs.DelimiterLines
import SealingProxy.Proofs.DeliveredContent
import SealingProxy.Proofs.DirectoryLaws
import SealingProxy.Proofs.EditedTargets
import SealingProxy.Proofs.EngineRuns
import SealingProxy.Proofs.EnvelopeFormat
import SealingProxy.Proofs.Envelopes
import SealingProxy.Proofs.FieldLaws
import SealingProxy.Proofs.FlushHeaders
import SealingProxy.Proofs.ForwardedDigests
import SealingProxy.Proofs.ForwardedParameters
import SealingProxy.Proofs.HeaderLaws
import SealingProxy.Proofs.HookSteps
import SealingProxy.Proofs.InstantTexts
import SealingProxy.Proofs.InterchangeableStores
import SealingProxy.Proofs.InterleavedCalls
import SealingProxy.Proofs.JsonRoundTrip
import SealingProxy.Proofs.JsonTokens
import SealingProxy.Proofs.JsonValues
import SealingProxy.Proofs.LineGrammar
import SealingProxy.Proofs.LocationOrigins
import SealingProxy.Proofs.MappedKeys
import SealingProxy.Proofs.MappingEntries
import SealingProxy.Proofs.MultipartRoundTrip
import SealingProxy.Proofs.NamedBuckets
import SealingProxy.Proofs.ObjectPaths
import SealingProxy.Proofs.OffloadedEnvelopes
import SealingProxy.Proofs.PartHeaders
import SealingProxy.Proofs.PassedThrough
import SealingProxy.Proofs.PercentEscapes
import SealingProxy.Proofs.PlaintextViews
import SealingProxy.Proofs.QueryLaws
import SealingProxy.Proofs.QueryRoundTrip
import SealingProxy.Proofs.ReadableRanges
import SealingProxy.Proofs.RecordTakers
import SealingProxy.Proofs.RecordedFacts
import SealingProxy.Proofs.RecordsUnderCleanUp
import SealingProxy.Proofs.ReencodedBodies
import SealingProxy.Proofs.RequestTargets
import SealingProxy.Proofs.RequestedRanges
import SealingProxy.Proofs.Respellings
import SealingProxy.Proofs.SealedMultiparts
import SealingProxy.Proofs.SealedTexts
import SealingProxy.Proofs.SessionLocation
import SealingProxy.Proofs.SessionRecords
import SealingProxy.Proofs.SessionRuns
import SealingProxy.Proofs.SidecarLaws
import SealingProxy.Proofs.StashLaws
import SealingProxy.Proofs.StatedRanges
import SealingProxy.Proofs.StoredUploads
import SealingProxy.Proofs.TakenSessions
import SealingProxy.Proofs.TextPieces
import SealingProxy.Proofs.UnobservedCleanUps
import SealingProxy.Proofs.UploadDownload
import SealingProxy.Proofs.UploadHooks
import SealingProxy.Proofs.UploadSecrecy
import SealingProxy.Proofs.UploadedObjects
import SealingProxy.Proofs.Utf8
import SealingProxy.Proofs.VerifiedKeys
import SealingProxy.ProxyError
import SealingProxy.Query
import SealingProxy.Sealing.CipherCache
import SealingProxy.Sealing.Envelope
import SealingProxy.Sealing.KeyService
import SealingProxy.Session.Directory
import SealingProxy.Session.Record
import SealingProxy.Session.Store
import SealingProxy.Settings.Config
import SealingProxy.Settings.SocketAddress
import SealingProxy.Sidecar
import SealingProxy.Text.Ascii
import SealingProxy.Text.Base64
import SealingProxy.Text.Blank
import SealingProxy.Text.Hex
import SealingProxy.Text.Hidden
import SealingProxy.Text.Letter
import SealingProxy.Text.Percent
import SealingProxy.Text.Quoted
import SealingProxy.Text.Ranges
import SealingProxy.Text.Split
import SealingProxy.Text.Utf8
import SealingProxy.Time.Instant
import SealingProxy.Time.Span
import SealingProxy.Toml.Basic
import SealingProxy.Toml.Document
import SealingProxy.Toml.Reader
import SealingProxy.Toml.Scalar

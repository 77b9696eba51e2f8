import ReplySchema.Config.LogConfig
import ReplySchema.Main
import ReplySchema.Proofs.Response.FirstSlot
import ReplySchema.Proofs.Scope.Inheritance
import ReplySchema.Proofs.Engine.Faithful
import ReplySchema.Proofs.Engine.Prepared
import ReplySchema.Proofs.Engine.Operation
import ReplySchema.Proofs.Engine.Run
import ReplySchema.Proofs.Engine.Binding
import ReplySchema.Proofs.Engine.Snapshots
import ReplySchema.Proofs.Engine.Attribution
import ReplySchema.Proofs.Engine.Diagnosis
import ReplySchema.Proofs.Engine.Reading
import ReplySchema.Proofs.Engine.Validation
import ReplySchema.Proofs.Engine.Inheriting
import ReplySchema.Proofs.Engine.Uniqueness
import ReplySchema.Proofs.Engine.Versions
import ReplySchema.Proofs.Engine.Sending
import ReplySchema.Proofs.Reply.Delivery
import ReplySchema.Proofs.Json.Every
import ReplySchema.Proofs.Json.Grammar
import ReplySchema.Proofs.Number.Text
import ReplySchema.Proofs.Schema.Addressing
import ReplySchema.Proofs.Schema.Aliases
import ReplySchema.Proofs.Schema.Descent
import ReplySchema.Proofs.Schema.Inlining
import ReplySchema.Proofs.Schema.Order
import ReplySchema.Proofs.Schema.Merging
import ReplySchema.Proofs.Serializer.Agreement
import ReplySchema.Proofs.Serializer.Closed
import ReplySchema.Proofs.Serializer.Composed
import ReplySchema.Proofs.Serializer.Conformance
import ReplySchema.Proofs.Serializer.Gate
import ReplySchema.Proofs.Serializer.Indifference
import ReplySchema.Proofs.Serializer.Integers
import ReplySchema.Proofs.Serializer.Leaks
import ReplySchema.Proofs.Serializer.MemberList
import ReplySchema.Proofs.Serializer.Nullables
import ReplySchema.Proofs.Serializer.Unfolding
import ReplySchema.Proofs.Schema.SelfContained
import ReplySchema.Proofs.Schema.Expansion
import ReplySchema.Proofs.Schema.Truncation
import ReplySchema.Proofs.Response.Contents
import ReplySchema.Proofs.Response.Negotiation
import ReplySchema.Proofs.Response.Enumeration
import ReplySchema.Proofs.Schema.Indexing
import ReplySchema.Proofs.Reply.Projection
import ReplySchema.Proofs.Manifest.Applied
import ReplySchema.Proofs.Engine.Refusal
import ReplySchema.Proofs.Engine.Addresses
import ReplySchema.Proofs.Serializer.Arena
import ReplySchema.Proofs.Serializer.Lockstep
import ReplySchema.Proofs.Serializer.Termination

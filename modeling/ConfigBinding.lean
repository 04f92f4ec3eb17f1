import ConfigBinding.Bridge.Catalog
import ConfigBinding.Converter.Custom
import ConfigBinding.Converter.Lemmas
import ConfigBinding.Json.Writer
import ConfigBinding.Rule.Condition
import ConfigBinding.Rule.Text
import ConfigBinding.Tree.Guarded
import ConfigBinding.Tree.Sorted
import ConfigBinding.Proofs.Numeric.Lossless
import ConfigBinding.Proofs.Bridge.Typing
import ConfigBinding.Proofs.Sequence
import ConfigBinding.Proofs.Bridge.RoundTrip
import ConfigBinding.Proofs.Converter.Builtin
import ConfigBinding.Proofs.Numeric.Exact
import ConfigBinding.Proofs.Codec.Reading
import ConfigBinding.Proofs.Codec.Grammar
import ConfigBinding.Proofs.Object.Place
import ConfigBinding.Proofs.Codec.RoundTrip
import ConfigBinding.Proofs.Schema.RoundTrip
import ConfigBinding.Proofs.Rule.Errors
import ConfigBinding.Proofs.Schema.Trace
import ConfigBinding.Proofs.Schema.WriteErrors
import ConfigBinding.Proofs.Schema.ErrorTrace
import ConfigBinding.Proofs.Rule.Assertions
import ConfigBinding.Proofs.Schema.Run
import ConfigBinding.Proofs.Schema.Deposit
import ConfigBinding.Proofs.Schema.AssertionSafety
import ConfigBinding.Proofs.Schema.WriteFrame
import ConfigBinding.Proofs.Schema.SkipCoherence
import ConfigBinding.Proofs.Comparison
import ConfigBinding.Proofs.Schema.TwoRuns
import ConfigBinding.Proofs.Schema.MemberOrder
import ConfigBinding.Proofs.Schema.Inheritance
import ConfigBinding.Proofs.Schema.NestedObjects
import ConfigBinding.Proofs.Schema.HiddenMembers
import ConfigBinding.Proofs.Tree.PathLaws
import ConfigBinding.Proofs.Tree.PathErrors
import ConfigBinding.Proofs.Converter.Identity
import ConfigBinding.Proofs.Codec.Elementwise
import ConfigBinding.Proofs.Codec.Failures
import ConfigBinding.Proofs.Rule.Decisions
import ConfigBinding.Proofs.Schema.ReadTable
import ConfigBinding.Proofs.Rule.Observed
import ConfigBinding.Proofs.Rule.SkipDecision
import ConfigBinding.Proofs.Rule.DefaultSelection
import ConfigBinding.Proofs.Rule.Resolution
import ConfigBinding.Proofs.Schema.AlwaysSkipped
import ConfigBinding.Proofs.Codec.Integers
import ConfigBinding.Proofs.Schema.NativeForm
import ConfigBinding.Proofs.Schema.NullAndEmpty
import ConfigBinding.Proofs.Numeric.Overflow
import ConfigBinding.Proofs.Codec.Floats
import ConfigBinding.Proofs.Value.Normal
import ConfigBinding.Proofs.Bridge.BigIntegers
import ConfigBinding.Proofs.Bridge.OwnReader
import ConfigBinding.Proofs.Bridge.Parts
import ConfigBinding.Proofs.Bridge.FixedLength
import ConfigBinding.Proofs.Value.Leaves
import ConfigBinding.Proofs.Bridge.Scripts
import ConfigBinding.Proofs.Bridge.Replay
import ConfigBinding.Proofs.Bridge.OwnWriter
import ConfigBinding.Proofs.Bridge.MapKeys
import ConfigBinding.Proofs.Bridge.KeyOrder
import ConfigBinding.Proofs.Schema.ShapeCheck
import ConfigBinding.Proofs.Bridge.MapCalls
import ConfigBinding.Proofs.Value.Equality
import ConfigBinding.Proofs.Tree.History
import ConfigBinding.Proofs.Naming.Camel
import ConfigBinding.Proofs.Naming.Separated

import FlowConsole.Main
import FlowConsole.Proofs.Merge.Gathering
import FlowConsole.Proofs.Merge.Runs
import FlowConsole.Proofs.Merge.Series
import FlowConsole.Proofs.Fanout
import FlowConsole.Proofs.Outcome
import FlowConsole.Proofs.PromQL.Answering
import FlowConsole.Proofs.PromQL.Planned
import FlowConsole.Proofs.Service.Directions
import FlowConsole.Proofs.Service.Scope
import FlowConsole.Proofs.Text.Characters
import FlowConsole.Proofs.Text.Utf8
import FlowConsole.Proofs.Text.Percent
import FlowConsole.Proofs.LogQL.Scanning
import FlowConsole.Proofs.LogQL.Rendering
import FlowConsole.Proofs.Filter.Admitted
import FlowConsole.Proofs.Filter.RoundTrip
import FlowConsole.Proofs.LogQL.Patterns
import FlowConsole.Proofs.LogQL.Filters
import FlowConsole.Proofs.LogQL.Regular
import FlowConsole.Proofs.LogQL.Intact
import FlowConsole.Proofs.LogQL.AnyMatch
import FlowConsole.Proofs.LogQL.Statable
import FlowConsole.Proofs.Regex.Basic
import FlowConsole.Proofs.Regex.Reading
import FlowConsole.Proofs.LogQL.Wildcards
import FlowConsole.Proofs.Filter.Satisfaction
import FlowConsole.Proofs.PromQL.Selection
import FlowConsole.Proofs.Reporter
import FlowConsole.Proofs.LogQL.Additions
import FlowConsole.Proofs.LogQL.Stages
import FlowConsole.Proofs.LogQL.Comparison
import FlowConsole.Proofs.Url.Parameters
import FlowConsole.Proofs.PromQL.Extended
import FlowConsole.Proofs.LogQL.Extended
import FlowConsole.Proofs.Request.Metrics
import FlowConsole.Proofs.LogQL.Settled
import FlowConsole.Proofs.Text.Digits
import FlowConsole.Proofs.Regex.Groups
import FlowConsole.Proofs.LogQL.AtLeast
import FlowConsole.Proofs.Export.Table
import FlowConsole.Proofs.Text.Form
import FlowConsole.Proofs.Url.Carrying
import FlowConsole.Proofs.Url.Extending
import FlowConsole.Proofs.LogQL.Inner
import FlowConsole.Proofs.Service.Addresses
import FlowConsole.Proofs.LogQL.Alternatives
import FlowConsole.Proofs.LogQL.Recovery
import FlowConsole.Proofs.Record.Basic
import FlowConsole.Proofs.Record.Places
import FlowConsole.Proofs.Record.Names
import FlowConsole.Proofs.Record.Members
import FlowConsole.Proofs.LogQL.Search
import FlowConsole.Proofs.LogQL.Numbers
import FlowConsole.Proofs.Regex.Flagged
import FlowConsole.Proofs.LogQL.Texts
import FlowConsole.Proofs.LogQL.Lifting
import FlowConsole.Proofs.LogQL.Filling
import FlowConsole.Proofs.LogQL.Pairs
import FlowConsole.Proofs.LogQL.Overruns
import FlowConsole.Proofs.LogQL.Occurrences
import FlowConsole.Proofs.Text.Combinators
import FlowConsole.Proofs.Filter.Grammar
import FlowConsole.Proofs.Duration.Literals
import FlowConsole.Proofs.PromQL.Candidates
import FlowConsole.Proofs.Dictionary
import FlowConsole.Proofs.Export.Columns
import FlowConsole.Proofs.Duration.Canonical
import FlowConsole.Proofs.Request.Durations
import FlowConsole.Proofs.Request.Windows
import FlowConsole.Proofs.Request.Times
import FlowConsole.Proofs.Response.Decoding
import FlowConsole.Proofs.Response.RoundTrip

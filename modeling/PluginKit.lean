import PluginKit.Command.Run
import PluginKit.Console.Call
import PluginKit.Console.Table
import PluginKit.Json.Parser
import PluginKit.Json.Printer
import PluginKit.Log.Logger
import PluginKit.Main
import PluginKit.Plugin.Source
import PluginKit.Plugin.Verify
import PluginKit.Release.Client
import PluginKit.Script.Machine
import PluginKit.Settings.Load
import PluginKit.Yaml.Node
import PluginKit.Proofs.Json.Ascii
import PluginKit.Proofs.Json.Reading
import PluginKit.Proofs.Plugin.Lossless
import PluginKit.Proofs.Plugin.Refinement
import PluginKit.Proofs.Plugin.Override
import PluginKit.Proofs.Plugin.Configuring
import PluginKit.Proofs.Plugin.Numbering
import PluginKit.Proofs.Plugin.Reporting
import PluginKit.Proofs.Plugin.Verification
import PluginKit.Proofs.Settings.Token
import PluginKit.Proofs.Plugin.Shapes
import PluginKit.Proofs.Text.Lines
import PluginKit.Proofs.Release.Notes
import PluginKit.Proofs.Release.Classification
import PluginKit.Proofs.Release.Paging
import PluginKit.Proofs.Release.Versions
import PluginKit.Proofs.Release.Base
import PluginKit.Proofs.Release.Sections
import PluginKit.Proofs.Json.RoundTrip
import PluginKit.Proofs.Plugin.Delivery
import PluginKit.Proofs.Settings.Independence
import PluginKit.Proofs.Release.Collection
import PluginKit.Proofs.Release.History
import PluginKit.Proofs.Plugin.Acceptance
import PluginKit.Proofs.Plugin.Exports
import PluginKit.Proofs.Plugin.Receiving
import PluginKit.Proofs.Plugin.Refusal
import PluginKit.Proofs.Plugin.Verdict
import PluginKit.Proofs.Command.LineEnds
import PluginKit.Proofs.Log.Handlers
import PluginKit.Proofs.Log.Blocks
import PluginKit.Proofs.Log.Thresholds
import PluginKit.Proofs.Command.Writing
import PluginKit.Proofs.Console.Verbatim
import PluginKit.Proofs.Command.Diagnostics
import PluginKit.Proofs.Release.Summary

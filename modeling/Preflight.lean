import Preflight.Callback
import Preflight.Json.Reader
import Preflight.Scenario.Play
import Preflight.Settings.Overlay
import Preflight.Proofs.Registry
import Preflight.Proofs.Host
import Preflight.Proofs.Expectation.Attached
import Preflight.Proofs.Bootstrap.Order
import Preflight.Proofs.Bootstrap.Verdict
import Preflight.Proofs.Scenario
import Preflight.Proofs.Bootstrap.Interrupt
import Preflight.Proofs.Expectation.Handover
import Preflight.Proofs.Bootstrap.LoadOrder
import Preflight.Proofs.Settings.PluginVariable
import Preflight.Proofs.Expectation.Refusal
import Preflight.Proofs.Bootstrap.Shutdown
import Preflight.Proofs.Audience
import Preflight.Proofs.Bootstrap.Notices
import Preflight.Proofs.Log.JsonLine
import Preflight.Proofs.Expectation.Spelling
import Preflight.Proofs.Bootstrap.Harness
import Preflight.Proofs.Expectation.MetricReport
import Preflight.Proofs.Expectation.ElementReport
import Preflight.Proofs.Unit.Code
import Preflight.Proofs.Unit.Readable
import Preflight.Proofs.Selection
import Preflight.Proofs.Scenario.Chosen
import Preflight.Proofs.Settings.LevelNames
import Preflight.Proofs.Separation
import Preflight.Proofs.Bootstrap.Reports
import Preflight.Proofs.Scenario.Registering
import Preflight.Proofs.Settings.Issues
import Preflight.Proofs.Settings.Canonical
import Preflight.Proofs.Scenario.Requests
import Preflight.Proofs.Scenario.Lookalike

import ScenarioAudit.CommandLine.Run
import ScenarioAudit.Main
import ScenarioAudit.Proofs.Anchor.Channels
import ScenarioAudit.Proofs.Anchor.Script
import ScenarioAudit.Proofs.CommandLine.Outcome
import ScenarioAudit.Proofs.Corpus.Change
import ScenarioAudit.Proofs.Corpus.Directory
import ScenarioAudit.Proofs.Corpus.Document
import ScenarioAudit.Proofs.Corpus.Reformat
import ScenarioAudit.Proofs.Coverage.Verify
import ScenarioAudit.Proofs.Execution.Cover
import ScenarioAudit.Proofs.Framework.Summary
import ScenarioAudit.Proofs.Quality.Tautology
import ScenarioAudit.Proofs.Quality.Tiers
import ScenarioAudit.Proofs.Quality.Unreachable
import ScenarioAudit.Proofs.Record.Reading
import ScenarioAudit.Proofs.Record.Repeat
import ScenarioAudit.Proofs.Verdict.Evidence
import ScenarioAudit.Proofs.Verdict.Interruption
import ScenarioAudit.Proofs.Coverage.Accounting
import ScenarioAudit.Proofs.Pattern.Search
import ScenarioAudit.Proofs.Framework.Breakdown
import ScenarioAudit.Proofs.Execution.Runners
import ScenarioAudit.Proofs.Execution.Recognition
import ScenarioAudit.Proofs.Execution.Masking
import ScenarioAudit.Proofs.Scan.Attribute
import ScenarioAudit.Proofs.Scan.Indent
import ScenarioAudit.Proofs.Scan.Inline
import ScenarioAudit.Proofs.Scan.Uncommented
import ScenarioAudit.Proofs.Anchor.Stray
import ScenarioAudit.Proofs.Quality.Walk
import ScenarioAudit.Proofs.Quality.Accounting
import ScenarioAudit.Proofs.Quality.Decorated
import ScenarioAudit.Proofs.Record.Entry
import ScenarioAudit.Proofs.Verdict.Gates
import ScenarioAudit.Proofs.Yaml.Key
import ScenarioAudit.Proofs.Yaml.Overlay
import ScenarioAudit.Proofs.Settings.Fields
import ScenarioAudit.Proofs.Yaml.Document
import ScenarioAudit.Proofs.Settings.Load
import ScenarioAudit.Proofs.Framework.Registry
import ScenarioAudit.Proofs.Framework.Levels
import ScenarioAudit.Proofs.Scan.Reread
import ScenarioAudit.Proofs.Scan.Nesting
import ScenarioAudit.Proofs.Scan.Matching
import ScenarioAudit.Proofs.Quality.Consistency

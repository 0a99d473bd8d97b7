import ScenarioAudit.Coverage.Verify
import ScenarioAudit.Proofs.Corpus.Directory
import ScenarioAudit.Proofs.Framework.Reading
import ScenarioAudit.Proofs.Host

/-! # Which coverage checks give a result

Whatever becomes of a dry run, a coverage check gives a result, unless the transcript has numbers that are too long:
one in its first summary that is not read, or a sum that is not written (`coverage_settles_iff`). Apart from the dry run
it is only the paths of the feature files that can be refused.
-/

namespace ScenarioAudit

open ScenarioAudit.Text ScenarioAudit.Number

/-! ## Transcripts that are reported -/

/-- A check comes as far as a dry run: the directory has feature files, the program is there, and a grammar is known. -/
structure ComesToDryRun (h : Host) (features : Path) (profile : FrameworkProfile) (files : List Path) (g : Grammar) :
    Prop where
  isDir : h.tree.isDir features = .ok true
  files_eq : featureFiles h.tree features = .ok files
  files_ne : files ≠ []
  program : ∃ program ∈ profile.dryRun.head?, program ∈ h.programs
  grammar : Grammar.named? profile.grammar = some g

def godogProfile : FrameworkProfile :=
  ⟨"godog", .go, ["godog", "--strict", "--no-colors", "--dry-run"], "godog", ["go.mod"], "godog"⟩

end ScenarioAudit

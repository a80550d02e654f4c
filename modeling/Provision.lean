import Provision.Host.Recorder
import Provision.Host.Script
import Provision.Main
import Provision.Proofs.Account
import Provision.Proofs.FailFast
import Provision.Proofs.AlikeSteps
import Provision.Proofs.Renaming
import Provision.Proofs.Replay
import Provision.Proofs.Plan
import Provision.Proofs.NewNames
import Provision.Proofs.Tidy
import Provision.Proofs.GivenFlags
import Provision.Proofs.Rehearsal
import Provision.Proofs.Preview
import Provision.Proofs.UnsupportedPair
import Provision.Proofs.EffectiveSettings
import Provision.Proofs.RenderedWords
import Provision.Proofs.WrittenSettings
import Provision.Proofs.Verbosity
import Provision.Proofs.Asked
import Provision.Proofs.Elevation
import Provision.Proofs.LessWork
import Provision.Proofs.Reinstalling
import Provision.Proofs.Convergence
import Provision.Proofs.PythonGate
import Provision.Proofs.HomebrewAnswer
import Provision.Proofs.BuildRemains
import Provision.Proofs.SearchOrder
import Provision.Proofs.ProjectRoot
import Provision.Proofs.Nightly
import Provision.Proofs.SetupScript
import Provision.Proofs.ScriptedAnswers
import Provision.Proofs.LastLine
import Provision.Proofs.SettingsTexts
import Provision.Proofs.VersionNumbers
import Provision.Proofs.UnquotedSettings

import Stagehand.Build.Error
import Stagehand.Build.Plan
import Stagehand.Build.Run
import Stagehand.Container.Docker
import Stagehand.Container.Engine
import Stagehand.Main
import Stagehand.Message.BreakingMark
import Stagehand.Message.Candidate
import Stagehand.Message.Prompt
import Stagehand.Model.Error
import Stagehand.Model.Runner
import Stagehand.Model.Settings
import Stagehand.Program.BuildCommand
import Stagehand.Program.CommitCommand
import Stagehand.Program.Options
import Stagehand.Program.Surroundings
import Stagehand.Proofs.Container.Provision
import Stagehand.Proofs.Model.LineReading
import Stagehand.Proofs.Session.CommitSafety
import Stagehand.Proofs.Session.Conversation
import Stagehand.Proofs.Session.Freshness
import Stagehand.Proofs.Session.Turn
import Stagehand.Proofs.Text.CharBytes
import Stagehand.Proofs.Text.LenientReading
import Stagehand.Proofs.Text.Reading
import Stagehand.Repository.Config.Load
import Stagehand.Repository.Config.Syntax
import Stagehand.Repository.Config.Value
import Stagehand.Repository.Discovery
import Stagehand.Repository.Error
import Stagehand.Repository.Git
import Stagehand.Repository.OpenError
import Stagehand.Repository.PathPattern
import Stagehand.Repository.WorkTree
import Stagehand.Repository.WrittenPath
import Stagehand.Session.Basic
import Stagehand.Session.Choice
import Stagehand.Session.Event
import Stagehand.Session.Piped
import Stagehand.Session.Proposal
import Stagehand.System.Error
import Stagehand.System.FileTree
import Stagehand.System.Host
import Stagehand.System.Machine
import Stagehand.System.Process
import Stagehand.System.Variables
import Stagehand.Text.Blank
import Stagehand.Text.CodeRange
import Stagehand.Text.ControlSequence
import Stagehand.Text.Decimal
import Stagehand.Text.Line
import Stagehand.Text.LowerCase
import Stagehand.Text.LowerCase.Table
import Stagehand.Text.Quoted
import Stagehand.Text.Quoted.Table
import Stagehand.Text.Strip
import Stagehand.Text.Utf8
import Stagehand.Proofs.Session.AnswerUse
import Stagehand.Proofs.Session.Performance
import Stagehand.Proofs.Session.PipedAnswers
import Stagehand.Proofs.Program.PipedCommit
import Stagehand.Proofs.Build.Course
import Stagehand.Proofs.Container.ContainerName
import Stagehand.Proofs.Container.BuildAttempts
import Stagehand.Proofs.Container.BuildOutcome
import Stagehand.Proofs.Container.Removal
import Stagehand.Proofs.Program.BuildStatus
import Stagehand.Proofs.Session.Failures
import Stagehand.Proofs.Session.FailSafe
import Stagehand.Proofs.Program.SessionAttempts
import Stagehand.Proofs.Program.PromptDelivery
import Stagehand.Proofs.Container.BuildInvocations
import Stagehand.Proofs.Session.Erasure
import Stagehand.Proofs.Program.CommitStatus
import Stagehand.Proofs.Model.Exchange
import Stagehand.Proofs.Model.RunnerOutcome
import Stagehand.Proofs.Model.Echo
import Stagehand.Proofs.Model.TimeLimit
import Stagehand.Proofs.Message.BreakingMark
import Stagehand.Proofs.Message.Unwrapping
import Stagehand.Proofs.Session.MenuAnswers
import Stagehand.Proofs.Model.TidySettings
import Stagehand.Proofs.Program.OptionReading
import Stagehand.Proofs.Program.ModelInForce
import Stagehand.Proofs.Text.FilledLines
import Stagehand.Proofs.Build.Report
import Stagehand.Proofs.Container.BuildReport
import Stagehand.Proofs.Program.ImageInUse
import Stagehand.Proofs.Text.Quoting
import Stagehand.Proofs.Model.EchoHeader

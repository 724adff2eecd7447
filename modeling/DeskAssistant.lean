import DeskAssistant.Job.Script
import DeskAssistant.Main
import DeskAssistant.Context.LiveSource
import DeskAssistant.Proofs.Job.Rounds
import DeskAssistant.Proofs.Session.Handoff
import DeskAssistant.Proofs.Session.Stuck
import DeskAssistant.Proofs.Tool.RoundTrip
import DeskAssistant.Proofs.Completion.Embedded
import DeskAssistant.Proofs.Job.Confidential
import DeskAssistant.Proofs.Session.Cycles
import DeskAssistant.Proofs.Session.InStep
import DeskAssistant.Proofs.Text.Integer
import DeskAssistant.Proofs.Tool.LineCount
import DeskAssistant.Proofs.Completion.Conventions
import DeskAssistant.Proofs.Completion.Cleanup
import DeskAssistant.Proofs.Completion.Channels
import DeskAssistant.Proofs.Job.Size
import DeskAssistant.Proofs.Text.Lines
import DeskAssistant.Proofs.Job.LogTail
import DeskAssistant.Proofs.Headless
import DeskAssistant.Proofs.Panel.Face
import DeskAssistant.Proofs.Panel.Sitting
import DeskAssistant.Proofs.Json.Place
import DeskAssistant.Proofs.Fragment.Position
import DeskAssistant.Proofs.Fragment.Covered
import DeskAssistant.Proofs.Fragment.Glyph
import DeskAssistant.Proofs.Tool.LastLines
import DeskAssistant.Proofs.Prompt.Truncation
import DeskAssistant.Proofs.Preferences.Load
import DeskAssistant.Proofs.Session.SingleUse
import DeskAssistant.Proofs.Session.Registry
import DeskAssistant.Proofs.Preferences.Save
import DeskAssistant.Proofs.Preferences.Stable
import DeskAssistant.Proofs.Settings.TimeLimit
import DeskAssistant.Proofs.Settings.Selection
import DeskAssistant.Proofs.Context.Capture
import DeskAssistant.Proofs.Program.Start
import DeskAssistant.Proofs.Log.Setup

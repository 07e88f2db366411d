import ShaderRunner.Main
import ShaderRunner.Files.Tree
import ShaderRunner.Proofs.Change
import ShaderRunner.Proofs.Lifetime
import ShaderRunner.Proofs.ProgramBuild
import ShaderRunner.Proofs.SetEntries
import ShaderRunner.Proofs.Textures
import ShaderRunner.Proofs.Ownership
import ShaderRunner.Proofs.Acceptance
import ShaderRunner.Proofs.Placement
import ShaderRunner.Proofs.FrameCalls
import ShaderRunner.Proofs.Uploads
import ShaderRunner.Proofs.TextureUnits
import ShaderRunner.Proofs.StaticTexts
import ShaderRunner.Proofs.CallGrammar
import ShaderRunner.Proofs.SourceCut
import ShaderRunner.Proofs.CallReplacement
import ShaderRunner.Proofs.AtOnce
import ShaderRunner.Proofs.LeftoverCalls
import ShaderRunner.Proofs.FailedCompile
import ShaderRunner.Proofs.Requests
import ShaderRunner.Proofs.LinkedNames
import ShaderRunner.Proofs.TrimmedLines
import ShaderRunner.Proofs.Wrapping
import ShaderRunner.Proofs.CalledLines
import ShaderRunner.Proofs.SamplerSteps
import ShaderRunner.Proofs.LiveTextures
import ShaderRunner.Proofs.RecompiledSource
import ShaderRunner.Proofs.LoadedSession
import ShaderRunner.Proofs.SessionSteps
import ShaderRunner.Proofs.EntryKinds
import ShaderRunner.Proofs.AtomicUpdate
import ShaderRunner.Proofs.DrawnFrames
import ShaderRunner.Proofs.StaticOrder
import ShaderRunner.Proofs.SharedSet
import ShaderRunner.Proofs.CommitSteps
import ShaderRunner.Proofs.DeclaredLength
import ShaderRunner.Proofs.ManifestRules
import ShaderRunner.Proofs.ResumedCommit
import ShaderRunner.Proofs.AcceptedValues
import ShaderRunner.Proofs.TextureSides
import ShaderRunner.Proofs.SourceWindow
import ShaderRunner.Proofs.ReportedLine
import ShaderRunner.Proofs.UniformLines
import ShaderRunner.Proofs.InsertionOrder
import ShaderRunner.Proofs.Warnings
import ShaderRunner.Proofs.AcceptedManifest
import ShaderRunner.Proofs.DecimalText
import ShaderRunner.Proofs.FloatLiterals
import ShaderRunner.Proofs.Locations
import ShaderRunner.Proofs.ArgumentGroups

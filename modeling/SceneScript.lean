import SceneScript.Builder.Interpret
import SceneScript.Call.Interpreter
import SceneScript.Scalar.Double
import SceneScript.Writer.Interpret
import SceneScript.Proofs.Action
import SceneScript.Proofs.Scalar.Equality
import SceneScript.Proofs.Scalar.DoubleEquality
import SceneScript.Proofs.Geometry.TransformEquality
import SceneScript.Proofs.Geometry.Lookups
import SceneScript.Proofs.Builder.Runs
import SceneScript.Proofs.Builder.EntityRuns
import SceneScript.Proofs.Builder.Effects
import SceneScript.Proofs.Builder.Outcomes
import SceneScript.Proofs.Builder.Lockstep
import SceneScript.Proofs.Builder.Atomicity
import SceneScript.Proofs.Builder.ScopeRestoration
import SceneScript.Proofs.Builder.BlockDiscipline
import SceneScript.Proofs.Builder.ForgottenScopes
import SceneScript.Proofs.Builder.Filing
import SceneScript.Proofs.Builder.ReferentialIntegrity
import SceneScript.Proofs.Builder.Growth
import SceneScript.Proofs.Builder.Placing
import SceneScript.Proofs.Builder.Provenance
import SceneScript.Proofs.Builder.HandleIdentity
import SceneScript.Proofs.Geometry.FirstCopies
import SceneScript.Proofs.Builder.Independence
import SceneScript.Proofs.Builder.SharedInverses
import SceneScript.Proofs.Builder.Views
import SceneScript.Proofs.Builder.Entries
import SceneScript.Proofs.Builder.RenderSpace
import SceneScript.Proofs.Scalar.Real
import SceneScript.Proofs.Geometry.ExactMatrices
import SceneScript.Proofs.Geometry.BuiltTransforms
import SceneScript.Proofs.Builder.BuiltStates
import SceneScript.Proofs.Builder.Viewpoints
import SceneScript.Proofs.Builder.CameraPlacement
import SceneScript.Proofs.Builder.Acceptance
import SceneScript.Proofs.Builder.SlotSharing
import SceneScript.Proofs.Builder.SlotIndependence
import SceneScript.Proofs.Builder.CameraSystem
import SceneScript.Proofs.Builder.Standing
import SceneScript.Proofs.Builder.Overrides
import SceneScript.Proofs.Builder.MaterialsInScope
import SceneScript.Proofs.Builder.AreaLights
import SceneScript.Proofs.Scalar.Text
import SceneScript.Proofs.Writer.Runs
import SceneScript.Proofs.Upgrade.Spelling
import SceneScript.Proofs.Upgrade.Settling
import SceneScript.Proofs.Upgrade.Rules
import SceneScript.Proofs.Writer.Pages
import SceneScript.Proofs.Writer.Outcomes
import SceneScript.Proofs.Writer.Atomicity
import SceneScript.Proofs.Decimal.Reading
import SceneScript.Proofs.Settings.AcceptedOptions
import SceneScript.Proofs.Decimal.Intervals
import SceneScript.Proofs.Decimal.Shortest
import SceneScript.Proofs.Decimal.Patterns
import SceneScript.Proofs.Scalar.DoubleText
import SceneScript.Proofs.Scalar.Rounding
import SceneScript.Proofs.Writer.Indentation
import SceneScript.Proofs.Writer.SameNestings
import SceneScript.Proofs.Writer.Items
import SceneScript.Proofs.Writer.Contents
import SceneScript.Proofs.Writer.Reading
import SceneScript.Proofs.Writer.Lossless
import SceneScript.Proofs.Upgrade.Contents
import SceneScript.Proofs.Upgrade.Revision
import SceneScript.Proofs.Upgrade.RevisedRules
import SceneScript.Proofs.Upgrade.Answers
import SceneScript.Proofs.Upgrade.Yields
import SceneScript.Proofs.Upgrade.LightParts
import SceneScript.Proofs.Upgrade.Takeover
import SceneScript.Proofs.Upgrade.OutOfReach
import SceneScript.Proofs.Writer.Conservative
import SceneScript.Proofs.Upgrade.LightScale
import SceneScript.Proofs.Upgrade.SurrenderedColors
import SceneScript.Proofs.Upgrade.UpToDate
import SceneScript.Proofs.Upgrade.BroughtUpToDate
import SceneScript.Proofs.Upgrade.Relapses
import SceneScript.Proofs.Upgrade.Notices
import SceneScript.Proofs.Upgrade.DroppedColors
import SceneScript.Proofs.Upgrade.ScaleOperands
import SceneScript.Proofs.Upgrade.UnseenParameters
import SceneScript.Proofs.Upgrade.MaterialFaults
import SceneScript.Proofs.Upgrade.IndexOfRefraction
import SceneScript.Proofs.Upgrade.ReducedToDiffuse
import SceneScript.Proofs.Upgrade.TextureCoordinates
import SceneScript.Proofs.Writer.NamedMaterials
import SceneScript.Proofs.Call.Readings
import SceneScript.Proofs.Settings.SchemaKept
import SceneScript.Proofs.Call.Forms
import SceneScript.Proofs.Call.Dispatch
import SceneScript.Proofs.Builder.MediumMotion
import SceneScript.Proofs.Geometry.CameraFrames
import SceneScript.Proofs.Geometry.StoredInverses
import SceneScript.Proofs.Geometry.Viewpoints
import SceneScript.Proofs.Builder.StampedObjects
import SceneScript.Proofs.Param.EditHistories
import SceneScript.Proofs.Param.Places
import SceneScript.Proofs.Param.UsageMarks
import SceneScript.Proofs.Scopes.WellNested
import SceneScript.Proofs.Geometry.HashAgreement

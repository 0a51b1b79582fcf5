import ControllerRemap.CommandLine.Disk
import ControllerRemap.CommandLine.Help
import ControllerRemap.CommandLine.Options
import ControllerRemap.CommandLine.Program
import ControllerRemap.Config.Basic
import ControllerRemap.Config.Decoder
import ControllerRemap.Config.Encoder
import ControllerRemap.Device.Spec
import ControllerRemap.Event.Basic
import ControllerRemap.Event.ByChannel
import ControllerRemap.Event.Code
import ControllerRemap.Event.Filter
import ControllerRemap.Event.Live
import ControllerRemap.Event.Name
import ControllerRemap.Event.Table
import ControllerRemap.Geometry.Quaternion
import ControllerRemap.Geometry.Turn
import ControllerRemap.Geometry.Vector
import ControllerRemap.Haptic.Effect
import ControllerRemap.Haptic.Playback
import ControllerRemap.Haptic.Pulse
import ControllerRemap.Main
import ControllerRemap.Motion.GyroMouse
import ControllerRemap.Motion.ScrollWheel
import ControllerRemap.Motion.Stepper
import ControllerRemap.Number.Binary64
import ControllerRemap.Number.Decimal
import ControllerRemap.Number.Digits
import ControllerRemap.Number.Scalar
import ControllerRemap.Profile.Build
import ControllerRemap.Profile.Custom
import ControllerRemap.Profile.Desktop
import ControllerRemap.Profile.Gamepad
import ControllerRemap.Profile.GyroPointer
import ControllerRemap.Profile.Pipeline
import ControllerRemap.Profile.Profile
import ControllerRemap.Profile.Response
import ControllerRemap.Profile.Tablet
import ControllerRemap.Profile.TouchButton
import ControllerRemap.Remap.Index
import ControllerRemap.Remap.Remapper
import ControllerRemap.Remap.Rule
import ControllerRemap.Remap.Transform
import ControllerRemap.Surface.RegionMap
import ControllerRemap.Surface.Shape
import ControllerRemap.Surface.TouchMapper
import ControllerRemap.Text.Blank
import ControllerRemap.Text.Hidden
import ControllerRemap.Text.Quoted
import ControllerRemap.Toml.Choice
import ControllerRemap.Toml.DecodeError
import ControllerRemap.Toml.Decoder
import ControllerRemap.Toml.Document
import ControllerRemap.Toml.Fields
import ControllerRemap.Toml.Number
import ControllerRemap.Toml.Printer
import ControllerRemap.Toml.Quote
import ControllerRemap.Toml.Space
import ControllerRemap.Toml.Text
import ControllerRemap.Toml.Tree
import ControllerRemap.Toml.Value
import ControllerRemap.Proofs.Event.History
import ControllerRemap.Proofs.Remap.Indexed
import ControllerRemap.Proofs.Remap.Scan
import ControllerRemap.Proofs.Remap.Feed
import ControllerRemap.Proofs.Profile.Build
import ControllerRemap.Proofs.Profile.Run
import ControllerRemap.Proofs.Surface.Sweep
import ControllerRemap.Proofs.Profile.ShutGate
import ControllerRemap.Proofs.Surface.SharedAxis
import ControllerRemap.Proofs.Profile.Hat
import ControllerRemap.Proofs.Remap.Interleaving
import ControllerRemap.Proofs.Profile.Interlock
import ControllerRemap.Proofs.Profile.Shutdown
import ControllerRemap.Proofs.Number.Packing
import ControllerRemap.Proofs.Config.Decoding
import ControllerRemap.Proofs.Config.Equality
import ControllerRemap.Proofs.Config.ReadBack
import ControllerRemap.Proofs.Remap.Inputs
import ControllerRemap.Proofs.Profile.Session
import ControllerRemap.Proofs.Profile.Step
import ControllerRemap.Proofs.Device.Declared
import ControllerRemap.Proofs.Profile.Declared
import ControllerRemap.Proofs.Profile.Inputs
import ControllerRemap.Proofs.Profile.Unused
import ControllerRemap.Proofs.Number.Finite
import ControllerRemap.Proofs.Profile.Fault
import ControllerRemap.Proofs.Profile.Frame
import ControllerRemap.Proofs.Profile.Tool
import ControllerRemap.Proofs.Profile.Refusal
import ControllerRemap.Proofs.Event.Grammar
import ControllerRemap.Proofs.Event.Spelling
import ControllerRemap.Proofs.Surface.Transitions
import ControllerRemap.Proofs.Surface.Stroke
import ControllerRemap.Proofs.Profile.Finger
import ControllerRemap.Proofs.Remap.Formula
import ControllerRemap.Proofs.Motion.Baseline
import ControllerRemap.Proofs.Motion.Carry
import ControllerRemap.Proofs.Profile.Wheel
import ControllerRemap.Proofs.Number.Integral
import ControllerRemap.Proofs.Device.FirstDeclaration
import ControllerRemap.Proofs.Profile.AxisRange
import ControllerRemap.Proofs.Profile.Pointer
import ControllerRemap.Proofs.Haptic.Schedule
import ControllerRemap.Proofs.Geometry.Turn
import ControllerRemap.Proofs.Remap.ReleaseOrder
import ControllerRemap.Proofs.Motion.Conservation
import ControllerRemap.Proofs.Number.Exact
import ControllerRemap.Proofs.Number.Conversion
import ControllerRemap.Proofs.Motion.Remainder

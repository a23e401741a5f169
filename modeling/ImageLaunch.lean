import ImageLaunch.Main
import ImageLaunch.Text.Terminal
import ImageLaunch.Host.Script.Words
import ImageLaunch.Host.Script.Lists
import ImageLaunch.Proofs.Launch.Course
import ImageLaunch.Proofs.Launch.Session
import ImageLaunch.Proofs.CommandLine.Reading
import ImageLaunch.Proofs.CommandLine.Passthrough
import ImageLaunch.Proofs.Segment.HeaderCodec
import ImageLaunch.Proofs.Segment.Validity
import ImageLaunch.Proofs.Segment.Reading
import ImageLaunch.Proofs.Segment.Loading
import ImageLaunch.Proofs.Segment.Packing
import ImageLaunch.Proofs.Numeral.Writing
import ImageLaunch.Proofs.Engine.Handoff
import ImageLaunch.Proofs.Engine.Delivery
import ImageLaunch.Proofs.Tool.Agreement
import ImageLaunch.Proofs.Segment.Repacking
import ImageLaunch.Proofs.Numeral.Reading
import ImageLaunch.Proofs.Engine.Geometry
import ImageLaunch.Proofs.Request.Layers
import ImageLaunch.Proofs.Files.Replacing
import ImageLaunch.Proofs.Tool.Atomicity
import ImageLaunch.Proofs.Engine.Feeding
import ImageLaunch.Proofs.CommandLine.Spelling
import ImageLaunch.Proofs.Launch.Lockstep
import ImageLaunch.Proofs.Launch.Verbosity
import ImageLaunch.Proofs.Launch.Independence
import ImageLaunch.Proofs.Launch.Quieter
import ImageLaunch.Proofs.Outcome
import ImageLaunch.Proofs.Toml.Distinct
import ImageLaunch.Proofs.Config.Schema
import ImageLaunch.Proofs.Launch.Diagnosis
import ImageLaunch.Proofs.Numeral.Grammar
import ImageLaunch.Proofs.Segment.Layout
import ImageLaunch.Proofs.Segment.Description
import ImageLaunch.Proofs.CommandLine.Acceptance

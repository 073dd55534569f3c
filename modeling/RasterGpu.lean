import RasterGpu.BitField
import RasterGpu.Color
import RasterGpu.CommandLine.Directory
import RasterGpu.CommandLine.Environment
import RasterGpu.CommandLine.Options
import RasterGpu.CommandLine.Simulator
import RasterGpu.CommandQueue
import RasterGpu.Config.Basic
import RasterGpu.Config.Document
import RasterGpu.Config.Setting
import RasterGpu.Draw
import RasterGpu.Error
import RasterGpu.Fragment
import RasterGpu.Geometry.Box
import RasterGpu.Geometry.Edge
import RasterGpu.Geometry.Triangle
import RasterGpu.Gpu.Basic
import RasterGpu.Gpu.Run
import RasterGpu.Image
import RasterGpu.Image.Checksum
import RasterGpu.Image.Png
import RasterGpu.Json.Grammar
import RasterGpu.Json.Value
import RasterGpu.Main
import RasterGpu.Memory.Arbiter
import RasterGpu.Memory.Bus
import RasterGpu.Memory.Client
import RasterGpu.Memory.Command
import RasterGpu.Memory.Device
import RasterGpu.Memory.Engine
import RasterGpu.Memory.Sdram
import RasterGpu.Proofs.Arbiter.Linearizability
import RasterGpu.Proofs.Arbiter.Port
import RasterGpu.Proofs.Arbiter.Work
import RasterGpu.Proofs.Device.Account
import RasterGpu.Proofs.Device.Apart
import RasterGpu.Proofs.Device.Consistency
import RasterGpu.Proofs.Device.Contents
import RasterGpu.Proofs.Device.Coupling
import RasterGpu.Proofs.Device.Cycle
import RasterGpu.Proofs.Device.Engine
import RasterGpu.Proofs.Device.Ledger
import RasterGpu.Proofs.Device.Program
import RasterGpu.Proofs.Device.ReadAhead
import RasterGpu.Proofs.Device.Sequential
import RasterGpu.Proofs.Device.Window
import RasterGpu.Proofs.Device.WriteOrder
import RasterGpu.Proofs.Drawing.Bench
import RasterGpu.Proofs.Drawing.Primitives
import RasterGpu.Proofs.Drawing.Reference
import RasterGpu.Proofs.Drawing.Refinement
import RasterGpu.Proofs.Drawing.Remainder
import RasterGpu.Proofs.Scanout.Frame
import RasterGpu.Proofs.Scanout.Picture
import RasterGpu.Proofs.Scanout.Raster
import RasterGpu.Proofs.Scanout.Stream
import RasterGpu.Proofs.Scanout.Underrun
import RasterGpu.Queue
import RasterGpu.Rasterizer.Basic
import RasterGpu.Rasterizer.Job
import RasterGpu.Rasterizer.Stats
import RasterGpu.Register.FragmentTest
import RasterGpu.Register.Name
import RasterGpu.Register.RenderMode
import RasterGpu.Register.Surface
import RasterGpu.Register.VertexWord
import RasterGpu.RegisterFile
import RasterGpu.Scanout.Display
import RasterGpu.Scanout.Prefetcher
import RasterGpu.Scanout.Timing
import RasterGpu.Script.Basic
import RasterGpu.Script.Document
import RasterGpu.Text.Alphanumeric
import RasterGpu.Text.Digits
import RasterGpu.Text.File
import RasterGpu.Text.Reader
import RasterGpu.Toml.Grammar
import RasterGpu.Toml.Scalar
import RasterGpu.Toml.Table
import RasterGpu.Toml.Value
import RasterGpu.Transaction
import RasterGpu.Triple
import RasterGpu.Vertex
import RasterGpu.Proofs.Drawing.DepthBuffer
import RasterGpu.Proofs.Drawing.DrawOrder
import RasterGpu.Proofs.Device.Quiescence
import RasterGpu.Proofs.Arbiter.Turn
import RasterGpu.Proofs.Device.EngineLoad
import RasterGpu.Proofs.Scanout.Edge
import RasterGpu.Proofs.Device.Drain
import RasterGpu.Proofs.Scanout.Bursts
import RasterGpu.Proofs.Scanout.Playback
import RasterGpu.Proofs.Device.Swap
import RasterGpu.Proofs.Device.Frames
import RasterGpu.Proofs.Device.Reset
import RasterGpu.Proofs.Drawing.Step
import RasterGpu.Proofs.Drawing.Coverage
import RasterGpu.Proofs.Drawing.Fate
import RasterGpu.Proofs.Drawing.Split
import RasterGpu.Proofs.Drawing.Normalization
import RasterGpu.Proofs.Drawing.Factors
import RasterGpu.Proofs.Drawing.Weights
import RasterGpu.Proofs.Drawing.Shading
import RasterGpu.Proofs.Drawing.Strip
import RasterGpu.Proofs.Drawing.Findings
import RasterGpu.Proofs.Drawing.Rectangles
import RasterGpu.Proofs.Drawing.Census
import RasterGpu.Proofs.Device.EngineProgram
import RasterGpu.Proofs.Scanout.Delivery
import RasterGpu.Proofs.Registers.History
import RasterGpu.Proofs.Registers.Readback
import RasterGpu.Proofs.Registers.Assembly
import RasterGpu.Proofs.Arbiter.Overtaking
import RasterGpu.Proofs.Scanout.Period
import RasterGpu.Proofs.Scanout.Coasting
import RasterGpu.Proofs.Device.Budget
import RasterGpu.Proofs.Device.Exclusion
import RasterGpu.Proofs.Device.InFlight
import RasterGpu.Proofs.Device.Scripts
import RasterGpu.Proofs.Device.Conservation
import RasterGpu.Proofs.Registers.Formats
import RasterGpu.Proofs.Scanout.Stretch
import RasterGpu.Proofs.Drawing.Machine
import RasterGpu.Proofs.Drawing.Ranges

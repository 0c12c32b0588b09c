import ShaderPipeline.CommandLine.Run
import ShaderPipeline.Device.Recorded
import ShaderPipeline.Device.Scripted
import ShaderPipeline.Main
import ShaderPipeline.OpenGL.Device
import ShaderPipeline.Proofs.Program.Discipline
import ShaderPipeline.Proofs.Cache.Store
import ShaderPipeline.Proofs.Program.Coherence
import ShaderPipeline.Proofs.Program.Transparency
import ShaderPipeline.Proofs.Software.Linking
import ShaderPipeline.Proofs.Dialect.Recasting
import ShaderPipeline.Proofs.Program.Handles
import ShaderPipeline.Proofs.Dialect.Passages
import ShaderPipeline.Proofs.Dialect.Forwarding
import ShaderPipeline.Proofs.Program.Wiring
import ShaderPipeline.Proofs.Cache.Cut
import ShaderPipeline.Proofs.Program.Tearing
import ShaderPipeline.Proofs.Cache.History
import ShaderPipeline.Proofs.Software.Runs
import ShaderPipeline.Proofs.Dialect.Layout
import ShaderPipeline.Proofs.Dialect.Relaying
import ShaderPipeline.Proofs.Software.Source
import ShaderPipeline.Proofs.Software.Scanning
import ShaderPipeline.Proofs.Token.Lines
import ShaderPipeline.Proofs.Program.Isolation
import ShaderPipeline.Proofs.Program.Accounting
import ShaderPipeline.Proofs.Dialect.Diagnosing
import ShaderPipeline.Proofs.Dialect.Bands
import ShaderPipeline.Proofs.Program.UniformTable
import ShaderPipeline.Proofs.Program.SamplerUnits
import ShaderPipeline.Proofs.Cache.Canonical
import ShaderPipeline.Proofs.Program.Making
import ShaderPipeline.Proofs.Program.Constants
import ShaderPipeline.Proofs.Program.NamedConstants
import ShaderPipeline.Proofs.Program.Healing
import ShaderPipeline.Proofs.Cache.Naming
import ShaderPipeline.Proofs.Software.Headers
import ShaderPipeline.Proofs.Software.Locations
import ShaderPipeline.Proofs.Token.Nesting
import ShaderPipeline.Proofs.Listing
import ShaderPipeline.Proofs.Software.Residues
import ShaderPipeline.Proofs.Software.ErrorLines
import ShaderPipeline.Proofs.Dialect.HeaderLines
import ShaderPipeline.Proofs.OpenGL.Extensions

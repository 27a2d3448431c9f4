import Downlevel.CommandLine
import Downlevel.Main
import Downlevel.Proofs.Action
import Downlevel.Proofs.Registry.Find
import Downlevel.Proofs.Resolution.Priority
import Downlevel.Proofs.Text.Joining
import Downlevel.Proofs.Text.Decoding
import Downlevel.Proofs.Host.Release
import Downlevel.Proofs.Configuration.Loading
import Downlevel.Proofs.Configuration.History
import Downlevel.Proofs.Forked.Properties
import Downlevel.Proofs.FileTree.Entry
import Downlevel.Proofs.World.Recording
import Downlevel.Proofs.ClasspathFile.Steps
import Downlevel.Proofs.ClasspathFile.Session
import Downlevel.Proofs.ClasspathFile.Pending
import Downlevel.Proofs.World.Frame
import Downlevel.Proofs.Forked.CleanUp
import Downlevel.Proofs.Resolution.Override
import Downlevel.Proofs.World.Idle
import Downlevel.Proofs.Forked.Course
import Downlevel.Proofs.Runner.Collaborators
import Downlevel.Proofs.Runner.Course
import Downlevel.Proofs.Runner.Stages
import Downlevel.Proofs.Runner.Preview
import Downlevel.Proofs.Runner.Failures
import Downlevel.Proofs.Registry.Selection
import Downlevel.Proofs.Forked.JavaCommand
import Downlevel.Proofs.Runner.Destination
import Downlevel.Proofs.World.Oblivious
import Downlevel.Proofs.Runner.Oblivious
import Downlevel.Proofs.Runner.Skipping
import Downlevel.Proofs.Text.Stripping
import Downlevel.Proofs.Version.Order
import Downlevel.Proofs.Version.Interval
import Downlevel.Proofs.Version.Exact
import Downlevel.Proofs.Version.Major
import Downlevel.Proofs.Text.Paths
import Downlevel.Proofs.Xml.Tags
import Downlevel.Proofs.Registry.Entries
import Downlevel.Proofs.Runner.Forking
import Downlevel.Proofs.Settings.Source
import Downlevel.Proofs.Settings.Precedence
import Downlevel.Proofs.CommandLine.Calls
import Downlevel.Proofs.CommandLine.Reading
import Downlevel.Proofs.Runner.Classpath
import Downlevel.Proofs.Settings.SetUp
import Downlevel.Proofs.CommandLine.Refinement
import Downlevel.Proofs.Registry.RoundTrip
import Downlevel.Proofs.Text.Occurrence
import Downlevel.Proofs.FileTree.Changes
import Downlevel.Proofs.World.Copying
import Downlevel.Proofs.Artifact.Acquisition
import Downlevel.Proofs.Runner.Validation
import Downlevel.Proofs.Artifact.Failures
import Downlevel.Proofs.Host.Ambient
import Downlevel.Proofs.Text.Lines
import Downlevel.Proofs.Forked.Output
import Downlevel.Proofs.Embedded.Invocation
import Downlevel.Proofs.FileTree.Names
import Downlevel.Proofs.Text.Encoding
import Downlevel.Proofs.ClasspathFile.Writing
import Downlevel.Proofs.FileTree.Links
import Downlevel.Proofs.Log.Filling
import Downlevel.Proofs.Logging.Handlers
import Downlevel.Proofs.Logging.Records
import Downlevel.Proofs.Logging.Reconfiguration
import Downlevel.Proofs.FileTree.Descent
import Downlevel.Proofs.Artifact.Layout

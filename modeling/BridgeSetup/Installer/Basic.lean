import BridgeSetup.FileTree.Basic
import BridgeSetup.Installer.Error
import BridgeSetup.Process.Start

/-!
# The bridge's installer

The bridge brings its own installer, a module that exists only after the binary
distribution has been unpacked. Using it takes two steps: loading makes the module
callable, and the loaded writer then writes the bridge's configuration and reports a
status. Both steps answer with a `Reply`, which depends on the arguments and the file tree
and on nothing else; in particular an installer does not look at the log. What is to be
logged before the second step is told apart from its reply, because a log that goes to a
file is part of the tree that the step meets.
-/

namespace BridgeSetup

/-- What the installer is asked to do. -/
structure WriteRequest where
  /-- The directory that receives the configuration files. -/
  outDir : Path
  /-- The Java home, or nothing to let the installer look for one. -/
  javaHome : Option Path
  /-- Whether the configuration of the Java side must succeed. -/
  requireJava : Bool
  /-- Whether the configuration of the Python side must succeed. -/
  requirePython : Bool
  deriving DecidableEq, Repr

/-- The answer of an installer: its result, the tree that it leaves, what it wants logged,
and the programs that it ran. -/
structure Reply (α : Type) where
  result : Except BridgeError α
  files : FileTree
  said : List Entry
  started : List Invocation

/-- A loaded installer. -/
structure ConfigWriter where
  /-- What is logged before the configuration is written. -/
  announcement : WriteRequest → List Entry
  /-- Writes the configuration and reports a status. -/
  write : WriteRequest → FileTree → Reply Int

/-- A way to load an installer module. -/
structure Installer where
  load : Path → FileTree → Reply ConfigWriter

end BridgeSetup

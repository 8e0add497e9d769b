import BridgeSetup.Run.Session

/-!
# The default configuration

A file with one setting, the home directory of the host application, and commented
examples of others. It is written only when there is none, unless writing is forced.
-/

namespace BridgeSetup.DefaultConfig

/-- The text of a fresh configuration; without a home directory the setting is `None`. -/
def render (home : Option String) : String :=
  "[DEFAULT]\n" ++
  "snap_home = " ++ home.getD "None" ++ "\n" ++
  "# extra_classpath: target/classes\n" ++
  "# extra_options: -Djava.awt.headless=false\n" ++
  "# max_mem: 4G\n" ++
  "# debug: False\n"

/-- Writes a fresh configuration unless there is one, and tells whether it was written. -/
def write {ε : Type} (env : Environment) (wrap : IoError → ε) (path : Path)
    (home : Option String) (force : Bool) : Task ε Bool := do
  if !force && (← Task.look (·.pathExists env.workingDirectory path)) then return false
  Task.onFiles wrap (FileTree.writeFile env.workingDirectory path
    (Bytes.ofString (render home)) env.refusals)
  return true

end BridgeSetup.DefaultConfig

import BridgeSetup.Installer.Basic
import BridgeSetup.Installer.Status

/-!
# The installer that runs in an interpreter

Loading checks that the module is there. Writing starts the interpreter with a short
script that imports the module, calls it and prints its status; the status does not
travel through the exit code, which is too narrow for it.
-/

namespace BridgeSetup.Installer

/-- What the interpreter is given to run. -/
def bootstrapScript : String :=
  "import importlib, sys, traceback\n" ++
  "module_dir, module_name, out_dir, java_home, req_java, req_py = sys.argv[1:7]\n" ++
  "sys.path.insert(0, module_dir)\n" ++
  "try:\n" ++
  "    installer = importlib.import_module(module_name)\n" ++
  "    status = installer.write_config_files(out_dir=out_dir,\n" ++
  "                                          java_home_dir=java_home or None,\n" ++
  "                                          req_java_api_conf=req_java == '1',\n" ++
  "                                          req_py_api_conf=req_py == '1')\n" ++
  "    status = int(status or 0)\n" ++
  "except BaseException:\n" ++
  "    traceback.print_exc()\n" ++
  "    sys.exit(1)\n" ++
  "sys.stdout.write('\\nJPY_STATUS=%d\\n' % status)\n" ++
  "sys.stdout.flush()"

/-- The spelling of a choice in the arguments of the script. -/
def flag (value : Bool) : String :=
  if value then "1" else "0"

/-- The diagnostic form of an optional path. -/
def optionalPath : Option Path → String
  | some path => "Some(" ++ path.quoted ++ ")"
  | none => "None"

/-- What is logged before the installer runs. -/
def announcement (command : String) (request : WriteRequest) : String :=
  "running " ++ command ++ " (out_dir='" ++ request.outDir.text ++ "', java_home=" ++
    optionalPath request.javaHome ++ ", req_java=" ++ toString request.requireJava ++
    ", req_py=" ++ toString request.requirePython ++ ")"

/-- The status of a finished installer, or why there is none. -/
def outcome (command : String) (finished : Finished) : Except BridgeError Int :=
  match Status.ofOutput (Utf8.decodeLossy finished.stdout) with
  | some status => .ok status
  | none =>
    match finished.exit.code? with
    | some code =>
      .error (.noStatus command code (Status.lastLine (Utf8.decodeLossy finished.stderr)))
    | none => .error (.terminated command)

/-- The warning about a status other than success. -/
def statusWarning (command : String) : Except BridgeError Int → List Entry
  | .ok status =>
    if status = 0 then []
    else [⟨.warning, command ++ " returned status " ++ toString status⟩]
  | .error _ => []

/-- The arguments for running a module's installer. -/
def arguments (directory : Path) (name : String) (request : WriteRequest) : List String :=
  ["-c", bootstrapScript, directory.text, name, request.outDir.text,
   (request.javaHome.map Path.text).getD "", flag request.requireJava,
   flag request.requirePython]

/-- The name under which a module's installer is mentioned in messages. -/
def commandName (name : String) : String :=
  name ++ ".write_config_files"

/-- Runs a module's installer in an interpreter. -/
def write (env : Environment) (interpreter directory : Path) (name : String)
    (request : WriteRequest) (files : FileTree) : Reply Int :=
  let command := commandName name
  let attempt := env.start files interpreter (arguments directory name request)
  match attempt.result with
  | .error error => ⟨.error (.notStarted command error), attempt.files, [], attempt.started⟩
  | .ok finished =>
    let result := outcome command finished
    ⟨result, attempt.files, finished.entries command ++ statusWarning command result,
      attempt.started⟩

/-- The installer of a module, which runs in an interpreter. -/
def writer (env : Environment) (interpreter directory : Path) (name : String) :
    ConfigWriter where
  announcement request := [⟨.info, announcement (commandName name) request⟩]
  write := write env interpreter directory name

/-- The installer that runs in an interpreter. -/
def scripted (env : Environment) (interpreter : Path) : Installer where
  load module files :=
    match module.fileStem with
    | some name =>
      if files.isFile env.workingDirectory module then
        let directory := module.parent.getD ⟨"."⟩
        let said : Entry :=
          ⟨.debug, "Loaded installer module '" ++ name ++ "' from '" ++ directory.text ++ "'"⟩
        ⟨.ok (writer env interpreter directory name), files, [said], []⟩
      else ⟨.error (.installerMissing module), files, [], []⟩
    | none => ⟨.error (.installerMissing module), files, [], []⟩

end BridgeSetup.Installer

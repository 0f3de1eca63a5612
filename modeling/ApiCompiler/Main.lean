import ApiCompiler.CommandLine.Generate

/-!
The program: the command line, carried out on the files of the machine.
-/

set_option autoImplicit false

namespace ApiCompiler.CommandLine

def notADirectoryNumber : UInt32 := 20

def faultOf : IO.Error → FileFault
  | .noFileOrDirectory .. => .notFound
  | .alreadyExists .. => .alreadyExists
  | .inappropriateType _ number _ =>
      if number = notADirectoryNumber then .notDirectory else .isDirectory
  | error => .other (toString error)

def guarded {α : Type} (action : IO α) : IO (Except FileFault α) := do
  match ← action.toBaseIO with
  | .ok result => return .ok result
  | .error error => return .error (faultOf error)

def machineFiles : FileSystem IO where
  read := fun path => guarded (return (← IO.FS.readBinFile path).toList)
  write := fun path contents => guarded (IO.FS.writeBinFile path contents.toByteArray)
  createDirectories := fun path =>
    if path.isEmpty then return .ok () else guarded (IO.FS.createDirAll path)

def usage : String :=
  "Usage: apigen generate --manifest <MANIFEST> --output-dir <OUTPUT_DIR>\n"
    ++ "    [--config <CONFIG>] [--source-file <SOURCE_FILE>] [--openapi] [--docs]\n"

/-- What a command has to say apart from its report. -/
def tell : Command → IO Unit
  | .help => IO.print usage
  | .version => IO.println "apigen 0.1.0"
  | .unusable => IO.eprint usage
  | .generate _ => return

/-- Runs the program with its arguments, and gives its exit code. -/
def execute (arguments : List String) : IO UInt32 := do
  let command := read arguments
  tell command
  let outcome ← run machineFiles command
  outcome.report.forM IO.eprint
  return outcome.code.toUInt32

end ApiCompiler.CommandLine

def main (arguments : List String) : IO UInt32 := ApiCompiler.CommandLine.execute arguments

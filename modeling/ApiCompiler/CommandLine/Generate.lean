import ApiCompiler.CommandLine.Options
import ApiCompiler.Compile
import ApiCompiler.Config.File
import ApiCompiler.Files.Path
import ApiCompiler.Manifest.File
import ApiCompiler.Text.Pieces

/-!
Generating files: the manifest and the configuration are read, compiled, and what they make is
written, one file after the other, up to the first that cannot be written.
-/

set_option autoImplicit false

namespace ApiCompiler.CommandLine

/-- What was being done when something went wrong, and why, outermost cause first. -/
structure Failure where
  attempt : String
  causes : List String
  deriving DecidableEq, Repr

namespace Failure

def ofError (attempt : String) (error : Error) : Failure :=
  ⟨attempt, error.message :: error.source?.toList⟩

def ofFile (attempt : String) (fault : FileFault) : Failure := ⟨attempt, [fault.message]⟩

/-- Puts more lines of a text below its first one. -/
def indented (indentation text : String) : String :=
  ("\n" ++ indentation).intercalate ((Text.pieces (· = '\n') text.toList).map String.ofList)

def numberedCauses : (number : Nat) → List String → List String
  | _, [] => []
  | number, cause :: rest =>
      ("    " ++ toString number ++ ": " ++ indented "       " cause)
        :: numberedCauses (number + 1) rest

def causeLines : List String → List String
  | [cause] => ["    " ++ indented "    " cause]
  | causes => numberedCauses 0 causes

def report (failure : Failure) : String :=
  "Error: " ++ failure.attempt ++ "\n\nCaused by:\n"
    ++ "\n".intercalate (causeLines failure.causes) ++ "\n"

end Failure

variable {m : Type → Type} [Monad m]

abbrev Action (m : Type → Type) (α : Type) := ExceptT Failure m α

def attempting {α : Type} (attempt : String) (result : m (Except Error α)) : Action m α :=
  ExceptT.mk (return (← result).mapError (Failure.ofError attempt))

def attemptingFile {α : Type} (attempt : String) (result : m (Except FileFault α)) :
    Action m α :=
  ExceptT.mk (return (← result).mapError (Failure.ofFile attempt))

def loadConfig (files : FileSystem m) : Option String → Action m Config
  | none => return {}
  | some path => attempting ("Failed to load config " ++ path) (Config.load files path)

def Options.adjust (options : Options) (config : Config) : Config :=
  { config with
    openapiEnabled := config.openapiEnabled || options.openapi
    docsUiEnabled := config.docsUiEnabled || options.docs }

/-- The files of a compilation, in the order in which they are written. -/
def outputs (options : Options) (config : Config) (artifacts : Artifacts) : List BundleFile :=
  ⟨options.sourceFile, artifacts.source⟩
    :: (artifacts.openapi.map fun text => (⟨config.openapiOutput, text⟩ : BundleFile)).toList
    ++ artifacts.docs.getD []

def createParent (files : FileSystem m) (path : String) : Action m Unit :=
  match Path.parent? path with
  | none => return
  | some parent =>
      attemptingFile ("Failed to create directory " ++ parent) (files.createDirectories parent)

def writeOutput (files : FileSystem m) (directory : String) (file : BundleFile) :
    Action m Unit := do
  let path := Path.join directory file.path
  createParent files path
  attemptingFile ("Failed to write " ++ path) (files.writeText path file.contents)

def writeOutputs (files : FileSystem m) (directory : String) : List BundleFile → Action m Unit
  | [] => return
  | file :: rest => do
      writeOutput files directory file
      writeOutputs files directory rest

def generate (files : FileSystem m) (options : Options) : Action m Unit := do
  let manifest ← attempting ("Failed to load manifest " ++ options.manifest)
    (Manifest.load files options.manifest)
  let config := options.adjust (← loadConfig files options.config)
  let artifacts ← attempting ("Failed to compile " ++ options.manifest)
    (return compile manifest config)
  writeOutputs files options.outputDir (outputs options config artifacts)

/-- How a run ends: with a code, and a report if it has failed. -/
structure Outcome where
  code : Nat
  report : Option String
  deriving DecidableEq, Repr

def run (files : FileSystem m) : Command → m Outcome
  | .help => return ⟨0, none⟩
  | .version => return ⟨0, none⟩
  | .unusable => return ⟨2, none⟩
  | .generate options => do
      match ← (generate files options).run with
      | .ok () => return ⟨0, none⟩
      | .error failure => return ⟨1, some failure.report⟩

end ApiCompiler.CommandLine

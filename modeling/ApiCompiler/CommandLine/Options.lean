/-!
The command line: a command and its options. Arguments are read from left to right, and the first
that is wrong, or asks for help, ends the reading.
-/

set_option autoImplicit false

namespace ApiCompiler.CommandLine

/-- What to generate, from which files, and where. -/
structure Options where
  manifest : String
  config : Option String
  outputDir : String
  /-- The name of the routes module's file. -/
  sourceFile : String
  /-- Write the document even if the configuration does not say so. -/
  openapi : Bool
  docs : Bool
  deriving DecidableEq, Repr

inductive Command
  | help
  | version
  | generate (options : Options)
  /-- The arguments make no sense. -/
  | unusable
  deriving DecidableEq, Repr

def defaultSourceFile : String := "routes.rs"

structure Given where
  manifest : Option String := none
  config : Option String := none
  outputDir : Option String := none
  sourceFile : Option String := none
  openapi : Bool := false
  docs : Bool := false

inductive ValueOption
  | manifest
  | config
  | outputDir
  | sourceFile
  deriving DecidableEq, Repr

inductive Switch
  | openapi
  | docs
  deriving DecidableEq, Repr

def ValueOption.ofName? : String → Option ValueOption
  | "manifest" => some manifest
  | "config" => some config
  | "output-dir" => some outputDir
  | "source-file" => some sourceFile
  | _ => none

def Switch.ofName? : String → Option Switch
  | "openapi" => some openapi
  | "docs" => some docs
  | _ => none

/-- Sets what has not been set. -/
def once (old : Option String) (value : String) : Option (Option String) :=
  if old.isSome then none else some (some value)

/-- A path is not empty. -/
def path? (value : String) : Option String := if value.isEmpty then none else some value

namespace Given

def setValue (given : Given) (value : String) : ValueOption → Option Given
  | .manifest => do return { given with manifest := ← once given.manifest (← path? value) }
  | .config => do return { given with config := ← once given.config (← path? value) }
  | .outputDir => do return { given with outputDir := ← once given.outputDir (← path? value) }
  | .sourceFile => do return { given with sourceFile := ← once given.sourceFile value }

def setSwitch (given : Given) : Switch → Option Given
  | .openapi => if given.openapi then none else some { given with openapi := true }
  | .docs => if given.docs then none else some { given with docs := true }

/-- The options, if those that must be given are. -/
def finish (given : Given) : Command :=
  match given.manifest, given.outputDir with
  | some manifest, some outputDir =>
      .generate {
        manifest
        config := given.config
        outputDir
        sourceFile := given.sourceFile.getD defaultSourceFile
        openapi := given.openapi
        docs := given.docs }
  | _, _ => .unusable

end Given

/-- An argument by its form. -/
inductive Argument
  | long (name : String) (value : Option String)
  /-- The characters behind a single hyphen. -/
  | short (letters : List Char)
  /-- Two hyphens alone. -/
  | endOfOptions
  | plain (text : String)
  deriving DecidableEq, Repr

def Argument.ofText (text : String) : Argument :=
  match text.toList with
  | ['-', '-'] => .endOfOptions
  | '-' :: '-' :: rest =>
      let name := String.ofList (rest.takeWhile (· ≠ '='))
      match rest.dropWhile (· ≠ '=') with
      | [] => .long name none
      | _ :: value => .long name (some (String.ofList value))
  | '-' :: letter :: letters => .short (letter :: letters)
  | _ => .plain text

mutual

def readOptions : Given → List String → Command
  | given, [] => given.finish
  | given, argument :: rest =>
      match Argument.ofText argument with
      | .long name value => readLong given name value rest
      | .short ('h' :: _) => .help
      | .endOfOptions => if rest.isEmpty then given.finish else .unusable
      | _ => .unusable

def readLong (given : Given) (name : String) (value : Option String) (rest : List String) :
    Command :=
  match ValueOption.ofName? name, value, rest with
  | some option, some value, rest =>
      match given.setValue value option with
      | some given => readOptions given rest
      | none => .unusable
  | some option, none, next :: rest =>
      match Argument.ofText next, given.setValue next option with
      | .plain _, some given => readOptions given rest
      | _, _ => .unusable
  | some _, none, [] => .unusable
  | none, value, rest =>
      match Switch.ofName? name, value with
      | some switch, none =>
          match given.setSwitch switch with
          | some given => readOptions given rest
          | none => .unusable
      | _, _ => if name = "help" ∧ value.isNone then .help else .unusable

end

def readHelp : List String → Command
  | [] => .help
  | ["generate"] => .help
  | ["help"] => .help
  | _ => .unusable

def read : List String → Command
  | [] => .unusable
  | "generate" :: rest => readOptions {} rest
  | "help" :: rest => readHelp rest
  | argument :: _ =>
      match Argument.ofText argument with
      | .long "help" none => .help
      | .long "version" none => .version
      | .short ('h' :: _) => .help
      | .short ('V' :: _) => .version
      | _ => .unusable

end ApiCompiler.CommandLine

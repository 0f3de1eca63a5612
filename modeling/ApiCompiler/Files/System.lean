import ApiCompiler.Error
import ApiCompiler.Text.Utf8

/-!
The operations on files that the program needs.
-/

set_option autoImplicit false

namespace ApiCompiler

structure FileSystem (m : Type → Type) where
  read : (path : String) → m (Except FileFault (List UInt8))
  write : (path : String) → (contents : List UInt8) → m (Except FileFault Unit)
  /-- Makes a directory and those that it lies in, if they are missing. -/
  createDirectories : (path : String) → m (Except FileFault Unit)

variable {m : Type → Type} [Monad m]

def FileSystem.readText (files : FileSystem m) (path : String) : m (Except Error String) := do
  match ← files.read path with
  | .error fault => return .error (.io fault)
  | .ok bytes =>
      match Text.ofUtf8? bytes with
      | some text => return .ok text
      | none => return .error (.io .notText)

def FileSystem.writeText (files : FileSystem m) (path text : String) :
    m (Except FileFault Unit) :=
  files.write path (Text.toUtf8 text)

end ApiCompiler

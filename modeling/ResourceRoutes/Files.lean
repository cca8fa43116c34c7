set_option autoImplicit false

namespace ResourceRoutes

inductive FileFault where
  | missing
  | notDirectory
  | isDirectory
  | nameTooLong
  | nameWithNul
  | notText
  | refused (reason : String)
deriving DecidableEq, Repr

namespace FileFault

def message : FileFault → String
  | .missing => "No such file or directory (os error 2)"
  | .notDirectory => "Not a directory (os error 20)"
  | .isDirectory => "Is a directory (os error 21)"
  | .nameTooLong => "File name too long (os error 36)"
  | .nameWithNul => "file name contained an unexpected NUL byte"
  | .notText => "stream did not contain valid UTF-8"
  | .refused reason => reason

end FileFault

structure FileAccess (m : Type → Type) where
  readText : String → m (Except FileFault String)
  writeText : String → String → m (Except FileFault Unit)

end ResourceRoutes

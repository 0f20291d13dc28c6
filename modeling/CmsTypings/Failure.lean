import CmsTypings.Json.Error

/-!
The causes for which a run fails. Faults inside the schemas are none of them: they only make the
module poorer.
-/

namespace CmsTypings

/-- What a file system answers when it refuses. -/
inductive IoFault where
  | notFound | exists | notADirectory | isADirectory | notUtf8 | nameTooLong | nulInPath
  | other (text : String)
deriving DecidableEq, Repr

def IoFault.message : IoFault → String
  | .notFound => "No such file or directory (os error 2)"
  | .exists => "File exists (os error 17)"
  | .notADirectory => "Not a directory (os error 20)"
  | .isADirectory => "Is a directory (os error 21)"
  | .nameTooLong => "File name too long (os error 36)"
  | .nulInPath => "file name contained an unexpected NUL byte"
  | .other text => text
  | .notUtf8 => "stream did not contain valid UTF-8"

inductive Failure where
  | notADump
  | json (error : Json.Error)
  | io (fault : IoFault)
  | formatter (reason : String)

def Failure.message : Failure → String
  | .notADump =>
    "Invalid schema input: expected an object with `contentTypes` and `components`"
  | .json e => "JSON error: " ++ e.message
  | .io f => "IO error: " ++ f.message
  | .formatter reason => "Formatter failed: " ++ reason

end CmsTypings

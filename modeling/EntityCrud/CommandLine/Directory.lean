/-! Reading a file as text. A directory that holds only plain files answers a path with the
bytes of a file or with the reason why there are none. -/
namespace EntityCrud.CommandLine

/-- Why a file cannot be read as text. -/
inductive FileFault where
  | notFound
  | isDirectory
  | notADirectory
  | nameTooLong
  | nulInPath
  | notText
  /-- Any other reason, in the words of the operating system. -/
  | other (text : String)
  deriving DecidableEq, Repr

namespace FileFault

def message : FileFault → String
  | .notFound => "No such file or directory (os error 2)"
  | .isDirectory => "Is a directory (os error 21)"
  | .notADirectory => "Not a directory (os error 20)"
  | .nameTooLong => "File name too long (os error 36)"
  | .nulInPath => "file name contained an unexpected NUL byte"
  | .notText => "stream did not contain valid UTF-8"
  | .other text => text

end FileFault

def decodeText (bytes : ByteArray) : Except FileFault String :=
  match String.fromUTF8? bytes with
  | some s => .ok s
  | none => .error .notText

abbrev Directory := List (String × ByteArray)

namespace Directory

/-- The greatest number of bytes in a part of a path and in a whole path. -/
def nameLimit : Nat := 255

def pathLimit : Nat := 4095

/-- A part of a path that names something, rather than stay where it is or go up. -/
def isName (part : String) : Bool := !(part == "" || part == "." || part == "..")

/-- Why a path finds no file outside the directory, where nothing is known but the way up: the
first name on it is missing, and without one the path ends at a directory. -/
def outside (parts : List String) : FileFault :=
  match parts.find? isName with
  | none => .isDirectory
  | some name => if nameLimit < name.utf8ByteSize then .nameTooLong else .notFound

/-- Follows the parts of a path, of which empty ones and dots stay where they are. -/
def follow (files : Directory) : List String → Except FileFault ByteArray
  | [] => .error .isDirectory
  | part :: rest =>
    if part = "" ∨ part = "." then follow files rest
    else if part = ".." then .error (outside rest)
    else if nameLimit < part.utf8ByteSize then .error .nameTooLong
    else match files.lookup part with
      | none => .error .notFound
      | some bytes => if rest.isEmpty then .ok bytes else .error .notADirectory

/-- The bytes at a path that starts from the directory. -/
def bytes (files : Directory) (path : String) : Except FileFault ByteArray :=
  if path.toList.contains '\x00' then .error .nulInPath
  else if path = "" then .error .notFound
  else if pathLimit < path.utf8ByteSize then .error .nameTooLong
  else
    match (path.toList.splitOn '/').map String.ofList with
    | "" :: rest => .error (outside rest)
    | parts => follow files parts

def text (files : Directory) (path : String) : Except FileFault String :=
  (files.bytes path).bind decodeText

end Directory
end EntityCrud.CommandLine

/-! Reading files by name. A folder is a list of files with their contents; names may lead through
folders of their own. -/

namespace RuleTree.Cli

/-- Why a file cannot be read as text. -/
inductive ReadFailure where
  | notFound
  | notFolder
  | isFolder
  | notText
  | badName
  /-- Any other failure, in the words of the system. -/
  | other (text : String)
deriving DecidableEq, Repr

def ReadFailure.message : ReadFailure → String
  | notFound => "No such file or directory (os error 2)"
  | notFolder => "Not a directory (os error 20)"
  | isFolder => "Is a directory (os error 21)"
  | notText => "stream did not contain valid UTF-8"
  | badName => "file name contained an unexpected NUL byte"
  | other text => text

/-- Reads bytes as text. -/
def textOf (bytes : ByteArray) : Except ReadFailure String :=
  match String.fromUTF8? bytes with
  | some s => .ok s
  | none => .error .notText

/-- Files by their names relative to a working folder. -/
structure Folder where
  files : List (String × ByteArray)

namespace Folder

/-- The parts of a name; empty parts and single points lead nowhere. -/
def parts (name : String) : List String :=
  ((name.toList.splitOn '/').map String.ofList).filter fun p => p != "" && p != "."

/-- The bytes of the file with the given name. -/
def read (f : Folder) (name : String) : Except ReadFailure ByteArray :=
  let wanted := parts name
  let isRooted := name.toList.head? == some '/'
  let asksFolder := match name.toList.reverse with
    | '/' :: _ => true
    | '.' :: '/' :: _ => true
    | _ => false
  if name.toList.contains '\x00' then .error .badName
  else if name.isEmpty then .error .notFound
  else if wanted.isEmpty then .error .isFolder
  else if isRooted then .error .notFound
  else match f.files.find? fun file => parts file.1 == wanted with
    | some (_, bytes) => if asksFolder then .error .notFolder else .ok bytes
    | none =>
      if f.files.any fun file => wanted.isPrefixOf (parts file.1) then .error .isFolder
      else if f.files.any fun file => (parts file.1).isPrefixOf wanted then .error .notFolder
      else .error .notFound

end Folder

end RuleTree.Cli

/-!
Where the user's settings file is, and what its name says about its notation. Paths are texts whose
parts are separated by slashes.
-/
namespace Filing.Location

/-- Appends a part, with a slash between unless the base brings one. -/
def join (base part : String) : String :=
  match base.toList.getLast? with
  | none => part
  | some '/' => base ++ part
  | some _ => base ++ "/" ++ part

def isAbsolute (path : String) : Bool := path.toList.head? = some '/'

/--
The settings file in the configuration directory: the one that the environment names, if it does so
by an absolute path, and otherwise the usual one in the home directory.
-/
def settingsFile (home : String) (configHome : Option String) : String :=
  let directory := (configHome.filter isAbsolute).getD (join home ".config")
  join (join directory "grove") "grove.toml"

/-- What follows the last dot of a file name; a dot at the very start begins no extension. -/
def fileExtension? (name : String) : Option String :=
  let reversed := name.toList.reverse
  match reversed.dropWhile (· ≠ '.') with
  | [] | [_] => none
  | _ :: _ => if name = ".." then none else some (String.ofList (reversed.takeWhile (· ≠ '.')).reverse)

end Filing.Location

import Calculator.Text.Blank

/-!
# Files

What can go wrong with a file, and a directory of files kept as a value.
-/

namespace Calculator

inductive FileError where
  | notFound
  | notDirectory
  | isDirectory
  | nameTooLong
  | notUnicode
  | other (reason : Text)
deriving DecidableEq, Repr

def FileError.message : FileError → Text
  | notFound => "No such file or directory (os error 2)".toList
  | notDirectory => "Not a directory (os error 20)".toList
  | isDirectory => "Is a directory (os error 21)".toList
  | nameTooLong => "File name too long (os error 36)".toList
  | notUnicode => "stream did not contain valid UTF-8".toList
  | other reason => reason

/-- Files by their paths; a folder exists if a file lies in it. -/
abbrev Directory := List (Text × Text)

namespace Directory

/-! ## Routes -/

/-- The names on the way to a file or folder, from the working directory or, behind a slash, from the
root. -/
abbrev Route := List Text

def root : Text := ['/']

/-- A name that stays in a folder. -/
def isHere (name : Text) : Bool := name == [] || name == ['.']

def above : Text := ['.', '.']

def start (path : Text) : Route := if path.head? = some '/' then [root] else []

/-- The route that a path of plain names writes. -/
def routeOf (path : Text) : Route := start path ++ (pieces '/' path).filter (!isHere ·)

/-- The folder above a folder. The root is above itself. -/
def parent (route : Route) : Route :=
  if route = [root] then route
  else if route.all (· == above) then route ++ [above]
  else route.dropLast

/-! ## Files and folders -/

def fileAt (d : Directory) (route : Route) : Option Text := (d.find? fun file => routeOf file.1 == route).map (·.2)

/-- A route leads to a folder if a file lies beyond it. The root, the working directory and those above it
exist. -/
def isFolder (d : Directory) (route : Route) : Bool :=
  route == [root] || route.all (· == above) ||
    d.any fun file => route.isPrefixOf (routeOf file.1) && routeOf file.1 != route

/-- Goes on from a folder by a name of at most 255 bytes. -/
def go (d : Directory) (route : Route) (name : Text) : Except FileError Route :=
  if !d.isFolder route then .error (if (d.fileAt route).isSome then .notDirectory else .notFound)
  else if isHere name then .ok route
  else if name = above then .ok (parent route)
  else if 255 < byteSize name then .error .nameTooLong
  else .ok (route ++ [name])

/-- Follows a path of at most 4095 bytes, up to its last name. -/
def approach (d : Directory) (path : Text) : Except FileError Route :=
  if path = [] then .error .notFound
  else if 4095 < byteSize path then .error .nameTooLong
  else (pieces '/' path).dropLast.foldlM d.go (start path)

/-- The last name of a path; it is empty behind a slash. -/
def lastName (path : Text) : Text := (pieces '/' path).getLastD []

def read (d : Directory) (path : Text) : Except FileError Text := do
  let route ← d.go (← d.approach path) (lastName path)
  if d.isFolder route then throw .isDirectory
  match d.fileAt route with
  | some content => return content
  | none => throw .notFound

/-- A path without slashes at its end. -/
def bare (path : Text) : Text := (path.reverse.dropWhile (· = '/')).reverse

/-- Writes the file at a path, in a folder that exists. A slash at the end of the path asks for a folder. -/
def write (d : Directory) (path content : Text) : Except FileError Directory := do
  if bare path = [] then throw .isDirectory
  let name := lastName (bare path)
  let route ← d.go (← d.approach (bare path)) name
  if bare path ≠ path ∨ isHere name ∨ name = above ∨ d.isFolder route then throw .isDirectory
  return (['/'].intercalate route, content) :: d.filter fun file => routeOf file.1 != route

end Directory

end Calculator

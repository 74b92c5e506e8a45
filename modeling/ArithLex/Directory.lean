import ArithLex.AccessError
import ArithLex.Text.Bytes

set_option autoImplicit false

/-! Files, folders, and the paths that lead to them. Files are plain ones, which hold what was
written to them: devices and pipes are left out. There are no links, so every file has one place, and
nothing is kept from being read or written. -/
namespace ArithLex

/-- What a path can lead to. -/
inductive Node where
  | file (bytes : List UInt8)
  | folder
deriving DecidableEq

def Node.isFile : Node → Bool
  | file _ => true
  | folder => false

/-- Nodes by their places, and the place that a run works at. A place is given by the names on the
way from the root. -/
structure Directory where
  working : List String
  entries : List (List String × Node)
deriving DecidableEq

namespace Directory

/-- Nothing but the working directory, and what it takes to have one. -/
def emptyAt (working : List String) : Directory := ⟨working, []⟩

def empty : Directory := emptyAt ["work"]

/-- The place is the working directory or above it. -/
def holdsWorking (directory : Directory) (place : List String) : Bool :=
  place.isPrefixOf directory.working

def node? (directory : Directory) (place : List String) : Option Node :=
  if directory.holdsWorking place then some .folder
  else (directory.entries.find? (·.1 == place)).map (·.2)

def put (directory : Directory) (place : List String) (node : Node) : Directory :=
  { directory with entries := (place, node) :: directory.entries.filter (·.1 != place) }

/-- The names of a path; a slash at either end gives an empty one. -/
def names (path : String) : List String :=
  (path.toList.splitOn '/').map String.ofList

/-- Names above this many bytes are refused. -/
def maxName : Nat := 255

/-- Paths of this many bytes and more are refused. -/
def maxPath : Nat := 4096

/-- Where a path led. -/
structure Target where
  place : List String
  node : Node
deriving DecidableEq

/-- One name further from a folder. -/
def enter (directory : Directory) (folder : List String) (name : String) :
    Except AccessError Target :=
  if name = "" ∨ name = "." then .ok ⟨folder, .folder⟩
  -- above the root is the root
  else if name = ".." then .ok ⟨folder.dropLast, .folder⟩
  else if maxName < name.utf8ByteSize then .error .nameTooLong
  else
    let place := folder ++ [name]
    match directory.node? place with
    | some node => .ok ⟨place, node⟩
    | none => .error .notFound

/-- All names further from a folder. Only the last of them may lead to a file. -/
def walk (directory : Directory) (folder : List String) : List String → Except AccessError Target
  | [] => .ok ⟨folder, .folder⟩
  | name :: rest =>
    match directory.enter folder name with
    | .error cause => .error cause
    | .ok ⟨place, .folder⟩ => directory.walk place rest
    | .ok ⟨place, .file bytes⟩ =>
      if rest.isEmpty then .ok ⟨place, .file bytes⟩ else .error .notDirectory

def checkPath (path : String) : Except AccessError Unit :=
  if '\x00' ∈ path.toList then .error .nulInName
  else if path = "" then .error .notFound
  else if maxPath ≤ path.utf8ByteSize then .error .nameTooLong
  else .ok ()

/-- The folder that a path starts from. -/
def origin (directory : Directory) (path : String) : List String :=
  if path.toList.head? = some '/' then [] else directory.working

def resolve (directory : Directory) (path : String) : Except AccessError Target := do
  checkPath path
  directory.walk (directory.origin path) (names path)

def reaches (directory : Directory) (path : String) : Bool :=
  (directory.resolve path).isOk

def read (directory : Directory) (path : String) : Except AccessError (List UInt8) := do
  match (← directory.resolve path).node with
  | .file bytes => .ok bytes
  | .folder => .error .isDirectory

def readText (directory : Directory) (path : String) : Except AccessError String := do
  let bytes ← directory.read path
  match Text.decode? bytes with
  | some text => .ok text
  | none => .error .notText

/-- Opens the file that the path leads to for writing at its end, and makes it if its folder is
there without it. Gives back its place. -/
def openEnd (directory : Directory) (path : String) :
    Except AccessError (Directory × List String) := do
  checkPath path
  let backward := (names path).reverse
  match backward.dropWhile (· == "") with
  | [] => .error .isDirectory
  | last :: before =>
    let ⟨folder, node⟩ ← directory.walk (directory.origin path) before.reverse
    if node ≠ .folder then .error .notDirectory
    -- a path that can only mean a folder makes no file
    else if backward.head? = some "" ∨ last = "." ∨ last = ".." then .error .isDirectory
    else match directory.enter folder last with
      | .ok ⟨place, .file _⟩ => .ok (directory, place)
      | .ok ⟨_, .folder⟩ => .error .isDirectory
      | .error .notFound => .ok (directory.put (folder ++ [last]) (.file []), folder ++ [last])
      | .error cause => .error cause

/-- Writes at the end of the file at a place. -/
def append (directory : Directory) (place : List String) (bytes : List UInt8) : Directory :=
  match directory.node? place with
  | some (.file old) => directory.put place (.file (old ++ bytes))
  | _ => directory

/-- The place that a path spells, whether anything is there or not. -/
def spelled (directory : Directory) (path : String) : List String :=
  (names path).foldl
    (fun place name =>
      if name = "" ∨ name = "." then place
      else if name = ".." then place.dropLast
      else place ++ [name])
    (directory.origin path)

/-- Something at the place is of the other kind. -/
def holdsOther (directory : Directory) (place : List String) (isFile : Bool) : Bool :=
  (directory.node? place).any (·.isFile != isFile)

/-- Puts a node where the path leads, and folders on the way to it. A folder does not make room for
a file, nor a file for a folder. -/
def make (directory : Directory) (path : String) (node : Node) : Directory :=
  let place := directory.spelled path
  let folders := (List.range place.length).map fun n => place.take n
  if directory.holdsOther place node.isFile || folders.any (directory.holdsOther · false) then
    directory
  else
    let cleared := folders.foldl (fun d folder => d.put folder .folder) directory
    cleared.put place node

/-- Removes the file that the path leads to; a folder stays. -/
def remove (directory : Directory) (path : String) : Directory :=
  match directory.resolve path with
  | .ok ⟨place, .file _⟩ =>
    { directory with entries := directory.entries.filter (·.1 != place) }
  | _ => directory

end Directory
end ArithLex

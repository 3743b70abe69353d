import Marquee.Link.Sink
import Marquee.Session

/-! A host that is little more than a directory of files. Settings are read from it, a serial link
writes over a file in it, and what goes to the standard output is kept beside it. Of the rest of the
system it has the devices that never fail or always do. -/

namespace Marquee

/-- A file or a directory by its name. A name may have parts, and then the directories on the way
are there as well. -/
structure Directory where
  files : List (String × Bytes) := []
  directories : List String := []

namespace Directory

/-- What a path leads to. -/
inductive Place
  | directory
  | file (name : String) (contents : Bytes)
  /-- Always empty, and takes everything. -/
  | void
  /-- Takes nothing. -/
  | full
  /-- The standard output. -/
  | output
  deriving DecidableEq

/-- What there is outside, by its path from the top. -/
def system : List (String × Place) := [
  ("", .directory), ("dev", .directory), ("etc", .directory), ("home", .directory),
  ("proc", .directory), ("root", .directory), ("tmp", .directory), ("usr", .directory),
  ("var", .directory), ("dev/null", .void), ("dev/zero", .void), ("dev/full", .full),
  ("dev/stdout", .output)]

def longestName : Nat := 255
def longestPath : Nat := 4095

def joined (parts : List String) : String := "/".intercalate parts

def holds (directory : Directory) (parts : List String) : Bool :=
  let within := fun name => (joined parts ++ "/").isPrefixOf name
  joined parts ∈ directory.directories || directory.directories.any within ||
    directory.files.any fun file => within file.1

/-- A part that leads nowhere else. -/
def isIdle (part : String) : Bool := part.isEmpty || part == "."

/-- Nothing but a directory can be named with a slash behind it. -/
def outside (parts : List String) : Except IoFault Place :=
  match system.lookup (joined (parts.filter (!isIdle ·))) with
  | none => .error .notFound
  | some .directory => .ok .directory
  | some place => if parts.getLast?.any isIdle then .error .notDirectory else .ok place

/-- Follows the parts of a path from a directory in the directory. Above it only the directories on
the way up can be seen. -/
def follow (directory : Directory) (here : List String) : List String → Except IoFault Place
  | [] => .ok .directory
  | ".." :: rest =>
    if here ≠ [] then directory.follow here.dropLast rest
    else if rest.all fun part => isIdle part || part == ".." then .ok .directory
    else .error .notFound
  | part :: rest =>
    if isIdle part then directory.follow here rest
    else if longestName < part.utf8ByteSize then .error .nameTooLong
    else
      let there := here ++ [part]
      match directory.files.lookup (joined there) with
      | some contents =>
        if rest = [] then .ok (.file (joined there) contents) else .error .notDirectory
      | none => if directory.holds there then directory.follow there rest else .error .notFound

def find (directory : Directory) (path : String) : Except IoFault Place :=
  if '\x00' ∈ path.toList then .error .nulInName
  else if path.isEmpty then .error .notFound
  else if longestPath < path.utf8ByteSize then .error .nameTooLong
  else if "/".isPrefixOf path then outside (path.splitOn "/")
  else directory.follow [] (path.splitOn "/")

def read (directory : Directory) (path : String) : Except IoFault Bytes := do
  match ← directory.find path with
  | .file _ contents => .ok contents
  | .directory => .error .isDirectory
  | _ => .ok []

/-- Bytes go over the old ones from the front, and what they do not reach stays. -/
def overwrite (directory : Directory) (name : String) (bytes : Bytes) : Directory :=
  { directory with files := directory.files.map fun file =>
      if file.1 = name then (name, bytes ++ file.2.drop bytes.length) else file }

def connect (directory : Directory) : Target → Except LinkFault Sink.Opened
  | .usb vendor product => .error (.deviceNotFound vendor product)
  | .serial path =>
    match directory.find path with
    | .error fault => .error (.io fault)
    | .ok .directory => .error (.io .isDirectory)
    | .ok .full => .ok { sink := { capacity := some 0, refusal := .fail .noSpace } }
    | .ok _ => .ok {}
  | .stdout => .ok {}

def host (directory : Directory) : Host Sink.Opened where
  read := directory.read
  connect := directory.connect
  link := Sink.Opened.writer.link

/-- What is shown of the bytes that a target took, and the directory after them. -/
def receive (directory : Directory) (target : Target) (bytes : Bytes) : Bytes × Directory :=
  match target with
  | .usb _ _ => ([], directory)
  | .stdout => (bytes, directory)
  | .serial path =>
    match directory.find path with
    | .ok .output => (bytes, directory)
    | .ok (.file name _) => ([], directory.overwrite name bytes)
    | _ => ([], directory)

end Directory
end Marquee

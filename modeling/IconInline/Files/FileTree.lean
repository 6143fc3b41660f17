import IconInline.Files.FileSystem

/-!
# File trees

A tree of files and directories as a value, and the file system that it makes up. Either the tree is
all there is, and relative paths begin at some place in it, or it is what lies below the place where
relative paths begin, and nothing outside of it can be reached.
-/

namespace IconInline

/-- What a file holds. -/
inductive FileContent where
  | text (s : String)
  /-- Bytes that are no text. -/
  | binary (bytes : List UInt8)
  deriving DecidableEq, Repr

/-- The content of a file with a text behind it. -/
def FileContent.append (s : String) : FileContent → FileContent
  | text before => text (before ++ s)
  | binary bytes => binary (bytes ++ s.toUTF8.toList)

/-- The place of a file or directory: the names on the way from the root. -/
abbrev Location := List (List Char)

/-- A tree of files and directories. The root is always there. -/
structure FileTree where
  files : List (Location × FileContent) := []
  directories : List Location := []
  /-- Where relative paths begin, if the tree is all there is. -/
  home : Option Location := none
  deriving DecidableEq, Repr

namespace FileTree

/-- What a path leads to. -/
inductive Spot where
  | file (location : Location) (content : FileContent)
  | directory (location : Location)
  /-- Nothing, but a file or directory could be created here. -/
  | vacant (location : Location)
  deriving DecidableEq, Repr

/-- The content of the file at a place. -/
def content? (tree : FileTree) (location : Location) : Option FileContent :=
  tree.files.lookup location

/-- Is there a directory at a place? -/
def hasDirectory (tree : FileTree) (location : Location) : Bool :=
  location.isEmpty || tree.directories.contains location

/-- Where relative paths begin. -/
def start (tree : FileTree) : Location := tree.home.getD []

/-- Where absolute paths begin, unless they lead out of the tree. -/
def root? (tree : FileTree) : Option Location := tree.home.map fun _ => []

/-- The place above another one. Above the root there is the root itself, or nothing in the tree. -/
def above? (tree : FileTree) (location : Location) : Option Location :=
  if location.isEmpty then tree.root? else some location.dropLast

/-- Follows components from a directory. -/
def follow (tree : FileTree) : List Path.Component → Location → Except FileFault Spot
  | [], location => .ok (.directory location)
  | .root :: rest, _ =>
    match tree.root? with
    | some root => tree.follow rest root
    | none => .error .notFound
  | .here :: rest, location => tree.follow rest location
  | .up :: rest, location =>
    match tree.above? location with
    | some above => tree.follow rest above
    | none => .error .notFound
  | .name n :: rest, location =>
    let next := location ++ [n]
    if tree.hasDirectory next then tree.follow rest next
    else
      match tree.content? next with
      | some content =>
        if rest.isEmpty then .ok (.file next content) else .error .notDirectory
      | none => if rest.isEmpty then .ok (.vacant next) else .error .notFound

/-- Must a path lead to a directory, because something follows its last name? -/
def mustBeDirectory (p : Path) : Bool :=
  Path.dropEmptyPieces p.chars.reverse != p.chars.reverse

/-- What a path leads to. -/
def find (tree : FileTree) (p : Path) : Except FileFault Spot :=
  if p.chars = [] then .error .notFound
  else
    match tree.follow p.components tree.start with
    | .ok (.file location content) =>
      if mustBeDirectory p then .error .notDirectory else .ok (.file location content)
    | found => found

/-- What stands at a path. -/
def kind? (tree : FileTree) (p : Path) : Option FileKind :=
  match tree.find p with
  | .ok (.file ..) => some .file
  | .ok (.directory _) => some .directory
  | _ => none

/-- The text of the file at a path. -/
def read (tree : FileTree) (p : Path) : Except FileFault String :=
  match tree.find p with
  | .ok (.file _ (.text s)) => .ok s
  | .ok (.file _ (.binary _)) => .error .notText
  | .ok (.directory _) => .error .isDirectory
  | .ok (.vacant _) => .error .notFound
  | .error fault => .error fault

/-- The paths of the files below the directory at a path. -/
def filesBelow (tree : FileTree) (p : Path) : Except FileFault (List Path) :=
  match tree.find p with
  | .ok (.directory location) =>
    .ok ((tree.files.filter fun f => location.isPrefixOf f.1).map fun f =>
      (f.1.drop location.length).foldl Path.push p)
  | .ok (.file ..) => .ok [p]
  | .ok (.vacant _) => .error .notFound
  | .error fault => .error fault

/-- Puts a content at a place, in the stead of a content that is there. -/
def put (location : Location) (content : FileContent) :
    List (Location × FileContent) → List (Location × FileContent)
  | [] => [(location, content)]
  | (l, c) :: rest =>
    if l = location then (location, content) :: rest else (l, c) :: put location content rest

/-- Changes the content of the file at a path; `change` is given what is there. -/
def store (tree : FileTree) (p : Path) (change : Option FileContent → FileContent) :
    Except FileFault FileTree :=
  match tree.find p with
  | .ok (.file location content) =>
    .ok { tree with files := put location (change (some content)) tree.files }
  | .ok (.directory _) => .error .isDirectory
  | .ok (.vacant location) =>
    if mustBeDirectory p then .error .isDirectory
    else .ok { tree with files := put location (change none) tree.files }
  | .error fault => .error fault

/-- Puts a text into the file at a path. -/
def write (tree : FileTree) (p : Path) (s : String) : Except FileFault FileTree :=
  tree.store p fun _ => .text s

/-- Puts a text behind the content of the file at a path. -/
def append (tree : FileTree) (p : Path) (s : String) : Except FileFault FileTree :=
  tree.store p fun
    | some content => content.append s
    | none => .text s

/-- Creates directories for components from a directory on, where there are none. -/
def create (tree : FileTree) : List Path.Component → Location → Except FileFault FileTree
  | [], _ => .ok tree
  | .root :: rest, _ =>
    match tree.root? with
    | some root => tree.create rest root
    | none => .error .notFound
  | .here :: rest, location => tree.create rest location
  | .up :: rest, location =>
    match tree.above? location with
    | some above => tree.create rest above
    | none => .error .notFound
  | .name n :: rest, location =>
    let next := location ++ [n]
    if tree.hasDirectory next then tree.create rest next
    else if (tree.content? next).isSome then
      .error (if rest.isEmpty then .alreadyExists else .notDirectory)
    else { tree with directories := tree.directories ++ [next] }.create rest next
termination_by components => components.length

/-- Creates the directory at a path and those above it. -/
def createDirectories (tree : FileTree) (p : Path) : Except FileFault FileTree :=
  tree.create p.components tree.start

end FileTree

end IconInline

import Std.Data.TreeMap
import Std.Data.TreeSet
import StorageDispatch.Bytes
import StorageDispatch.Error
import StorageDispatch.Metadata
import StorageDispatch.Url

set_option autoImplicit false

/-! # In-memory stores

A `Memory.Store` holds files, directories, links and attributes by URL, and a record of the seeks and
reads that were served from it. Files and directories are kept apart: a file does not need a directory
around it, and a directory lists the files whose URLs lie directly under its own.
-/

namespace StorageDispatch.Memory

/-- One seek or read that a store observed, on one of the open files. -/
inductive Transfer
  /-- A seek landed at a position. -/
  | seek (file position : Nat)
  /-- A read began at a position. -/
  | read (file position : Nat)
  deriving DecidableEq, Repr, Inhabited

def Transfer.file : Transfer → Nat
  | seek file _ => file
  | read file _ => file

/-- Contents by URL. -/
structure Store where
  files : Std.TreeMap String Bytes := ∅
  directories : Std.TreeSet String := ∅
  links : Std.TreeMap String String := ∅
  /-- Attributes by URL and name. -/
  attributes : Std.TreeMap String (Std.TreeMap String Bytes) := ∅
  /-- Seeks and reads so far, the oldest first. -/
  transfers : List Transfer := []
  deriving Inhabited

namespace Store

/-! ## Errors -/

def noFile : BackendError := ⟨.noEntry, "no such file"⟩
def noFileOrDirectory : BackendError := ⟨.noEntry, "no such file or directory"⟩
def noDirectory : BackendError := ⟨.noEntry, "no such directory"⟩
def directoryExists : BackendError := ⟨.fileExists, "directory exists"⟩
def noParent : BackendError := ⟨.noEntry, "parent does not exist"⟩
def vanished : BackendError := ⟨.noEntry, "file vanished"⟩
def notLink : BackendError := ⟨.invalid, "not a link"⟩
def noAttribute : BackendError := ⟨.noData, "no such attribute"⟩
def attributeExists : BackendError := ⟨.fileExists, "attribute exists"⟩

/-! ## Files and directories -/

def hasFile (store : Store) (url : String) : Bool := store.files.contains url

def hasDirectory (store : Store) (url : String) : Bool := store.directories.contains url

def contents? (store : Store) (url : String) : Option Bytes := store.files[url]?

def putFile (store : Store) (url : String) (contents : Bytes) : Store :=
  { store with files := store.files.insert url contents }

def putDirectory (store : Store) (url : String) : Store :=
  { store with directories := store.directories.insert url }

def stat (store : Store) (url : String) : Reply FileStat :=
  match store.contents? url with
  | some contents => .ok (.regular (Mode.ofRaw 0o644) contents.length)
  | none =>
    if store.hasDirectory url then .ok (.directory (Mode.ofRaw 0o755)) else .error noFileOrDirectory

/-- The directories around a URL that are missing, up to the first that exists. -/
def missingAncestors (store : Store) (url : String) : List String :=
  (ancestorUrls url).takeWhile fun up => !store.hasDirectory up

/-- Create a directory, with the missing ones around it if `recursive`. -/
def mkdir (store : Store) (url : String) (recursive : Bool) : Reply Store :=
  if store.hasDirectory url then .error directoryExists
  else
    match store.missingAncestors url with
    | [] => .ok (store.putDirectory url)
    | missing =>
      if recursive then .ok ((missing.foldl putDirectory store).putDirectory url)
      else .error noParent

def rmdir (store : Store) (url : String) : Reply Store :=
  if store.hasDirectory url then .ok { store with directories := store.directories.erase url }
  else .error noDirectory

def unlink (store : Store) (url : String) : Reply Store :=
  if store.hasFile url then .ok { store with files := store.files.erase url } else .error noFile

/-- Move a file to another URL, over what may be there. -/
def rename (store : Store) (source destination : String) : Reply Store :=
  match store.contents? source with
  | some contents =>
    .ok { store with files := (store.files.erase source).insert destination contents }
  | none => .error noFile

/-- The name of a file in a directory, if its URL lies directly under the directory's. -/
def nameUnder? (dir url : String) : Option String :=
  let start := dir.toList ++ ['/']
  if start.isPrefixOf url.toList then
    let name := url.toList.drop start.length
    if name.contains '/' then none else some (String.ofList name)
  else none

/-- The names of the files directly under a directory, in the order of their URLs. -/
def names (store : Store) (dir : String) : List String := store.files.keys.filterMap (nameUnder? dir)

/-- The names in a directory that has to exist. -/
def listing (store : Store) (url : String) : Reply (List String) :=
  let dir := trimUrl url
  if store.hasDirectory dir then .ok (store.names dir) else .error noDirectory

/-! ## Links and attributes -/

/-- Create a link, over what may be there. -/
def symlink (store : Store) (target link : String) : Store :=
  { store with links := store.links.insert link target }

def readlink (store : Store) (url : String) : Reply String :=
  match store.links[url]? with
  | some target => .ok target
  | none => .error notLink

def attributesOf (store : Store) (url : String) : Std.TreeMap String Bytes :=
  (store.attributes[url]?).getD ∅

def getxattr (store : Store) (url name : String) : Reply Bytes :=
  match (store.attributesOf url)[name]? with
  | some value => .ok value
  | none => .error noAttribute

def listxattr (store : Store) (url : String) : List String := (store.attributesOf url).keys

def setxattr (store : Store) (url name : String) (value : Bytes) (mode : XattrMode) : Reply Store :=
  let present := (store.attributesOf url).contains name
  let changed : Store :=
    { store with
      attributes := store.attributes.insert url ((store.attributesOf url).insert name value) }
  match mode, present with
  | .create, true => .error attributeExists
  | .replace, false => .error noAttribute
  | _, _ => .ok changed

/-! ## Transfers -/

def record (store : Store) (transfer : Transfer) : Store :=
  { store with transfers := store.transfers ++ [transfer] }

/-- The files that were used, by their first use. -/
def filesUsed (store : Store) : List Nat := (store.transfers.map Transfer.file).eraseDups

/-- The transfers so far, with files numbered by their first use. -/
def numberedTransfers (store : Store) : List Transfer :=
  let number (file : Nat) := store.filesUsed.idxOf file
  store.transfers.map fun
    | .seek file position => .seek (number file) position
    | .read file position => .read (number file) position

/-- Per URL, the same outcome for every file that exists. -/
def perFile {α : Type} (store : Store) (urls : List String) (a : α) : List (Reply α) :=
  urls.map fun url => if store.hasFile url then .ok a else .error noFile

end Store

end StorageDispatch.Memory

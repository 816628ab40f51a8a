import StorageDispatch.Context.Dispatch

set_option autoImplicit false

/-! # Operations on names

The operations on a URL that open nothing: metadata, directories as entries of the namespace, links,
extended attributes and staging of single files, each a `UrlRequest`; renaming and linking, each a
`PairRequest`; and the removal of a list of files.
-/

namespace StorageDispatch

namespace UrlRequest

def stat (url : String) : UrlRequest FileStat := ⟨.stat, url, .stat url, id⟩

def lstat (url : String) : UrlRequest FileStat := ⟨.lstat, url, .lstat url, id⟩

def access (url : String) (mode : UInt32) : UrlRequest Unit := ⟨.access, url, .access url mode, id⟩

def chmod (url : String) (mode : Mode) : UrlRequest Unit := ⟨.chmod, url, .chmod url mode, id⟩

def readlink (url : String) : UrlRequest String := ⟨.readlink, url, .readlink url, id⟩

def mkdir (url : String) (mode : Mode) : UrlRequest Unit :=
  ⟨.mkdir, url, .mkdir url mode false, id⟩

/-- An existing directory is as good as a new one. -/
def acceptExisting (reply : Reply Unit) : Reply Unit :=
  match reply with
  | .ok () => .ok ()
  | .error error => if error.errno = .fileExists then .ok () else .error error

/-- Create a directory and the missing ones around it. -/
def mkdirRecursive (url : String) (mode : Mode) : UrlRequest Unit :=
  ⟨.mkdirRecursive, url, .mkdir url mode true, acceptExisting⟩

def rmdir (url : String) : UrlRequest Unit := ⟨.rmdir, url, .rmdir url, id⟩

def unlink (url : String) : UrlRequest Unit := ⟨.unlink, url, .unlink url, id⟩

def getxattr (url name : String) : UrlRequest Bytes := ⟨.getxattr, url, .getxattr url name, id⟩

def setxattr (url name : String) (value : Bytes) (mode : XattrMode) : UrlRequest Unit :=
  ⟨.setxattr, url, .setxattr url name value mode, id⟩

def listxattr (url : String) : UrlRequest (List String) := ⟨.listxattr, url, .listxattr url, id⟩

def bringOnline (url : String) (options : StageOptions) : UrlRequest StageStatus :=
  ⟨.bringOnline, url, .bringOnline url options, id⟩

def bringOnlinePoll (url token : String) : UrlRequest Bool :=
  ⟨.bringOnlinePoll, url, .bringOnlinePoll url token, id⟩

def releaseFile (url token : String) : UrlRequest Unit :=
  ⟨.releaseFile, url, .releaseFile url token, id⟩

/-- The backend's part of opening a file. -/
def openFile (url : String) (flags : UInt32) (mode : Mode) : UrlRequest FileHandle :=
  ⟨.openFile, url, .openFile url flags mode, id⟩

/-- The backend's part of opening a directory. -/
def opendir (url : String) : UrlRequest FileHandle := ⟨.opendir, url, .opendir url, id⟩

end UrlRequest

namespace PairRequest

def rename (source destination : String) : PairRequest :=
  ⟨.rename, source, destination, .rename source destination, id⟩

def symlink (target link : String) : PairRequest :=
  ⟨.symlink, target, link, .symlink target link, id⟩

end PairRequest

namespace Context

variable {σ : Type}

def stat (url : String) : Engine σ FileStat := dispatchUrl (.stat url)

def lstat (url : String) : Engine σ FileStat := dispatchUrl (.lstat url)

def access (url : String) (mode : UInt32) : Engine σ Unit := dispatchUrl (.access url mode)

def chmod (url : String) (mode : Mode) : Engine σ Unit := dispatchUrl (.chmod url mode)

def readlink (url : String) : Engine σ String := dispatchUrl (.readlink url)

def mkdir (url : String) (mode : Mode) : Engine σ Unit := dispatchUrl (.mkdir url mode)

/-- Create a directory and the missing ones around it. One that exists is no error. -/
def mkdirRecursive (url : String) (mode : Mode) : Engine σ Unit :=
  dispatchUrl (.mkdirRecursive url mode)

def rmdir (url : String) : Engine σ Unit := dispatchUrl (.rmdir url)

def unlink (url : String) : Engine σ Unit := dispatchUrl (.unlink url)

/-- Remove files one by one with a backend that has no action for lists. A failure does not keep the
files after it. -/
def unlinkEach (plugin : Plugin σ) (urls : List String) : Act σ (List (Except Error Unit)) := do
  log (.unlinkingEach plugin.name urls.length)
  urls.mapM fun url => do
    settle .unlinkList (← call plugin.backend (.unlink url))

/-- Remove a list of files with the plugin that claims the first. -/
def unlinkList (urls : List String) : Act σ (List (Except Error Unit)) :=
  resolveBatch .unlinkList urls
    (fun plugin => do
      match ← call plugin.backend (.unlinkList urls) with
      | some replies => spread .unlinkList plugin.name urls.length (.ok replies)
      | none => unlinkEach plugin urls)
    id

def rename (source destination : String) : Engine σ Unit := dispatchPair (.rename source destination)

def symlink (target link : String) : Engine σ Unit := dispatchPair (.symlink target link)

def getxattr (url name : String) : Engine σ Bytes := dispatchUrl (.getxattr url name)

def setxattr (url name : String) (value : Bytes) (mode : XattrMode) : Engine σ Unit :=
  dispatchUrl (.setxattr url name value mode)

def listxattr (url : String) : Engine σ (List String) := dispatchUrl (.listxattr url)

end Context

end StorageDispatch

import StorageDispatch.Bytes
import StorageDispatch.Error
import StorageDispatch.Handle
import StorageDispatch.Metadata
import StorageDispatch.Operation

set_option autoImplicit false

/-! # Calls to a backend

A `Call` is one request that the dispatcher makes of a backend, as data, and `Call.Answer` is the type
of what comes back. Most actions answer with a `Reply`; a few may answer `none`, which says that the
backend has no action of its own and leaves the work to the dispatcher. `Call.unimplemented` is the
answer of a backend that does not implement the action.
-/

namespace StorageDispatch

/-- Data that a backend puts to the front of a transfer buffer, and the count that it reports, which
need not be the number of bytes that fit. -/
structure Received where
  count : Nat
  data : Bytes
  deriving DecidableEq, Repr, Inhabited

/-- One request to a backend. -/
inductive Call
  | checkUrl (url : String) (capability : Capability)
  | teardown
  | access (url : String) (mode : UInt32)
  | chmod (url : String) (mode : Mode)
  | rename (source destination : String)
  | symlink (target link : String)
  | stat (url : String)
  | lstat (url : String)
  | readlink (url : String)
  | mkdir (url : String) (mode : Mode) (recursive : Bool)
  | rmdir (url : String)
  | unlink (url : String)
  | unlinkList (urls : List String)
  | opendir (url : String)
  | readdir (dir : OpenHandle)
  | readdirPlus (dir : OpenHandle)
  | closedir (dir : OpenHandle)
  | openFile (url : String) (flags : UInt32) (mode : Mode)
  | read (file : OpenHandle) (size : Nat)
  | write (file : OpenHandle) (data : Bytes)
  | pread (file : OpenHandle) (size offset : Nat)
  | pwrite (file : OpenHandle) (data : Bytes) (offset : Nat)
  | lseek (file : OpenHandle) (target : SeekTarget)
  | close (file : OpenHandle)
  | getxattr (url name : String)
  | listxattr (url : String)
  | setxattr (url name : String) (value : Bytes) (mode : XattrMode)
  | bringOnline (url : String) (options : StageOptions)
  | bringOnlinePoll (url token : String)
  | releaseFile (url token : String)
  | bringOnlineList (urls : List String) (options : StageOptions)
  | bringOnlinePollList (urls : List String) (token : String)
  | releaseFileList (urls : List String) (token : String)
  | abortFiles (urls : List String) (token : String)
  deriving DecidableEq, Repr

namespace Call

/-- What a backend answers to a call. -/
@[reducible] def Answer : Call → Type
  | checkUrl .. => Reply Bool
  | teardown => Unit
  | access .. | chmod .. | rename .. | symlink .. | mkdir .. | rmdir .. | unlink .. => Reply Unit
  | stat .. | lstat .. => Reply FileStat
  | readlink .. => Reply String
  | unlinkList .. => Option (List (Reply Unit))
  | opendir .. | openFile .. => Reply FileHandle
  | readdir .. => Reply (Option DirEntry)
  | readdirPlus .. => Option (Reply (Option (DirEntry × FileStat)))
  | closedir .. | close .. => Reply Unit
  | read .. => Reply Received
  | write .. => Reply Nat
  | pread .. => Option (Reply Received)
  | pwrite .. => Option (Reply Nat)
  | lseek .. => Reply Nat
  | getxattr .. => Reply Bytes
  | listxattr .. => Reply (List String)
  | setxattr .. => Reply Unit
  | bringOnline .. => Reply StageStatus
  | bringOnlinePoll .. => Reply Bool
  | releaseFile .. => Reply Unit
  | bringOnlineList .. => Reply (StageBatch BackendError)
  | bringOnlinePollList .. => Reply (List (Reply Bool))
  | releaseFileList .. | abortFiles .. => Reply (List (Reply Unit))

def action : Call → String
  | checkUrl .. => "check_url"
  | teardown => "teardown"
  | access .. => "access"
  | chmod .. => "chmod"
  | rename .. => "rename"
  | symlink .. => "symlink"
  | stat .. => "stat"
  | lstat .. => "lstat"
  | readlink .. => "readlink"
  | mkdir .. => "mkdir"
  | rmdir .. => "rmdir"
  | unlink .. => "unlink"
  | unlinkList .. => "unlink_list"
  | opendir .. => "opendir"
  | readdir .. => "readdir"
  | readdirPlus .. => "readdir_plus"
  | closedir .. => "closedir"
  | openFile .. => "open"
  | read .. => "read"
  | write .. => "write"
  | pread .. => "pread"
  | pwrite .. => "pwrite"
  | lseek .. => "lseek"
  | close .. => "close"
  | getxattr .. => "getxattr"
  | listxattr .. => "listxattr"
  | setxattr .. => "setxattr"
  | bringOnline .. => "bring_online"
  | bringOnlinePoll .. => "bring_online_poll"
  | releaseFile .. => "release_file"
  | bringOnlineList .. => "bring_online_list"
  | bringOnlinePollList .. => "bring_online_poll_list"
  | releaseFileList .. => "release_file_list"
  | abortFiles .. => "abort_files"

/-- The answer of a backend that leaves an action out: it claims no URL, has nothing to tear down,
leaves the optional actions to the dispatcher and reports every other one as not implemented. -/
def unimplemented : (call : Call) → call.Answer
  | checkUrl .. => .ok false
  | teardown => ()
  | unlinkList .. => none
  | readdirPlus .. => none
  | pread .. => none
  | pwrite .. => none
  | access .. => .error (.unsupported "access")
  | chmod .. => .error (.unsupported "chmod")
  | rename .. => .error (.unsupported "rename")
  | symlink .. => .error (.unsupported "symlink")
  | stat .. => .error (.unsupported "stat")
  | lstat .. => .error (.unsupported "lstat")
  | readlink .. => .error (.unsupported "readlink")
  | mkdir .. => .error (.unsupported "mkdir")
  | rmdir .. => .error (.unsupported "rmdir")
  | unlink .. => .error (.unsupported "unlink")
  | opendir .. => .error (.unsupported "opendir")
  | readdir .. => .error (.unsupported "readdir")
  | closedir .. => .error (.unsupported "closedir")
  | openFile .. => .error (.unsupported "open")
  | read .. => .error (.unsupported "read")
  | write .. => .error (.unsupported "write")
  | lseek .. => .error (.unsupported "lseek")
  | close .. => .error (.unsupported "close")
  | getxattr .. => .error (.unsupported "getxattr")
  | listxattr .. => .error (.unsupported "listxattr")
  | setxattr .. => .error (.unsupported "setxattr")
  | bringOnline .. => .error (.unsupported "bring_online")
  | bringOnlinePoll .. => .error (.unsupported "bring_online_poll")
  | releaseFile .. => .error (.unsupported "release_file")
  | bringOnlineList .. => .error (.unsupported "bring_online_list")
  | bringOnlinePollList .. => .error (.unsupported "bring_online_poll_list")
  | releaseFileList .. => .error (.unsupported "release_file_list")
  | abortFiles .. => .error (.unsupported "abort_files")

end Call

end StorageDispatch

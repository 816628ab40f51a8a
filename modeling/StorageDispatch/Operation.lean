set_option autoImplicit false

/-! # Operations and capabilities

An `Operation` is one entry of the public call surface; it tags errors, metrics and log lines. A
`Capability` is what a backend is asked about when a URL has to be routed. Every operation asks for
one capability (`Operation.capability`); several operations may ask for the same.
-/

namespace StorageDispatch

/-- What a backend may claim to do for a URL. -/
inductive Capability
  | access
  | chmod
  | rename
  | symlink
  | stat
  | lstat
  | mkdir
  | mkdirRecursive
  | rmdir
  | opendir
  | openFile
  | getxattr
  | setxattr
  | listxattr
  | readlink
  | unlink
  | bringOnline
  deriving DecidableEq, Repr, Inhabited

namespace Capability

def all : List Capability :=
  [access, chmod, rename, symlink, stat, lstat, mkdir, mkdirRecursive, rmdir, opendir, openFile, getxattr,
    setxattr, listxattr, readlink, unlink, bringOnline]

/-- The name that stands in logs and error tags. -/
def name : Capability → String
  | access => "access"
  | chmod => "chmod"
  | rename => "rename"
  | symlink => "symlink"
  | stat => "stat"
  | lstat => "lstat"
  | mkdir => "mkdir"
  | mkdirRecursive => "mkdir_p"
  | rmdir => "rmdir"
  | opendir => "opendir"
  | openFile => "open"
  | getxattr => "getxattr"
  | setxattr => "setxattr"
  | listxattr => "listxattr"
  | readlink => "readlink"
  | unlink => "unlink"
  | bringOnline => "bring_online"

def ofName? (text : String) : Option Capability := all.find? fun c => c.name == text

end Capability

/-- The public operations. -/
inductive Operation
  | stat
  | lstat
  | access
  | chmod
  | readlink
  | mkdir
  | mkdirRecursive
  | rmdir
  | unlink
  | unlinkList
  | rename
  | symlink
  | getxattr
  | setxattr
  | listxattr
  | opendir
  | readdir
  | readdirPlus
  | closedir
  | openFile
  | read
  | write
  | pread
  | pwrite
  | lseek
  | close
  | bringOnline
  | bringOnlinePoll
  | releaseFile
  | bringOnlineList
  | bringOnlinePollList
  | releaseFileList
  | abortFiles
  deriving DecidableEq, Repr, Inhabited

namespace Operation

/-- The name that tags errors, metrics and log lines. -/
def name : Operation → String
  | stat => "stat"
  | lstat => "lstat"
  | access => "access"
  | chmod => "chmod"
  | readlink => "readlink"
  | mkdir => "mkdir"
  | mkdirRecursive => "mkdir_p"
  | rmdir => "rmdir"
  | unlink => "unlink"
  | unlinkList => "unlink_list"
  | rename => "rename"
  | symlink => "symlink"
  | getxattr => "getxattr"
  | setxattr => "setxattr"
  | listxattr => "listxattr"
  | opendir => "opendir"
  | readdir => "readdir"
  | readdirPlus => "readdir_plus"
  | closedir => "closedir"
  | openFile => "open"
  | read => "read"
  | write => "write"
  | pread => "pread"
  | pwrite => "pwrite"
  | lseek => "lseek"
  | close => "close"
  | bringOnline => "bring_online"
  | bringOnlinePoll => "bring_online_poll"
  | releaseFile => "release_file"
  | bringOnlineList => "bring_online_list"
  | bringOnlinePollList => "bring_online_poll_list"
  | releaseFileList => "release_file_list"
  | abortFiles => "abort_files"

/-- The capability that an operation asks for. Operations on an open handle are covered by the one
that opened it, and everything about staging is covered by bringing files online. -/
def capability : Operation → Capability
  | stat => .stat
  | lstat => .lstat
  | access => .access
  | chmod => .chmod
  | readlink => .readlink
  | mkdir => .mkdir
  | mkdirRecursive => .mkdirRecursive
  | rmdir => .rmdir
  | unlink | unlinkList => .unlink
  | rename => .rename
  | symlink => .symlink
  | getxattr => .getxattr
  | setxattr => .setxattr
  | listxattr => .listxattr
  | opendir | readdir | readdirPlus | closedir => .opendir
  | openFile | read | write | pread | pwrite | lseek | close => .openFile
  | bringOnline | bringOnlinePoll | releaseFile | bringOnlineList | bringOnlinePollList
  | releaseFileList | abortFiles => .bringOnline

end Operation

end StorageDispatch

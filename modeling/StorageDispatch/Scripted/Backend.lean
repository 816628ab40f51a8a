import Std.Data.HashMap
import StorageDispatch.Backend.Basic
import StorageDispatch.Url

set_option autoImplicit false

/-! # The scripted backend

`Scripted.backend id name priority script` answers from a `Script`: rules that say which URLs it
claims, and for each action a list of answers that are given in turn, the last one again and again. An
action without answers is not implemented.
-/

namespace StorageDispatch.Scripted

/-- Which URLs are claimed for which capabilities, or refused, or answered with an error. -/
structure Rule where
  /-- How the URLs begin that the rule is for. -/
  start : String
  /-- The capabilities that the rule is for, all if `none`. -/
  capabilities : Option (List Capability) := none
  answer : Reply Bool := .ok true
  deriving Inhabited

def Rule.applies (rule : Rule) (url : String) (capability : Capability) : Bool :=
  (match rule.capabilities with
    | some capabilities => capabilities.contains capability
    | none => true) && beginsWith url rule.start

/-- An opened handle. Without an owner it belongs to the backend itself. -/
structure Opening where
  owner : Option String := none
  path : Option String := none
  userData : Option String := none
  offset : Nat := 0
  deriving DecidableEq, Repr, Inhabited

/-- The handle that a backend of a given name opens. -/
def Opening.handle (opening : Opening) (name : String) : FileHandle where
  owner := opening.owner.getD name
  path := opening.path
  offset := opening.offset
  userData := opening.userData.map .text

/-- Data that is read, and the count that is reported if it is not the number of bytes that fit. -/
structure Reading where
  data : Bytes
  count : Option Nat := none
  deriving DecidableEq, Repr, Inhabited

def Reading.received (reading : Reading) (size : Nat) : Received where
  count := reading.count.getD (min reading.data.length size)
  data := reading.data

inductive Landing
  /-- At the requested offset of a seek from the start, and at 0 of any other. -/
  | echo
  | position (offset : Nat)
  deriving DecidableEq, Repr, Inhabited

/-- The position at which a seek lands. -/
def Landing.resolve : Landing → SeekTarget → Nat
  | echo, .start offset => offset
  | echo, _ => 0
  | position offset, _ => offset

/-- The answers of a backend. -/
structure Script where
  rules : List Rule := []
  access : List (Reply Unit) := []
  chmod : List (Reply Unit) := []
  rename : List (Reply Unit) := []
  symlink : List (Reply Unit) := []
  stat : List (Reply FileStat) := []
  lstat : List (Reply FileStat) := []
  readlink : List (Reply String) := []
  mkdir : List (Reply Unit) := []
  rmdir : List (Reply Unit) := []
  unlink : List (Reply Unit) := []
  unlinkList : List (Option (List (Reply Unit))) := []
  opendir : List (Reply Opening) := []
  readdir : List (Reply (Option DirEntry)) := []
  readdirPlus : List (Option (Reply (Option (DirEntry × FileStat)))) := []
  closedir : List (Reply Unit) := []
  openFile : List (Reply Opening) := []
  read : List (Reply Reading) := []
  write : List (Reply Nat) := []
  pread : List (Option (Reply Reading)) := []
  pwrite : List (Option (Reply Nat)) := []
  lseek : List (Reply Landing) := []
  close : List (Reply Unit) := []
  getxattr : List (Reply Bytes) := []
  listxattr : List (Reply (List String)) := []
  setxattr : List (Reply Unit) := []
  bringOnline : List (Reply StageStatus) := []
  bringOnlinePoll : List (Reply Bool) := []
  releaseFile : List (Reply Unit) := []
  bringOnlineList : List (Reply (StageBatch BackendError)) := []
  bringOnlinePollList : List (Reply (List (Reply Bool))) := []
  releaseFileList : List (Reply (List (Reply Unit))) := []
  abortFiles : List (Reply (List (Reply Unit))) := []
  deriving Inhabited

/-- The answer at a turn: past the end of the list, its last one. -/
def atTurn? {α : Type} (answers : List α) (turn : Nat) : Option α :=
  answers[min turn (answers.length - 1)]?

namespace Script

/-- What the first rule for a URL and a capability says. Without one, the URL is not claimed. -/
def claims (script : Script) (url : String) (capability : Capability) : Reply Bool :=
  match script.rules.find? fun rule => rule.applies url capability with
  | some rule => rule.answer
  | none => .ok false

/-- The scripted answer of a backend of a given name to its n-th call of an action, counted from 0;
none if the script has no answers for that action. -/
def answer? (script : Script) (name : String) (turn : Nat) (call : Call) : Option call.Answer :=
  match call with
  | .checkUrl url capability => some (script.claims url capability)
  | .teardown => some ()
  | .access .. => atTurn? script.access turn
  | .chmod .. => atTurn? script.chmod turn
  | .rename .. => atTurn? script.rename turn
  | .symlink .. => atTurn? script.symlink turn
  | .stat .. => atTurn? script.stat turn
  | .lstat .. => atTurn? script.lstat turn
  | .readlink .. => atTurn? script.readlink turn
  | .mkdir .. => atTurn? script.mkdir turn
  | .rmdir .. => atTurn? script.rmdir turn
  | .unlink .. => atTurn? script.unlink turn
  | .unlinkList .. => atTurn? script.unlinkList turn
  | .opendir .. => (atTurn? script.opendir turn).map fun reply => reply.map (·.handle name)
  | .readdir .. => atTurn? script.readdir turn
  | .readdirPlus .. => atTurn? script.readdirPlus turn
  | .closedir .. => atTurn? script.closedir turn
  | .openFile .. => (atTurn? script.openFile turn).map fun reply => reply.map (·.handle name)
  | .read _ size => (atTurn? script.read turn).map fun reply => reply.map (·.received size)
  | .write .. => atTurn? script.write turn
  | .pread _ size _ =>
    (atTurn? script.pread turn).map fun reply? =>
      reply?.map fun reply => reply.map (·.received size)
  | .pwrite .. => atTurn? script.pwrite turn
  | .lseek _ target => (atTurn? script.lseek turn).map fun reply => reply.map (·.resolve target)
  | .close .. => atTurn? script.close turn
  | .getxattr .. => atTurn? script.getxattr turn
  | .listxattr .. => atTurn? script.listxattr turn
  | .setxattr .. => atTurn? script.setxattr turn
  | .bringOnline .. => atTurn? script.bringOnline turn
  | .bringOnlinePoll .. => atTurn? script.bringOnlinePoll turn
  | .releaseFile .. => atTurn? script.releaseFile turn
  | .bringOnlineList .. => atTurn? script.bringOnlineList turn
  | .bringOnlinePollList .. => atTurn? script.bringOnlinePollList turn
  | .releaseFileList .. => atTurn? script.releaseFileList turn
  | .abortFiles .. => atTurn? script.abortFiles turn

/-- The answer to a call. An action without scripted answers is not implemented. -/
def answer (script : Script) (name : String) (turn : Nat) (call : Call) : call.Answer :=
  (script.answer? name turn call).getD call.unimplemented

end Script

/-- The world of scripted backends: how often each action of each instance was called. -/
abbrev State := Std.HashMap (InstanceId × String) Nat

def respond (id : InstanceId) (name : String) (script : Script) (call : Call) (state : State) :
    call.Answer × State :=
  let turn := state.getD (id, call.action) 0
  (script.answer name turn call, state.insert (id, call.action) (turn + 1))

def backend (id : InstanceId) (name : String) (priority : Int) (script : Script) :
    Backend State where
  id := id
  name := name
  priority := priority
  respond := respond id name script

end StorageDispatch.Scripted

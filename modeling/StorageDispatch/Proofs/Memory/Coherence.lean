import StorageDispatch.Proofs.Context.Transfers
import StorageDispatch.Proofs.Memory.Places

set_option autoImplicit false

/-! # Recorded positions are where the files are

A position is kept twice: the backend knows where an open file is, and the handle records where it was last seen.
The two are moved by different hands. What they have in common is a step of the file and a step of the record that
agree up to saturation (`Follows`, `Leads`), and that no two handles stand for the same open file (`Coherent`).

So the two agree after every run in which no transfer at a position fails (`offset_eq_position`); all else may fail.
-/

namespace StorageDispatch

open Context

namespace Memory

variable {spec : Spec} {own : InstanceId} {handles : Array FileHandle} {before after : State} {opened : OpenHandle}
  {index : Nat} {α : Type}

/-! ## Coherence -/

/-- A handle is recorded to be where its file is, as far as it can be. -/
def Recorded (handle : FileHandle) (file : OpenFile) : Prop := handle.offset = min file.position maxOffset

/-- **Handles are recorded to be where their files are.** -/
def Coherent : Array FileHandle → State → Prop := Lodged Recorded

/-- **A file moves, and so does its handle**, by steps that agree up to saturation. -/
theorem Coherent.moved {c : Context State} (h : Coherent c.handles before) {id : HandleId} {position : Nat → Nat}
    (hmoved : before.Moved (c.shown id) position after) {offset : FileHandle → Nat}
    (hoffset : ∀ (handle : FileHandle) (n : Nat), handle.offset = min n maxOffset →
      offset handle = min (position n) maxOffset) : Coherent (c.moving id offset).handles after := by
  obtain ⟨index, file, hfile, hafter⟩ := hmoved
  obtain ⟨hpayload, hopen⟩ := openFile_of_file? hfile
  have hthere : ∃ handle, c.handles[id]? = some handle ∧ handle.payload = .openFile index := by
    unfold shown at hpayload
    cases hget : c.handles[id]? with
    | none =>
        rw [hget] at hpayload
        cases hpayload
    | some handle =>
        rw [hget] at hpayload
        exact ⟨handle, rfl, hpayload⟩
  obtain ⟨handle, hget, hpayload⟩ := hthere
  constructor
  · intro other handle' hother place hplace
    obtain ⟨was, hwas, rfl⟩ := getElem?_moving hother
    obtain ⟨there, hthere, hwhere⟩ := h.placed other was hwas place hplace
    unfold Recorded
    rw [hafter, State.moveTo, Array.getElem?_modify]
    by_cases hid : id = other
    · -- The handle that moves, and its file with it.
      subst hid
      cases hget.symm.trans hwas
      cases hpayload.symm.trans hplace
      cases hopen.symm.trans hthere
      rw [if_pos rfl, if_pos rfl, hopen]
      exact ⟨_, rfl, hoffset handle file.position hwhere⟩
    · have hindex : index ≠ place := by
        rintro rfl
        exact hid (h.distinct id other handle was index hget hwas hpayload hplace)
      rw [if_neg hid, if_neg hindex]
      exact ⟨there, hthere, hwhere⟩
  · -- Moving leaves every handle in its place.
    intro one two handle₁ handle₂ place hone htwo hplace₁ hplace₂
    obtain ⟨was₁, hwas₁, rfl⟩ := getElem?_moving hone
    obtain ⟨was₂, hwas₂, rfl⟩ := getElem?_moving htwo
    exact h.distinct one two was₁ was₂ place hwas₁ hwas₂ hplace₁ hplace₂

/-! ## Steps that agree -/

/-- **The record follows the file** in a plain use: if it succeeds, both make the same step up to saturation, and
neither makes one if it fails. -/
def Follows (p : Plain α) : Prop :=
  ∀ own spec opened before answer after, respond own spec (p.request opened) before = (answer, after) →
    match p.reply opened answer with
    | .ok a => ∃ position, State.Moved before opened position after ∧ ∀ (handle : FileHandle) (n : Nat),
        handle.offset = min n maxOffset → p.offset a handle = min (position n) maxOffset
    | .error _ => after.openFiles = before.openFiles

theorem follows_reading (size : Nat) : Follows (.reading size) := by
  intro own spec opened before answer after hrespond
  have hread : read spec opened size before = (answer, after) := hrespond
  cases answer with
  | error source => exact read_error hread
  | ok received =>
      refine ⟨(· + received.count), read_ok hread, fun handle n hoffset => ?_⟩
      show min (handle.offset + received.count) maxOffset = min (n + received.count) maxOffset
      omega

theorem follows_writing (data : Bytes) : Follows (.writing data) := by
  intro own spec opened before answer after hrespond
  have hwrite : write spec opened data before = (answer, after) := hrespond
  cases answer with
  | error source => exact congrArg State.openFiles (write_error hwrite)
  | ok count =>
      refine ⟨(· + count), write_ok hwrite, fun handle n hoffset => ?_⟩
      show min (handle.offset + count) maxOffset = min (n + count) maxOffset
      omega

theorem follows_seeking (target : SeekTarget) : Follows (.seeking target) := by
  intro own spec opened before answer after hrespond
  have hseek : lseek spec opened target before = (answer, after) := hrespond
  cases answer with
  | error source => exact congrArg State.openFiles (lseek_error hseek)
  | ok landed =>
      obtain ⟨hle, hmoved⟩ := lseek_ok hseek
      exact ⟨fun _ => landed, hmoved, fun _ _ _ => (Nat.min_eq_left hle).symm⟩

/-- **A transfer at a position that succeeds moves its file by what it counts**, if it is emulated, and not at all if
the backend positions it itself. -/
structure Leads (t : Positioned α) : Prop where
  native : ∀ opened, (t.native opened).moves = false
  plain : ∀ own spec opened before answer after a, respond own spec (t.plain opened) before = (answer, after) →
    t.plainReply opened answer = .ok a → State.Moved before opened (· + t.count a) after

theorem leads_reading (buffer : Bytes) (offset : Nat) : Leads (.reading buffer offset) where
  native _ := rfl
  plain _ _ _ _ _ _ received hrespond hreply := by
    cases hreply
    exact read_ok hrespond

theorem leads_writing (data : Bytes) (offset : Nat) : Leads (.writing data offset) where
  native _ := rfl
  plain _ _ _ _ _ _ count hrespond hreply := by
    cases hreply
    exact write_ok hrespond

/-- **Where a transfer at a position leaves a handle that succeeds**: where its file is. -/
theorem Coherent.goes {t : Positioned α} {b : Backend State} {c : Context State} (hleads : Leads t)
    (hb : b.respond = respond own spec) (h : Coherent c.handles before) {id : HandleId} {a : α} {calls : List Call}
    {moved : Option Nat} (hgoes : t.Goes b (c.shown id) before (.ok a) calls after moved) :
    Coherent (c.placing id moved).handles after := by
  have hasked {asked : State} {answer : (t.native (c.shown id)).Answer}
      (hnative : b.respond (t.native (c.shown id)) before = (answer, asked)) : Coherent c.handles asked := by
    have hrests := rests_respond own spec (hleads.native (c.shown id)) before
    rw [← hb, hnative] at hrests
    exact h.rests hrests
  generalize hresult : Except.ok a = result at hgoes
  cases hgoes with
  | native hnative => exact hasked hnative
  | @emulated asked _ _ _ _ _ hnative _ hemulated =>
      have hcoherent : Coherent c.handles asked := hasked hnative
      cases hemulated with
      | transferred hseek hplain hreply =>
          -- The file moves to the position first, and then by what is transferred.
          rw [hb] at hseek hplain
          rw [respond_lseek] at hseek
          obtain ⟨-, hsought⟩ := lseek_ok hseek
          have hmoved := hsought.trans (hleads.plain own spec _ _ _ _ _ hplain hreply)
          exact hcoherent.moved hmoved fun _ _ _ => rfl
      | _ => cases hresult

/-! ## Whole sessions -/

/-- **Steps in which no transfer at a position fails.** All backends are in memory, no handle is taken in that stands
for an open file without having been opened, and files move by calls only. -/
def Untroubled : Step State → Except Error Value → Prop
  | .request (.pread ..), outcome | .request (.pwrite ..), outcome => ∃ value, outcome = .ok value
  | .request (.insertHandle _ handle), _ => ∀ index, handle.payload ≠ .openFile index
  | .register make, _ => ∀ n, InMemory (fun _ => True) (Session.newcomer n make)
  | .changeWorld change, _ => ∀ world, (change world).openFiles = world.openFiles
  | .changeHost change, _ => ∀ host, Makes (fun b _ => InMemory (fun _ => True) b) host →
      Makes (fun b _ => InMemory (fun _ => True) b) (change host)
  | _, _ => True

def cohering : Exchange State :=
  .alone (InMemory fun _ => True) Coherent (Lodger Recorded)

theorem fair_cohering : cohering.Fair := by
  refine fair_alone (fun _ _ _ hrests hcoherent => hcoherent.rests hrests) ?_ fun hfresh hcoherent =>
    hcoherent.push hfresh
  intro own spec _ handles state hcoherent o handle haccept
  refine hcoherent.lodger_opening own spec (fun handle file hoffset hposition => ?_) haccept
  rw [Recorded, hoffset, hposition, Nat.zero_min]

theorem admits_cohering {step : Step State} {outcome : Except Error Value} (h : Untroubled step outcome) :
    cohering.Admits step := by
  cases step with
  | request request =>
      cases request with
      | insertHandle resource handle =>
          exact fun _ _ => lodger_of_ne h
      | _ => trivial
  | register make => exact h
  | changeWorld change =>
      intro handles world handles' world' hlike
      obtain ⟨rfl, rfl, hcoherent⟩ := hlike
      refine ⟨rfl, rfl, fun id handle hget index hpayload => ?_, hcoherent.distinct⟩
      rw [h world']
      exact hcoherent.placed id handle hget index hpayload
  | changeHost change => exact fun host hmakes => Exchange.makes_alone.mpr (h host (Exchange.makes_alone.mp hmakes))
  | _ => trivial

section Requests

variable {c : Context State} {key : DescriptorKey}

/-- A plain use of a file leaves coherence, whether it succeeds or not. -/
theorem plain_cohering (h : Companions cohering c c) {p : Plain α} (hfollows : Follows p) {β : Type} (value : α → β) :
    Companions cohering ((p.serve key value).run.run c).2 ((p.serve key value).run.run c).2 := by
  refine Companions.self_plain fair_cohering h p value ?_
  intro id plugin d answer after _ hknown hleft hcall
  obtain ⟨own, spec, -, hrespond⟩ := hknown.respond_eq
  have hcoherent : Coherent d.handles d.world := hleft.like.2.2
  rw [hrespond] at hcall
  have hdone := hfollows own spec _ _ _ _ hcall
  cases hreply : p.reply (d.shown id) answer with
  | error source =>
      rw [hreply] at hdone
      have hafter : Coherent d.handles after := by
        refine ⟨fun id handle hget index hpayload => ?_, hcoherent.distinct⟩
        rw [show after.openFiles = d.world.openFiles from hdone]
        exact hcoherent.placed id handle hget index hpayload
      exact { hleft with like := ⟨rfl, rfl, hafter⟩ }
  | ok a =>
      rw [hreply] at hdone
      obtain ⟨position, hmoved, hoffset⟩ := hdone
      have hafter : Coherent (d.moving id (p.offset a)).handles after := hcoherent.moved hmoved hoffset
      exact { hleft with like := ⟨rfl, rfl, hafter⟩ }

/-- A transfer at a position leaves coherence if it succeeds. -/
theorem positioned_cohering (h : Companions cohering c c) {t : Positioned α} (hleads : Leads t) {β : Type}
    {value : α → β} {work : Engine State β} (hwork : t.Serves key value work) {b : β}
    (hok : (work.run.run c).1 = .ok b) : Companions cohering (work.run.run c).2 (work.run.run c).2 := by
  refine Companions.self_positioned fair_cohering h hwork ?_
  intro id plugin d result calls world moved _ hknown hleft hgoes houtcome
  obtain ⟨own, spec, -, hrespond⟩ := hknown.respond_eq
  have hcoherent : Coherent d.handles d.world := hleft.like.2.2
  rw [hok] at houtcome
  cases result with
  | error error => cases houtcome
  | ok a =>
      have hafter : Coherent (d.placing id moved).handles world := hcoherent.goes hleads hrespond hgoes
      cases moved with
      | none => exact { hleft with like := ⟨rfl, rfl, hafter⟩ }
      | some position => exact { hleft with like := ⟨rfl, rfl, hafter⟩ }

/-- **Every transfer leaves coherence** that may be made. -/
theorem transfer_cohering (h : Companions cohering c c) {request : Request State}
    (htransfer : request.isTransfer = true) (hok : Untroubled (.request request) (request.serve.run.run c).1) :
    Companions cohering (request.serve.run.run c).2 (request.serve.run.run c).2 := by
  have hvalue {α : Type} {f : α → Value} {work : Engine State α}
      (hok : ∃ value, ((f <$> work).run.run c).1 = .ok value) : ∃ a, (work.run.run c).1 = .ok a := by
    obtain ⟨value, hvalue⟩ := hok
    rw [run_map] at hvalue
    cases hwork : (work.run.run c).1 with
    | ok a => exact ⟨a, rfl⟩
    | error error =>
        rw [hwork] at hvalue
        cases hvalue
  -- Plain uses keep coherence even where they fail, but transfers at a position have to succeed.
  cases request with
  | read key buffer =>
      apply Companions.self_map
      by_cases hsize : buffer = []
      · subst hsize
        exact (Companions.refused .read .emptyBuffer c c h).2
      · rw [Plain.read_eq key hsize]
        exact plain_cohering h (follows_reading buffer.length) _
  | write key data =>
      apply Companions.self_map
      by_cases hsize : data = []
      · subst hsize
        exact (Companions.refused .write .emptyBuffer c c h).2
      · rw [Plain.write_eq key hsize]
        exact plain_cohering h (follows_writing data) _
  | lseek key target =>
      apply Companions.self_map
      rw [Plain.lseek_eq]
      exact plain_cohering h (follows_seeking target) _
  | pread key buffer offset =>
      apply Companions.self_map
      obtain ⟨a, hread⟩ := hvalue hok
      exact positioned_cohering h (leads_reading buffer offset) (Positioned.reading_serves key buffer offset) hread
  | pwrite key data offset =>
      apply Companions.self_map
      obtain ⟨a, hwritten⟩ := hvalue hok
      exact positioned_cohering h (leads_writing data offset) (Positioned.writing_serves key data offset) hwritten
  | _ => exact Bool.noConfusion htransfer

end Requests

/-- **The recorded position is where the file is.** Whatever a session with backends in memory goes through, as long
as no transfer at a position fails, every handle of an open file is recorded to be where the backend has the file,
up to the greatest position that there can be. -/
theorem offset_eq_position (config : Config) {host : Host State} (world : State) {steps : List (Step State)}
    (hhost : Makes (fun b _ => InMemory (fun _ => True) b) host)
    (hsteps : List.Forall₂ Untroubled steps (Session.run steps (Session.start config host world)).1) :
    let t := (Session.run steps (Session.start config host world)).2.context
    ∀ (id : HandleId) (handle : FileHandle) (index : Nat), t.handles[id]? = some handle →
      handle.payload = .openFile index →
        ∃ file, t.world.openFiles[index]? = some file ∧ handle.offset = min file.position maxOffset := by
  have hstart : (Session.start config host world).Upholds cohering :=
    Session.upholds_start config hhost (Lodged.empty world)
  have hrun := Session.upholds_run (fun _ => rfl) fair_cohering (fun _ _ => admits_cohering)
    (fun s request hupholds htransfer hok => transfer_cohering hupholds.companions htransfer hok) hstart hsteps
  intro t id handle index hget hpayload
  exact hrun.companions.like.2.2.placed id handle hget index hpayload

/-- A backend whose seeks land one byte behind where they should, and that positions its reads itself. -/
def skewedSpec : Spec := { name := "skewed", scheme := "mem://", nativePread := true, seekSkew := 1, store := "files" }

/-- A file is written; a seek lands elsewhere, another one fails, and something is read at a position. -/
def meandering : List (Step State) :=
  [.register fun id => backend id skewedSpec, .request (.openFile "mem://f" createFlag ⟨0o644⟩),
    .request (.write (.pack 0 0) [7, 8, 9]), .request (.lseek (.pack 0 0) (.start 1)),
    .request (.lseek (.pack 0 0) (.current (-5))), .request (.pread (.pack 0 0) [0] 0)]

def emptySession : Session State := .start { loadPlugins := false } {} {}

theorem untroubled_meandering : List.Forall₂ Untroubled meandering (Session.run meandering emptySession).1 := by
  have houtcomes : (Session.run meandering emptySession).1 =
      [.ok .unit, .ok (.key (.pack 0 0)), .ok (.number 3), .ok (.number 2),
        .error (.backend "lseek" negativeOffset), .ok (.transfer 1 [7])] := by cbv
  have hregister (outcome : Except Error Value) :
      Untroubled (.register fun id => backend id skewedSpec) outcome := inMemory_newcomer trivial
  rw [houtcomes]
  exact .cons (hregister _) (.cons trivial (.cons trivial (.cons trivial (.cons trivial (.cons ⟨_, rfl⟩ .nil)))))

theorem offset_eq_position_meandering :
    Makes (fun b _ => InMemory (fun _ => True) b) ({} : Host State) ∧
      List.Forall₂ Untroubled meandering (Session.run meandering emptySession).1 ∧
      ∀ (id : HandleId) (handle : FileHandle) (index : Nat),
        (Session.run meandering emptySession).2.context.handles[id]? = some handle →
          handle.payload = .openFile index →
            ∃ file, (Session.run meandering emptySession).2.context.world.openFiles[index]? = some file ∧
              handle.offset = min file.position maxOffset :=
  ⟨makes_nothing, untroubled_meandering,
    offset_eq_position { loadPlugins := false } {} makes_nothing untroubled_meandering⟩

end Memory

end StorageDispatch

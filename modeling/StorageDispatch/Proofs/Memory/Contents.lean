import StorageDispatch.Proofs.Memory.Serving
import StorageDispatch.Proofs.Session.Turn

set_option autoImplicit false

/-! # The contents of files over a session

`Mirrors` ties a context whose only backend is in memory to the `Files` that its user sees. One request that the
context serves is one step of the files (`Mirrors.serve`), and so a sequence of requests is a run of them
(`Mirrors.run`).

What carries the proof is that no two keys share an open file of the backend: a transfer under one key moves no
other.
-/

namespace StorageDispatch

namespace Memory

open Context DescriptorTable

variable {id : InstanceId} {spec : Spec} {limit : Nat} {c d : Context State} {keys : Bindings HandleId}
  {files files' : Files} {key : DescriptorKey} {h : HandleId} {index : Nat} {file : OpenFile}

/-! ## Files that stay there -/

namespace Files

def Remain (before after : String → Option Bytes) : Prop := ∀ url, (before url).isSome → (after url).isSome

theorem Remain.refl (contents : String → Option Bytes) : Remain contents contents := fun _ hsome => hsome

theorem isSome_put (files : Files) (url : String) (contents : Bytes) :
    ((files.put url contents).contents url).isSome := by
  simp [put]

theorem remain_put (files : Files) (url : String) (contents : Bytes) :
    Remain files.contents (files.put url contents).contents := by
  intro other hsome
  by_cases hother : other = url
  · rw [hother]
    exact files.isSome_put url contents
  · simpa [put, Function.update_of_ne hother] using hsome

/-- What is made if need be is there. -/
theorem isSome_ensure (files : Files) (url : String) : ((files.ensure url).contents url).isSome := by
  unfold ensure
  split
  · rename_i contents hcontents
    rw [hcontents]
    rfl
  · exact files.isSome_put url []

theorem remain_ensure (files : Files) (url : String) : Remain files.contents (files.ensure url).contents := by
  unfold ensure
  split
  · exact .refl _
  · exact files.remain_put url []

@[simp] theorem opened_ensure (files : Files) (url : String) : (files.ensure url).opened = files.opened := by
  unfold ensure
  split <;> rfl

/-- A file that moves to where it is does not move. -/
theorem place_self (files : Files) (h : files.opened.lookup key = some file) :
    files.place key file file.position = files := by
  have hopened : files.opened.insert key file = files.opened := by
    refine Finmap.ext_lookup fun other => ?_
    by_cases hother : other = key
    · rw [hother, Finmap.lookup_insert, h]
    · rw [Finmap.lookup_insert_of_ne _ hother]
  rw [place, hopened]

end Files

/-! ## What a context stands for -/

/-- **A handle through which a file is open**: the file is in this place in the world. -/
structure Stands (spec : Spec) (c : Context State) (h : HandleId) (index : Nat) (file : OpenFile) : Prop where
  lt_size : h < c.handles.size
  owner_eq : (c.shown h).handle.owner = spec.name
  payload_eq : (c.shown h).handle.payload = .openFile index
  openFile_eq : c.world.openFiles[index]? = some file

theorem Stands.index_lt (hs : Stands spec c h index file) : index < c.world.openFiles.size :=
  (Array.getElem?_eq_some_iff.mp hs.openFile_eq).1

/-- Only handles and open files matter. -/
theorem Stands.congr (hs : Stands spec c h index file) (hhandles : d.handles = c.handles)
    (hfiles : d.world.openFiles = c.world.openFiles) : Stands spec d h index file := by
  obtain ⟨hlt, howner, hpayload, hopen⟩ := hs
  unfold shown at howner hpayload
  rw [← hhandles] at hlt howner hpayload
  rw [← hfiles] at hopen
  exact ⟨hlt, howner, hpayload, hopen⟩

/-- A handle goes on to stand for the file that is in its place. -/
theorem Stands.alike (hs : Stands spec c h index file) (halike : Alike c d) {file' : OpenFile}
    (hfile : d.world.openFiles[index]? = some file') : Stands spec d h index file' := by
  constructor
  · rw [halike.size_eq]
    exact hs.lt_size
  · rw [halike.owner_eq, hs.owner_eq]
  · rw [halike.payload_eq, hs.payload_eq]
  · exact hfile

section Pushed

variable {registry : Registry State} {after : State} {handle : FileHandle} {url : String}
  (hpushed : after.openFiles = c.world.openFiles.push { url })

include hpushed

/-- What is open stays open while another file is opened. -/
theorem Stands.beside (hs : Stands spec c h index file) :
    Stands spec (({ c with registry }.inWorld after).holding handle) h index file := by
  have hne : h ≠ c.handles.size := Nat.ne_of_lt hs.lt_size
  have hshown : (({ c with registry }.inWorld after).holding handle).shown h = c.shown h := by
    rw [shown_holding]
    exact if_neg hne
  constructor
  · show h < (c.handles.push handle).size
    rw [Array.size_push]
    exact Nat.lt_succ_of_lt hs.lt_size
  · rw [hshown, hs.owner_eq]
  · rw [hshown, hs.payload_eq]
  · show after.openFiles[index]? = some file
    rw [hpushed, Array.getElem?_push, if_neg (Nat.ne_of_lt hs.index_lt), hs.openFile_eq]

/-- The file that is opened is the last one, and so is its handle. -/
theorem Stands.last (howner : handle.owner = spec.name)
    (hpayload : handle.payload = .openFile c.world.openFiles.size) :
    Stands spec (({ c with registry }.inWorld after).holding handle) c.handles.size c.world.openFiles.size
      { url } := by
  have hshown : (({ c with registry }.inWorld after).holding handle).shown c.handles.size =
      ⟨c.handles.size, handle⟩ := by
    rw [shown_holding]
    exact if_pos rfl
  constructor
  · show c.handles.size < (c.handles.push handle).size
    rw [Array.size_push]
    exact Nat.lt_succ_self _
  · rw [hshown, howner]
  · rw [hshown, hpayload]
  · show after.openFiles[c.world.openFiles.size]? = some { url }
    rw [hpushed, Array.getElem?_push_size]

end Pushed

/-- **The simulation relation**: which handle is under which key, and what is open under it. -/
structure Mirrors (id : InstanceId) (spec : Spec) (limit : Nat) (c : Context State) (keys : Bindings HandleId)
    (files : Files) : Prop where
  lone : Lone (backend id spec) c
  denotes : Denotes Resource.file.name limit (c.table .file) keys
  contents_eq : c.world.contents spec.store = files.contents
  keys_eq : keys.keys = files.opened.keys
  ready : ∀ key ∈ keys, c.registry.phase = .ready
  stands : ∀ key h, keys.lookup key = some h → ∃ index file, Stands spec c h index file ∧
    files.opened.lookup key = some file ∧ (files.contents file.url).isSome
  distinct : ∀ key h key' h', keys.lookup key = some h → keys.lookup key' = some h' →
    (c.shown h).handle.payload = (c.shown h').handle.payload → key = key'

/-- **A request is served as the files say**: its outcome is that of a step of the files, to the ones that the
context stands for from then on. -/
def Serves (id : InstanceId) (spec : Spec) (limit : Nat) (c : Context State) (files : Files)
    (request : Request State) : Prop :=
  ∃ outcome made d keys files', Does request.serve c outcome made d ∧
    Files.Step spec limit files request outcome files' ∧ Mirrors id spec limit d keys files'

namespace Mirrors

theorem mem_iff (hm : Mirrors id spec limit c keys files) (key : DescriptorKey) :
    key ∈ keys ↔ key ∈ files.opened := by
  rw [← Finmap.mem_keys, hm.keys_eq, Finmap.mem_keys]

theorem size_eq (hm : Mirrors id spec limit c keys files) : keys.size = files.opened.size := by
  rw [Bindings.size, hm.keys_eq, Bindings.size]

/-- Other handles and other open files may come, and contents may change. -/
theorem carry (hm : Mirrors id spec limit c keys files) (hlone : Lone (backend id spec) d)
    (hready : c.registry.phase = .ready → d.registry.phase = .ready) (htable : d.table .file = c.table .file)
    (hstands : ∀ h index file, Stands spec c h index file → Stands spec d h index file)
    (hcontents : d.world.contents spec.store = files'.contents) (hopened : files'.opened = files.opened)
    (hremain : Files.Remain files.contents files'.contents) :
    Mirrors id spec limit d keys files' where
  lone := hlone
  denotes := by
    rw [htable]
    exact hm.denotes
  contents_eq := hcontents
  keys_eq := by rw [hm.keys_eq, hopened]
  ready key hmem := hready (hm.ready key hmem)
  stands key h hlookup := by
    obtain ⟨index, file, hs, hopen, hthere⟩ := hm.stands key h hlookup
    rw [hopened]
    exact ⟨index, file, hstands h index file hs, hopen, hremain file.url hthere⟩
  distinct key h key' h' hlookup hlookup' hpayload := by
    obtain ⟨index, file, hs, -⟩ := hm.stands key h hlookup
    obtain ⟨index', file', hs', -⟩ := hm.stands key' h' hlookup'
    rw [(hstands _ _ _ hs).payload_eq, (hstands _ _ _ hs').payload_eq] at hpayload
    refine hm.distinct key h key' h' hlookup hlookup' ?_
    rw [hs.payload_eq, hs'.payload_eq, hpayload]

/-- Everything else about a context does not matter. -/
theorem congr (hm : Mirrors id spec limit c keys files) (hlone : Lone (backend id spec) d)
    (hready : c.registry.phase = .ready → d.registry.phase = .ready) (htable : d.table .file = c.table .file)
    (hhandles : d.handles = c.handles) (hcontents : d.world.contents spec.store = c.world.contents spec.store)
    (hfiles : d.world.openFiles = c.world.openFiles) : Mirrors id spec limit d keys files :=
  hm.carry hlone hready htable (fun _ _ _ hs => hs.congr hhandles hfiles) (hcontents.trans hm.contents_eq) rfl
    (.refl _)

theorem recording (hm : Mirrors id spec limit c keys files) (events : List Event) :
    Mirrors id spec limit (c.recording events) keys files :=
  hm.congr (hm.lone.congr rfl rfl rfl) (fun hready => hready) rfl rfl rfl rfl

/-! ## Requests on an open file -/

/-- A key of the table is one of an open file, of which the store has the contents. -/
theorem hasOpen (hm : Mirrors id spec limit c keys files) (hlookup : keys.lookup key = some h) :
    ∃ plugin index file bytes, HasOpen id spec plugin c key h index file bytes ∧ Stands spec c h index file ∧
      files.opened.lookup key = some file ∧ files.contents file.url = some bytes := by
  obtain ⟨index, file, hs, hopened, hsome⟩ := hm.stands key h hlookup
  obtain ⟨bytes, hbytes⟩ := Option.isSome_iff_exists.mp hsome
  have hready := hm.ready key (Finmap.mem_of_lookup_eq_some hlookup)
  cases hm.lone with
  | waiting hphase => exact absurd (hphase.symm.trans hready) nofun
  | listed plugin hbackend _ hplugins =>
      have hreaches : c.world.Reaches spec.store (c.shown h) index file bytes :=
        ⟨hs.payload_eq, hs.openFile_eq, (congrFun hm.contents_eq file.url).trans hbytes⟩
      have hfind : (c.table .file).find? key = some h := (hm.denotes.find?_eq key).trans hlookup
      exact ⟨plugin, index, file, bytes, ⟨hbackend, hready, hplugins, hfind, hs.owner_eq, hreaches⟩, hs, hopened,
        hbytes⟩

/-- A transfer or a seek under a key changes what is under this key, and nothing that is under another. -/
theorem used (hm : Mirrors id spec limit c keys files) (hlookup : keys.lookup key = some h)
    (hs : Stands spec c h index file) (halike : Alike c d) {contents : String → Option Bytes} {file' : OpenFile}
    (hbecame : c.world.Became spec.store contents index file' d.world)
    (hfile : (contents file'.url).isSome) (hremain : Files.Remain files.contents contents) :
    Mirrors id spec limit d keys ⟨contents, files.opened.insert key file'⟩ where
  lone := by
    cases hm.lone with
    | waiting hphase =>
        exact absurd (hphase.symm.trans (hm.ready key (Finmap.mem_of_lookup_eq_some hlookup))) nofun
    | listed plugin hbackend hready hplugins =>
        rw [← halike.registry_eq] at hready hplugins
        exact .listed plugin hbackend hready hplugins
  denotes := by
    rw [halike.table_eq]
    exact hm.denotes
  contents_eq := hbecame.contents_eq
  keys_eq := by
    ext other
    have hkey : key ∈ files.opened := (hm.mem_iff key).mp (Finmap.mem_of_lookup_eq_some hlookup)
    rw [Finmap.mem_keys, Finmap.mem_keys, Finmap.mem_insert, hm.mem_iff]
    constructor
    · exact .inr
    · rintro (rfl | hmem)
      · exact hkey
      · exact hmem
  ready other hmem := by
    rw [halike.registry_eq]
    exact hm.ready other hmem
  stands other h' hlookup' := by
    by_cases hother : other = key
    · subst hother
      cases hlookup.symm.trans hlookup'
      refine ⟨index, file', hs.alike halike ?_, Finmap.lookup_insert _, hfile⟩
      rw [hbecame.openFiles_eq, if_pos rfl]
    · obtain ⟨index', file'', hs', hopened, hthere⟩ := hm.stands other h' hlookup'
      -- The place of another key's file is another one.
      have hindex : index' ≠ index := fun heq => hother
        (hm.distinct other h' key h hlookup' hlookup (by rw [hs'.payload_eq, hs.payload_eq, heq]))
      refine ⟨index', file'', hs'.alike halike ?_, ?_, hremain _ hthere⟩
      · rw [hbecame.openFiles_eq, if_neg hindex, hs'.openFile_eq]
      · rw [Finmap.lookup_insert_of_ne _ hother, hopened]
  distinct key h key' h' hlookup hlookup' hpayload := by
    rw [halike.payload_eq, halike.payload_eq] at hpayload
    exact hm.distinct key h key' h' hlookup hlookup' hpayload

/-! ## Keys that come and go -/

/-- A handle gets a key, of a file that is open in a place of its own. -/
theorem insert (hm : Mirrors id spec limit c keys files) {table : DescriptorTable HandleId}
    (hinsert : (c.table .file).insert h = .ok (key, table)) (hready : c.registry.phase = .ready)
    (hs : Stands spec c h index file) (hnew : ∀ key h', keys.lookup key = some h' →
      (c.shown h').handle.payload ≠ .openFile index) (hthere : (files.contents file.url).isSome) :
    Mirrors id spec limit (c.withTable .file table) (keys.insert key h)
      { files with opened := files.opened.insert key file } where
  lone := hm.lone.congr rfl rfl rfl
  denotes := by
    rw [table_withTable]
    exact hm.denotes.insert hinsert
  contents_eq := hm.contents_eq
  keys_eq := by
    ext other
    simp only [Finmap.mem_keys, Finmap.mem_insert, hm.mem_iff]
  ready _ _ := hready
  stands other h' hlookup := by
    by_cases hother : other = key
    · subst hother
      rw [Finmap.lookup_insert] at hlookup
      cases hlookup
      exact ⟨index, file, hs.congr rfl rfl, Finmap.lookup_insert _, hthere⟩
    · rw [Finmap.lookup_insert_of_ne _ hother] at hlookup
      obtain ⟨index', file', hs', hopened, hthere'⟩ := hm.stands other h' hlookup
      refine ⟨index', file', hs'.congr rfl rfl, ?_, hthere'⟩
      rw [Finmap.lookup_insert_of_ne _ hother, hopened]
  distinct one h₁ two h₂ hone htwo hpayload := by
    have hpayload : (c.shown h₁).handle.payload = (c.shown h₂).handle.payload := hpayload
    -- The new key and an old one have different places, and of old keys it is known.
    by_cases h1 : one = key
    · by_cases h2 : two = key
      · rw [h1, h2]
      · rw [h1, Finmap.lookup_insert] at hone
        rw [Finmap.lookup_insert_of_ne _ h2] at htwo
        cases hone
        exact absurd (hpayload.symm.trans hs.payload_eq) (hnew two h₂ htwo)
    · by_cases h2 : two = key
      · rw [h2, Finmap.lookup_insert] at htwo
        rw [Finmap.lookup_insert_of_ne _ h1] at hone
        cases htwo
        exact absurd (hpayload.trans hs.payload_eq) (hnew one h₁ hone)
      · rw [Finmap.lookup_insert_of_ne _ h1] at hone
        rw [Finmap.lookup_insert_of_ne _ h2] at htwo
        exact hm.distinct one h₁ two h₂ hone htwo hpayload

/-- A key is taken away. -/
theorem erase (hm : Mirrors id spec limit c keys files) {table : DescriptorTable HandleId}
    (hremove : (c.table .file).remove key = .ok (h, table)) :
    Mirrors id spec limit (c.withTable .file table) (keys.erase key) (files.forget key) where
  lone := hm.lone.congr rfl rfl rfl
  denotes := by
    rw [table_withTable]
    exact hm.denotes.remove hremove
  contents_eq := hm.contents_eq
  keys_eq := by
    rw [Finmap.keys_erase, hm.keys_eq]
    exact (Finmap.keys_erase key files.opened).symm
  ready other hmem := hm.ready other (Finmap.mem_erase.mp hmem).2
  stands other h' hlookup := by
    have hother : other ≠ key := (Finmap.mem_erase.mp (Finmap.mem_of_lookup_eq_some hlookup)).1
    rw [Finmap.lookup_erase_ne hother] at hlookup
    obtain ⟨index, file, hs, hopened, hthere⟩ := hm.stands other h' hlookup
    refine ⟨index, file, hs.congr rfl rfl, ?_, hthere⟩
    rw [Files.forget, Finmap.lookup_erase_ne hother, hopened]
  distinct one h₁ two h₂ hone htwo hpayload := by
    have h1 : one ≠ key := (Finmap.mem_erase.mp (Finmap.mem_of_lookup_eq_some hone)).1
    have h2 : two ≠ key := (Finmap.mem_erase.mp (Finmap.mem_of_lookup_eq_some htwo)).1
    rw [Finmap.lookup_erase_ne h1] at hone
    rw [Finmap.lookup_erase_ne h2] at htwo
    exact hm.distinct one h₁ two h₂ hone htwo hpayload

/-! ## Requests -/

variable {request : Request State}

/-- A request that changes nothing but whether the table is there. -/
theorem unchanged (hm : Mirrors id spec limit c keys files) :
    Mirrors id spec limit (c.withTable .file (c.table .file)) keys files :=
  hm.congr (hm.lone.congr rfl rfl rfl) (fun hready => hready) (table_withTable c .file _) rfl rfl rfl

/-- A key under which nothing is open is refused. -/
theorem badKey (hm : Mirrors id spec limit c keys files) (hkey : request.handle? = some (.file, key))
    (hsize : request.transfersNothing = false) (hlookup : keys.lookup key = none) :
    Serves id spec limit c files request := by
  have hfind : (c.table .file).find? key = none := (hm.denotes.find?_eq key).trans hlookup
  have hbad : key ∉ files.opened := by
    rw [← hm.mem_iff, ← Finmap.lookup_eq_none, hlookup]
  have hdoes := badKey_does hkey hsize hfind
  rw [hm.denotes.badKey_eq] at hdoes
  exact ⟨_, _, _, keys, files, hdoes, .badKey hkey hsize hbad, hm.unchanged⟩

theorem emptyBuffer (hm : Mirrors id spec limit c keys files) (hsize : request.transfersNothing = true) :
    Serves id spec limit c files request :=
  ⟨_, _, c, keys, files, emptyBuffer_does hsize c, .emptyBuffer hsize, hm⟩

/-- A request on a key is refused, unless it is served on the file that is open under the key. -/
theorem onKey (hm : Mirrors id spec limit c keys files) (hkey : request.handle? = some (.file, key))
    (hsize : request.transfersNothing = false)
    (hserves : ∀ (plugin : Plugin State) (h : HandleId) (index : Nat) (file : OpenFile) (bytes : Bytes),
      keys.lookup key = some h → HasOpen id spec plugin c key h index file bytes → Stands spec c h index file →
      files.opened.lookup key = some file → files.contents file.url = some bytes →
      Serves id spec limit c files request) : Serves id spec limit c files request := by
  cases hlookup : keys.lookup key with
  | none => exact hm.badKey hkey hsize hlookup
  | some h =>
      obtain ⟨plugin, index, file, bytes, ho, hs, hopened, hbytes⟩ := hm.hasOpen hlookup
      exact hserves plugin h index file bytes hlookup ho hs hopened hbytes

/-- Work on the file that is open under a key. -/
theorem uses (hm : Mirrors id spec limit c keys files) (hlookup : keys.lookup key = some h)
    (hs : Stands spec c h index file) {α : Type} {work : Engine State α} {result : Except Error α} {f : α → Value}
    (hserve : request.serve = f <$> work) {contents : String → Option Bytes} {file' : OpenFile}
    (huses : Uses spec.store work c result contents index file')
    (hstep : Files.Step spec limit files request (f <$> result) ⟨contents, files.opened.insert key file'⟩)
    (hfile : (contents file'.url).isSome) (hremain : Files.Remain files.contents contents) :
    Serves id spec limit c files request := by
  obtain ⟨made, d, hdoes, halike, hbecame⟩ := huses
  refine ⟨_, made, d, keys, _, ?_, hstep, hm.used hlookup hs halike hbecame hfile hremain⟩
  rw [hserve]
  exact hdoes.map f

theorem read (hm : Mirrors id spec limit c keys files) (key : DescriptorKey) (buffer : Bytes) :
    Serves id spec limit c files (.read key buffer) := by
  by_cases hsize : buffer = []
  · exact hm.emptyBuffer (by rw [hsize]; rfl)
  · refine hm.onKey rfl (by simpa [Request.transfersNothing] using hsize) ?_
    intro plugin h index file bytes hlookup ho hs hopened hbytes
    have huses := ho.read hsize
    rw [hm.contents_eq] at huses
    exact hm.uses hlookup hs rfl huses (.read hsize hopened hbytes) (Option.isSome_of_eq_some hbytes) (.refl _)

theorem write (hm : Mirrors id spec limit c keys files) (key : DescriptorKey) (data : Bytes) :
    Serves id spec limit c files (.write key data) := by
  by_cases hsize : data = []
  · exact hm.emptyBuffer (by rw [hsize]; rfl)
  · refine hm.onKey rfl (by simpa [Request.transfersNothing] using hsize) ?_
    intro plugin h index file bytes hlookup ho hs hopened hbytes
    have huses := ho.write hsize
    rw [hm.contents_eq] at huses
    exact hm.uses hlookup hs rfl huses (.write hsize hopened hbytes) (files.isSome_put file.url _)
      (files.remain_put file.url _)

theorem pread (hm : Mirrors id spec limit c keys files) (hskew : spec.seekSkew = 0) (key : DescriptorKey)
    (buffer : Bytes) {offset : Nat} (hle : offset ≤ maxOffset) :
    Serves id spec limit c files (.pread key buffer offset) := by
  refine hm.onKey rfl rfl ?_
  intro plugin h index file bytes hlookup ho hs hopened hbytes
  have hstep : Files.Step spec limit files (.pread key buffer offset) _ _ := .pread hopened hbytes
  cases hnative : spec.nativePread with
  | true =>
      have huses := ho.pread_native hnative buffer offset
      rw [hm.contents_eq] at huses
      rw [if_pos hnative] at hstep
      exact hm.uses hlookup hs rfl huses hstep (Option.isSome_of_eq_some hbytes) (.refl _)
  | false =>
      have huses := ho.pread_emulated hskew hnative buffer hle
      rw [hm.contents_eq] at huses
      rw [if_neg (by simp [hnative])] at hstep
      exact hm.uses hlookup hs rfl huses hstep (Option.isSome_of_eq_some hbytes) (.refl _)

theorem pwrite (hm : Mirrors id spec limit c keys files) (hskew : spec.seekSkew = 0) (key : DescriptorKey)
    (data : Bytes) {offset : Nat} (hle : offset ≤ maxOffset) :
    Serves id spec limit c files (.pwrite key data offset) := by
  refine hm.onKey rfl rfl ?_
  intro plugin h index file bytes hlookup ho hs hopened hbytes
  have huses := ho.pwrite hskew data hle
  rw [hm.contents_eq] at huses
  exact hm.uses hlookup hs rfl huses (.pwrite hopened hbytes) (files.isSome_put file.url _)
    (files.remain_put file.url _)

theorem lseek (hm : Mirrors id spec limit c keys files) (hskew : spec.seekSkew = 0) (key : DescriptorKey)
    {target : SeekTarget} (htarget : ∀ offset, target = .start offset → offset ≤ maxOffset) :
    Serves id spec limit c files (.lseek key target) := by
  refine hm.onKey rfl rfl ?_
  intro plugin h index file bytes hlookup ho hs hopened hbytes
  cases hseek : seekPosition? target file.position bytes.length with
  | some position =>
      have huses := ho.lseek hskew (State.seekPosition?_le htarget hseek) hseek
      rw [hm.contents_eq] at huses
      exact hm.uses hlookup hs rfl huses (.lseek hopened hbytes hseek) (Option.isSome_of_eq_some hbytes)
        (.refl _)
  | none =>
      -- The file stays where it is, so that this is a step that moves nothing.
      have huses := ho.lseek_outOfReach hseek
      have hstep : Files.Step spec limit files (.lseek key target) (.error (.backend "lseek" negativeOffset))
          (files.place key file file.position) := by
        rw [files.place_self hopened]
        exact .outOfReach hopened hbytes hseek
      rw [hm.contents_eq] at huses
      exact hm.uses hlookup hs rfl huses hstep (Option.isSome_of_eq_some hbytes) (.refl _)

theorem close (hm : Mirrors id spec limit c keys files) (key : DescriptorKey) :
    Serves id spec limit c files (.close key) := by
  refine hm.onKey rfl rfl ?_
  intro plugin h index file bytes hlookup ho hs hopened hbytes
  obtain ⟨table, hremove⟩ := remove_of_find? ho.find?_eq
  have hclosed := hm.erase hremove
  refine ⟨_, _, _, keys.erase key, _, (ho.close hremove).map _, .closed hopened, ?_⟩
  exact hclosed.congr (hclosed.lone.congr rfl rfl rfl) (fun hready => hready) rfl rfl rfl rfl

/-! ## Opening -/

/-- No key is one of the place where a file is opened. -/
theorem payload_ne (hm : Mirrors id spec limit c keys files) {registry : Registry State} {after : State}
    {handle : FileHandle} {url : String} (hpushed : after.openFiles = c.world.openFiles.push { url })
    (hlookup : keys.lookup key = some h) :
    ((({ c with registry }.inWorld after).holding handle).shown h).handle.payload ≠
      .openFile c.world.openFiles.size := by
  obtain ⟨index, file, hs, -⟩ := hm.stands key h hlookup
  rw [(hs.beside hpushed).payload_eq]
  intro hpayload
  cases hpayload
  exact absurd hs.index_lt (Nat.lt_irrefl _)

/-- A file that is there, or may be made, is opened if there is room for it. -/
theorem openFile_admitted (hm : Mirrors id spec limit c keys files) {url : String} {flags : UInt32} (mode : Mode)
    (hadmits : files.Admits spec url flags) : Serves id spec limit c files (.openFile url flags mode) := by
  obtain ⟨registry, plugin, hbackend, hready, hplugins, hopen⟩ :=
    dispatchOpen_does hm.lone flags mode hadmits.1 hadmits.2.1
  obtain ⟨after, hopened, hcontents, hpushed⟩ := State.openFile_ok hm.contents_eq.symm hadmits.2.2
  rw [hopened] at hopen
  set handle : FileHandle := { owner := spec.name, payload := .openFile c.world.openFiles.size }
  -- The backend has opened the file, and its handle has no key yet.
  set held := ({ c with registry }.inWorld after).holding (handle.setPathIfMissing url)
  have hheld : Mirrors id spec limit held keys (files.ensure url) :=
    hm.carry (.listed plugin hbackend hready hplugins) (fun _ => hready) rfl (fun _ _ _ hs => hs.beside hpushed)
      hcontents (files.opened_ensure url) (files.remain_ensure url)
  have hsize := hm.denotes.hasRoom_iff
  rw [hm.size_eq] at hsize
  by_cases hroom : (c.table .file).HasRoom
  · obtain ⟨key, table, hinsert⟩ := insert_of_hasRoom hm.denotes.wellFormed hroom c.handles.size
    obtain ⟨made, hdoes⟩ := openFile_does hopen hinsert
    have hfresh : key ∉ files.opened := by
      rw [← hm.mem_iff]
      exact hm.denotes.notMem (find?_key_of_insert hm.denotes.wellFormed hinsert)
    have hlast : Stands spec held c.handles.size c.world.openFiles.size { url } := Stands.last hpushed rfl rfl
    refine ⟨_, made, _, keys.insert key c.handles.size, _, hdoes, .opened hadmits (hsize.mp hroom) hfresh, ?_⟩
    exact hheld.insert hinsert hready hlast (fun _ _ => hm.payload_ne hpushed) (files.isSome_ensure url)
  · have hinsert := insert_of_full hm.denotes.wellFormed hroom c.handles.size
    obtain ⟨made, hdoes⟩ := openFile_does_full hopen hbackend hready hplugins rfl hinsert
    refine ⟨_, made, _, keys, _, hdoes, .crowded hadmits (Nat.le_of_not_lt (hsize.not.mp hroom)), ?_⟩
    exact hheld.congr (hheld.lone.congr rfl rfl rfl) (fun hready => hready) rfl rfl rfl rfl

/-- Any other file is not opened. -/
theorem openFile_refused (hm : Mirrors id spec limit c keys files) {url : String} {flags : UInt32} (mode : Mode)
    (hrefuses : ¬ files.Admits spec url flags) : Serves id spec limit c files (.openFile url flags mode) := by
  by_cases hclaimed : url = "" ∨ spec.claimsUrl url .openFile = false
  · obtain ⟨registry, error, made, hlone, hready, hdoes⟩ := openFile_does_unclaimed hm.lone flags mode hclaimed
    refine ⟨_, made, _, keys, files, hdoes, .refused hrefuses, ?_⟩
    exact hm.congr hlone hready rfl rfl rfl rfl
  · obtain ⟨hurl, hclaims⟩ := not_or.mp hclaimed
    have hclaims : spec.claimsUrl url .openFile = true := by simpa using hclaims
    have hmissing : files.contents url = none ∧ flags &&& createFlag = 0 := by
      by_contra hthere
      exact hrefuses ⟨hurl, hclaims, fun hnone hflags => hthere ⟨hnone, hflags⟩⟩
    obtain ⟨registry, plugin, hbackend, hready, hplugins, hopen⟩ :=
      dispatchOpen_does hm.lone flags mode hurl hclaims
    rw [State.openFile_refused ((congrFun hm.contents_eq url).trans hmissing.1) hmissing.2] at hopen
    have hdoes : Does (Request.openFile url flags mode).serve c _ _ _ :=
      (hopen.bind_error fun handle => storeHandle .openFile .file url handle).map Value.key
    refine ⟨_, _, _, keys, files, hdoes, .refused hrefuses, ?_⟩
    exact hm.congr (.listed plugin hbackend hready hplugins) (fun _ => hready) rfl rfl rfl rfl

/-- **One request that uses files is one step of the files.** -/
theorem serve (hm : Mirrors id spec limit c keys files) (hskew : spec.seekSkew = 0) {request : Request State}
    (huses : request.UsesFiles) : Serves id spec limit c files request := by
  cases request with
  | openFile url flags mode =>
      by_cases hadmits : files.Admits spec url flags
      · exact hm.openFile_admitted mode hadmits
      · exact hm.openFile_refused mode hadmits
  | read key buffer => exact hm.read key buffer
  | write key data => exact hm.write key data
  | pread key buffer offset => exact hm.pread hskew key buffer huses
  | pwrite key data offset => exact hm.pwrite hskew key data huses
  | lseek key target =>
      refine hm.lseek hskew key fun offset htarget => ?_
      subst htarget
      exact huses
  | close key => exact hm.close key
  | _ => cases huses

/-- **A sequence of such requests is a run of the files.** -/
theorem run (hskew : spec.seekSkew = 0) {requests : List (Request State)}
    (huses : ∀ request ∈ requests, request.UsesFiles) {s : Session State} {keys : Bindings HandleId}
    {files : Files} (hm : Mirrors id spec limit s.context keys files) :
    let t := s.run (requests.map .request)
    ∃ keys files', Files.Run spec limit files requests t.1 files' ∧
      Mirrors id spec limit t.2.context keys files' := by
  induction requests generalizing s keys files with
  | nil => exact ⟨keys, files, .nil files, hm⟩
  | cons request requests ih =>
      have hrest (r : Request State) (hmem : r ∈ requests) : r.UsesFiles := huses r (List.mem_cons_of_mem _ hmem)
      obtain ⟨outcome, made, d, keys, next, hdoes, hstep, hnext⟩ :=
        hm.serve hskew (huses request List.mem_cons_self)
      obtain ⟨events, hleft⟩ := hdoes.context_eq
      have hthere : Mirrors id spec limit (s.step (.request request)).2.context keys next := by
        rw [show (s.step (.request request)).2.context = _ from hleft]
        exact hnext.recording events
      have houtcome : (s.step (.request request)).1 = outcome := hdoes.result_eq
      rw [← houtcome] at hstep
      obtain ⟨keys, files', hrun, hlast⟩ := ih hrest hthere
      exact ⟨keys, files', .cons hstep hrun, hlast⟩

end Mirrors

/-! ## Sessions -/

/-- A context in which no file was opened yet stands for the contents of its store, and nothing that is open. -/
theorem mirrors_new (hlone : Lone (backend id spec) c) (hfiles : c.files = none) :
    Mirrors id spec c.config.maxOpenFiles c ∅ ⟨c.world.contents spec.store, ∅⟩ where
  lone := hlone
  denotes := by
    have htable : c.table .file = .new Resource.file.name c.config.maxOpenFiles := by
      rw [table, show c.table? .file = none from hfiles]
      rfl
    rw [htable]
    exact Denotes.new _ _
  contents_eq := rfl
  keys_eq := rfl
  ready key hmem := absurd hmem Finmap.notMem_empty
  stands key h hlookup := by
    rw [Finmap.lookup_empty] at hlookup
    cases hlookup
  distinct key h key' h' hlookup := by
    rw [Finmap.lookup_empty] at hlookup
    cases hlookup

/-- **File contents through a context.** Let a backend in memory, whose seeks land where they should, be the only
one of a context in which no file was opened yet. Then whatever sequence of files is opened, read, written, sought
in and closed, under whatever keys, is a run of the `Files` that the store holds: the outcomes are those of the
run, and so are the contents of the store at its end. -/
theorem files_run {s : Session State} (hlone : Lone (backend id spec) s.context) (hfiles : s.context.files = none)
    (hskew : spec.seekSkew = 0) {requests : List (Request State)}
    (huses : ∀ request ∈ requests, request.UsesFiles) :
    let t := s.run (requests.map .request)
    ∃ files, Files.Run spec s.context.config.maxOpenFiles ⟨s.context.world.contents spec.store, ∅⟩ requests t.1
      files ∧ t.2.context.world.contents spec.store = files.contents := by
  obtain ⟨keys, files, hrun, hm⟩ := (mirrors_new hlone hfiles).run hskew huses
  exact ⟨files, hrun, hm.contents_eq⟩

def plainSpec : Spec := { name := "memory", scheme := "mem://", store := "files" }

def plainSession : Session State :=
  .after { loadPlugins := false } {} {} [.register fun id => backend id plainSpec]

def sharing : List (Request State) :=
  [.openFile "mem://f" createFlag ⟨0o644⟩, .openFile "mem://f" 0 ⟨0o644⟩, .pwrite (.pack 0 0) [7, 8] 2,
    .read (.pack 1 0) [1, 1, 1, 1, 1], .close (.pack 0 0)]

theorem sharing_run :
    Lone (backend (.registered 0) plainSpec) plainSession.context ∧ plainSession.context.files = none ∧
      plainSpec.seekSkew = 0 ∧ (∀ request ∈ sharing, request.UsesFiles) ∧
      let t := plainSession.run (sharing.map .request)
      ∃ files, Files.Run plainSpec plainSession.context.config.maxOpenFiles
        ⟨plainSession.context.world.contents plainSpec.store, ∅⟩ sharing t.1 files ∧
        t.2.context.world.contents plainSpec.store = files.contents := by
  have hlone : Lone (backend (.registered 0) plainSpec) plainSession.context := .waiting rfl rfl rfl (.nothing rfl)
  have huses : ∀ request ∈ sharing, request.UsesFiles := by
    simp [sharing, Request.UsesFiles, maxOffset]
  exact ⟨hlone, rfl, rfl, huses, files_run hlone rfl rfl huses⟩

/-- What one key wrote, another one reads, with zeros in the gap. -/
example : (plainSession.run (sharing.map .request)).1 =
    [.ok (.key (.pack 0 0)), .ok (.key (.pack 1 0)), .ok (.number 2), .ok (.transfer 4 [0, 0, 7, 8, 1]),
      .ok .unit] := by cbv

/-- **A read of no bytes is refused.** It does not return that no bytes were read, as it would if it were like the
others. -/
theorem read_nothing_refused :
    let s := (plainSession.step (.request (.openFile "mem://f" createFlag ⟨0o644⟩))).2
    s.context.world.contents plainSpec.store "mem://f" = some [] ∧
      (s.step (.request (.read (.pack 0 0) []))).1 = .error .emptyBuffer ∧
      (s.step (.request (.read (.pack 0 0) []))).1 ≠
        .ok (.transfer (Bytes.received [] 0 []).1 (Bytes.received [] 0 []).2) := by
  intro s
  have hrefused : (s.step (.request (.read (.pack 0 0) []))).1 = .error .emptyBuffer := by cbv
  refine ⟨by cbv, hrefused, ?_⟩
  rw [hrefused]
  intro heq
  cases heq

end Memory

end StorageDispatch

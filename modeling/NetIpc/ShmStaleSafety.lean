/-
This file says when stale cleanup leaves every live region in the directory.

Cleanup goes by what it reads: a file shorter than a header, a magic that is missing or a
generation of zero is junk. A region that is being made looks like that until its header
is stored, and an entry that was judged may name another file when it is removed. What
remains true is proved here: if nobody looks at a region while it is made, no region is
made under a name somebody is looking at, the clock never gives the generation zero, and
the calls on a live region's file succeed, then every live region keeps its entry.
-/

import Mathlib.Data.Fintype.Basic
import NetIpc.ShmStale

namespace NetIpc.Shm

/-! ### What a task is doing -/

/-- The path a task is looking at, and how far it is. -/
def Task.scan (task : Task) : Option (Bytes × ScanPoint) :=
  match task.job with
  | .create plan (.checking scan) => some (plan.name, scan)
  | .clean _ (.scanning name scan _) => some (name, scan)
  | _ => none

/-- The name a task is about to create exclusively. -/
def Task.opening (task : Task) : Option Bytes :=
  match task.job with
  | .create plan .openFirst | .create plan .openAgain => some plan.name
  | _ => none

/-- The name and the file a task is making a region of. -/
def Task.building (task : Task) : Option (Bytes × Nat) :=
  match task.job with
  | .create plan (.truncate inode) | .create plan (.map inode) | .create plan (.zero inode)
  | .create plan (.store inode _ _) | .create plan (.removing inode _) => some (plan.name, inode)
  | _ => none

/-- The name and the file of a region a task is making or has made. -/
def Task.owned (task : Task) : Option (Bytes × Nat) :=
  match task.job with
  | .create plan (.serving inode) => some (plan.name, inode)
  | _ => task.building

/-- The task reads the clock next. -/
def Task.atClock (task : Task) : Bool :=
  match task.job with
  | .create _ (.zero _) => true
  | _ => false

/-- The scan is about to find out what the name stands for. -/
def ScanPoint.looks : ScanPoint → Bool
  | .stat | .open => true
  | _ => false

/-- The scan has found a file and is not done with it. -/
def ScanPoint.engaged : ScanPoint → Bool
  | .stat | .open | .done _ => false
  | _ => true

/-- The file the next call of a scan is about, for the calls that may fail. -/
def ScanPoint.subject (disk : Disk) (name : Bytes) : ScanPoint → Option Nat
  | .open => disk.dir name
  | .fstat inode | .map inode => some inode
  | _ => none

theorem Task.owned_of_building {task : Task} {site : Bytes × Nat}
    (building : task.building = some site) : task.owned = some site := by
  obtain ⟨pid, job⟩ := task
  unfold Task.owned
  split
  · simp only [Task.building] at building
    split at building <;> simp_all
  · exact building

section Worlds

variable {ι : Type}

/-- When a step is harmless to live regions: a scan looks at a name under which no region is being
made; a file is created under a name no scan is engaged with; the clock gives a generation; and
calls on the file of a live region succeed, or report that descriptors are exhausted. -/
def World.Careful (world : World ι) (task : ι) (answer : Answer) : Prop :=
  (∀ look ∈ (world.tasks task).scan, look.2.looks = true →
    ∀ other, world.alive (world.tasks other).pid = true →
      ∀ site ∈ (world.tasks other).building, site.1 ≠ look.1) ∧
  (∀ name ∈ (world.tasks task).opening,
    ∀ other, world.alive (world.tasks other).pid = true →
      ∀ look ∈ (world.tasks other).scan, look.1 = name → look.2.engaged = false) ∧
  ((world.tasks task).atClock = true → answer.generation ≠ 0) ∧
  ∀ look ∈ (world.tasks task).scan, ∀ inode ∈ look.2.subject world.disk look.1,
    world.live inode = true → answer.granted = true ∨
      (look.2.looks = true ∧ staleCheckUnavailable answer.errno = true)

instance [Fintype ι] (world : World ι) (task : ι) (answer : Answer) :
    Decidable (world.Careful task answer) := by
  delta World.Careful
  infer_instance

/-! ### What holds in every world -/

/-- A region whose header is stored. -/
structure File.Complete (file : File) : Prop where
  long : headerLen.toNat ≤ file.bytes.length
  magic : loadU32 file.bytes 0 = regionMagic
  owner : file.creator = some (loadU32 file.bytes 8)
  generation : loadU32 file.bytes 12 ≠ 0

/-- A region a process created under a name and has not given up. -/
structure File.BelongsTo (file : File) (pid : UInt32) (name : Bytes) : Prop where
  creator : file.creator = some pid
  path : file.path = name
  kept : file.destroyed = false

/-- No running process is making a region of the file. -/
def World.Settled (world : World ι) (inode : Nat) : Prop :=
  ∀ task, world.alive (world.tasks task).pid = true →
    ∀ name, (world.tasks task).building ≠ some (name, inode)

/-- The name can only stand for this file. -/
structure World.Watched (world : World ι) (name : Bytes) (inode : Nat) : Prop where
  numbered : inode < world.disk.fresh
  settled : world.Settled inode
  only : ∀ other, world.disk.dir name = some other → other = inode

/-- What a scan has found out. -/
def World.Scanned (world : World ι) (name : Bytes) : ScanPoint → Prop
  | .stat | .open | .done _ => True
  | .fstat inode | .map inode | .magic inode | .owner inode => world.Watched name inode
  | .generation inode owner => world.Watched name inode ∧
    (world.live inode = true → (world.disk.files inode).creator = some owner)
  | .judge owner gen => ∀ inode, world.disk.dir name = some inode → world.live inode = true →
    (world.disk.files inode).creator = some owner ∧ gen ≠ 0
  | .unlink _ => ∀ inode, world.disk.dir name = some inode → world.live inode = false

/-- How far the header of a region is stored. -/
def Task.Storing (task : Task) (disk : Disk) : Prop :=
  match task.job with
  | .create plan (.store inode generation ends) =>
    generation ≠ 0 ∧ (∀ last ∈ ends.getLast?, last = 32) ∧
      (ends = [] → (disk.files inode).bytes = plan.written task.pid generation 32)
  | _ => True

/-- The region a task plans has room for a header. -/
def Task.Sized (task : Task) : Prop :=
  match task.job with
  | .create plan _ => 64 ≤ plan.sizes.regionSize.toNat
  | _ => True

structure World.Sound (world : World ι) : Prop where
  pid : ∀ pid, world.alive pid = true → 0 < pid ∧ pid < 0x80000000
  sized : ∀ task, (world.tasks task).Sized
  numbered : ∀ name inode, world.disk.dir name = some inode → inode < world.disk.fresh
  unborn : ∀ inode, world.disk.fresh ≤ inode → (world.disk.files inode).creator = none
  named : ∀ name inode, world.disk.dir name = some inode →
    (world.disk.files inode).creator ≠ none → (world.disk.files inode).path = name
  intact : world.Intact
  owned : ∀ task name inode, (world.tasks task).owned = some (name, inode) →
    (world.disk.files inode).BelongsTo (world.tasks task).pid name
  alone : ∀ task other name name' inode, (world.tasks task).owned = some (name, inode) →
    (world.tasks other).owned = some (name', inode) → task = other
  storing : ∀ task, (world.tasks task).Storing world.disk
  settled : ∀ inode, world.live inode = true → world.Settled inode →
    (world.disk.files inode).Complete
  scanned : ∀ task, world.alive (world.tasks task).pid = true →
    ∀ name scan, (world.tasks task).scan = some (name, scan) → world.Scanned name scan

variable {world : World ι} {name : Bytes} {inode : Nat} {task : Task} {disk : Disk} {pid : UInt32}

/-- The region a running task owns is live, and its name stands for it. -/
theorem World.Sound.dir_owned (sound : world.Sound) {task : ι}
    (runs : world.alive (world.tasks task).pid = true)
    (owned : (world.tasks task).owned = some (name, inode)) :
    world.disk.dir name = some inode := by
  have mine := sound.owned task name inode owned
  rw [← mine.path]
  exact sound.intact inode (by simp [World.live, mine.creator, runs, mine.kept])

/-! ### Worlds that only lose regions -/

/-- Old files stay whose they were, and none comes to life or is made a region of anew. -/
structure World.Fades (world world' : World ι) : Prop where
  fresh : world.disk.fresh ≤ world'.disk.fresh
  creator : ∀ inode < world.disk.fresh,
    (world'.disk.files inode).creator = (world.disk.files inode).creator
  live : ∀ inode < world.disk.fresh, world'.live inode = true → world.live inode = true
  settled : ∀ inode < world.disk.fresh, world.Settled inode → world'.Settled inode

theorem World.Watched.fades {world' : World ι} (watched : world.Watched name inode)
    (fades : world.Fades world')
    (entry : ∀ other, world'.disk.dir name = some other → world.disk.dir name = some other) :
    world'.Watched name inode where
  numbered := Nat.lt_of_lt_of_le watched.numbered fades.fresh
  settled := fades.settled inode watched.numbered watched.settled
  only other found := watched.only other (entry other found)

/-- What a scan has found out stays true while its name stands for nothing new. -/
theorem World.Scanned.fades {world' : World ι} {scan : ScanPoint}
    (scanned : world.Scanned name scan) (fades : world.Fades world')
    (numbered : ∀ inode, world.disk.dir name = some inode → inode < world.disk.fresh)
    (entry : ∀ other, world'.disk.dir name = some other → world.disk.dir name = some other) :
    world'.Scanned name scan := by
  cases scan with
  | stat | «open» | done => trivial
  | fstat inode | map inode | magic inode | owner inode =>
    exact World.Watched.fades scanned fades entry
  | generation inode owner =>
    obtain ⟨watched, owner⟩ := scanned
    refine ⟨watched.fades fades entry, fun live => ?_⟩
    rw [fades.creator inode watched.numbered]
    exact owner (fades.live inode watched.numbered live)
  | judge owner gen =>
    intro inode found live
    have old := numbered inode (entry inode found)
    rw [fades.creator inode old]
    exact scanned inode (entry inode found) (fades.live inode old live)
  | unlink result =>
    intro inode found
    have old := numbered inode (entry inode found)
    have dead := scanned inode (entry inode found)
    rw [← Bool.not_eq_true] at dead ⊢
    exact fun live => dead (fades.live inode old live)

/-! ### A scan goes on -/

/-- No running process is making a region under the name. -/
def World.Finished (world : World ι) (name : Bytes) : Prop :=
  ∀ other, world.alive (world.tasks other).pid = true →
    ∀ site ∈ (world.tasks other).building, site.1 ≠ name

/-- A name under which no region is being made stands for a file a scan may watch. -/
theorem World.Sound.watched (sound : world.Sound) (found : world.disk.dir name = some inode)
    (finished : world.Finished name) : world.Watched name inode where
  numbered := sound.numbered name inode found
  settled := by
    intro other alive name' building
    have owns := sound.owned other name' inode (Task.owned_of_building building)
    refine finished other alive _ building ?_
    rw [← owns.path]
    exact sound.named name inode found (by simp [owns.creator])
  only _ found' := Option.some.inj (found'.symm.trans found)

/-- A watched file that lives is a complete region. -/
theorem World.Sound.complete_of_watched (sound : world.Sound) (watched : world.Watched name inode)
    (lives : world.live inode = true) :
    (world.disk.files inode).Complete :=
  sound.settled inode lives watched.settled

/-- What a scan may remove of a file that it watches. -/
theorem World.Watched.dead (watched : world.Watched name inode) (dead : world.live inode ≠ true) :
    ∀ other, world.disk.dir name = some other → world.live other = false := by
  intro other found
  rw [watched.only other found]
  exact Bool.eq_false_iff.mpr dead

theorem World.pidAlive_of_live (sound : world.Sound) {owner : UInt32}
    (creator : (world.disk.files inode).creator = some owner) (lives : world.live inode = true) :
    pidAlive world.alive owner = true := by
  rw [World.live, creator, Bool.and_eq_true] at lives
  obtain ⟨positive, small⟩ := sound.pid owner lives.1
  refine decide_eq_true ⟨fun zero => ?_, small, lives.1⟩
  rw [zero] at positive
  exact absurd positive (by decide)

/-- A failed `open` of the file of a live region is not followed by an unlink. -/
theorem World.scanned_openFailed {check : Bool} {errno : Int}
    (excused : ∀ inode, world.disk.dir name = some inode → world.live inode = true →
      staleCheckUnavailable errno = true) : world.Scanned name (openFailed check errno) := by
  unfold openFailed
  split_ifs with vanished unavailable
  · trivial
  · trivial
  · intro inode found
    exact Bool.eq_false_iff.mpr fun lives => unavailable (excused inode found lives)

/-- A scan has found out more and left the disk as it was. -/
structure World.Finds (world : World ι) (name : Bytes) (outcome : ScanPoint × Disk) : Prop where
  disk : outcome.2 = world.disk
  scanned : world.Scanned name outcome.1

theorem World.Sound.finds_stat (sound : world.Sound) (check : Bool) (answer : Answer)
    (finished : world.Finished name) :
    world.Finds name (Shm.scanStep world.alive check name answer world.disk .stat) := by
  dsimp only [Shm.scanStep]
  split
  · exact ⟨rfl, trivial⟩
  · rename_i inode found
    have watched := sound.watched found finished
    split_ifs with refused short
    · exact ⟨rfl, trivial⟩
    · exact ⟨rfl, watched.dead fun lives =>
        Nat.not_lt.mpr (sound.complete_of_watched watched lives).long short⟩
    · exact ⟨rfl, trivial⟩

theorem World.Sound.finds_open (sound : world.Sound) (check : Bool) {answer : Answer}
    (finished : world.Finished name)
    (granted : ∀ inode, world.disk.dir name = some inode → world.live inode = true →
      answer.granted = true ∨ staleCheckUnavailable answer.errno = true) :
    world.Finds name (Shm.scanStep world.alive check name answer world.disk .open) := by
  dsimp only [Shm.scanStep]
  by_cases allowed : answer.granted = true
  · rw [if_pos allowed]
    split
    · rename_i vanished
      refine ⟨rfl, World.scanned_openFailed fun inode found => ?_⟩
      exact nomatch vanished.symm.trans found
    · rename_i inode found
      cases check <;> exact ⟨rfl, sound.watched found finished⟩
  · rw [if_neg allowed]
    exact ⟨rfl, World.scanned_openFailed fun inode found lives =>
      (granted inode found lives).resolve_left allowed⟩

theorem World.Sound.finds_fstat (sound : world.Sound) (check : Bool) {answer : Answer}
    (watched : world.Watched name inode)
    (granted : world.live inode = true → answer.granted = true) :
    world.Finds name (Shm.scanStep world.alive check name answer world.disk (.fstat inode)) := by
  dsimp only [Shm.scanStep]
  split_ifs with bad
  · refine ⟨rfl, watched.dead fun lives => ?_⟩
    rcases bad with refused | short
    · exact Bool.noConfusion ((granted lives).symm.trans refused)
    · exact Nat.not_lt.mpr (sound.complete_of_watched watched lives).long short
  · exact ⟨rfl, watched⟩

/-- One step of a careful scan: it finds out more, or removes an entry. -/
theorem World.Sound.scanStep (sound : world.Sound) (check : Bool) {scan : ScanPoint}
    {answer : Answer} (scanned : world.Scanned name scan)
    (finished : scan.looks = true → world.Finished name)
    (granted : ∀ inode ∈ scan.subject world.disk name, world.live inode = true →
      answer.granted = true ∨ (scan.looks = true ∧ staleCheckUnavailable answer.errno = true)) :
    world.Finds name (Shm.scanStep world.alive check name answer world.disk scan) ∨
    ∃ result result', scan = .unlink result ∧
      Shm.scanStep world.alive check name answer world.disk scan =
        (.done result', world.disk.remove name) := by
  cases scan with
  | stat => exact Or.inl (sound.finds_stat check answer (finished rfl))
  | «open» =>
    exact Or.inl (sound.finds_open check (finished rfl) fun inode found lives =>
      (granted inode found lives).imp_right And.right)
  | fstat inode =>
    exact Or.inl (sound.finds_fstat check scanned fun lives =>
      (granted inode rfl lives).resolve_right (by simp [ScanPoint.looks]))
  | map inode =>
    refine Or.inl ⟨rfl, ?_⟩
    dsimp only [Shm.scanStep]
    split_ifs with allowed
    · exact scanned
    · refine scanned.dead fun lives => allowed ?_
      exact (granted inode rfl lives).resolve_right (by simp [ScanPoint.looks])
  | magic inode =>
    refine Or.inl ⟨rfl, ?_⟩
    dsimp only [Shm.scanStep]
    split_ifs with wrong
    · exact scanned.dead fun lives => wrong (sound.complete_of_watched scanned lives).magic
    · exact scanned
  | owner inode =>
    exact Or.inl ⟨rfl, scanned, fun lives => (sound.complete_of_watched scanned lives).owner⟩
  | generation inode owner =>
    refine Or.inl ⟨rfl, fun other found lives => ?_⟩
    obtain ⟨watched, owns⟩ := scanned
    cases watched.only other found
    exact ⟨owns lives, (sound.complete_of_watched watched lives).generation⟩
  | judge owner gen =>
    refine Or.inl ⟨rfl, ?_⟩
    dsimp only [Shm.scanStep]
    split_ifs with current
    · trivial
    · intro inode found
      refine Bool.eq_false_iff.mpr fun lives => current ?_
      obtain ⟨creator, generation⟩ := scanned inode found lives
      exact ⟨World.pidAlive_of_live sound creator lives, generation⟩
  | unlink result =>
    dsimp only [Shm.scanStep]
    split_ifs with allowed
    · exact Or.inr ⟨result, result, rfl, rfl⟩
    · exact Or.inl ⟨rfl, trivial⟩
  | done result => exact Or.inl ⟨rfl, trivial⟩

/-! ### Tasks and the disk -/

theorem Task.building_eq_none (idle : task.owned = none) : task.building = none := by
  cases building : task.building with
  | none => rfl
  | some site => exact nomatch idle.symm.trans (Task.owned_of_building building)

theorem Task.Storing.congr {disk' : Disk} (storing : task.Storing disk)
    (same : ∀ name inode, task.building = some (name, inode) →
      (disk'.files inode).bytes = (disk.files inode).bytes) : task.Storing disk' := by
  obtain ⟨pid, job⟩ := task
  unfold Task.Storing at storing ⊢
  split at storing
  · rename_i plan inode generation ends is_store
    cases is_store
    rw [same plan.name inode rfl]
    exact storing
  · trivial

theorem Task.Storing.of_idle (idle : task.building = none) (disk : Disk) : task.Storing disk := by
  obtain ⟨pid, job⟩ := task
  unfold Task.Storing
  split
  · rename_i is_store
    cases is_store
    exact nomatch idle
  · trivial

theorem Disk.dir_remove_eq_some {removed : Bytes} :
    (disk.remove removed).dir name = some inode ↔
      name ≠ removed ∧ disk.dir name = some inode := by
  by_cases same : name = removed
  · simp [Disk.remove, same]
  · simp [Disk.remove, same]

theorem Disk.files_giveUp_of_ne {other : Nat} (apart : other ≠ inode) :
    (disk.giveUp inode).files other = disk.files other :=
  Function.update_of_ne apart _ _

theorem Disk.files_giveUp_self (disk : Disk) (inode : Nat) :
    (disk.giveUp inode).files inode = { disk.files inode with destroyed := true } :=
  Function.update_self _ _ _

theorem Disk.files_create_of_ne (apart : inode ≠ disk.fresh) :
    (disk.create name pid).files inode = disk.files inode :=
  Function.update_of_ne apart _ _

theorem Disk.files_create_self (disk : Disk) (name : Bytes) (pid : UInt32) :
    (disk.create name pid).files disk.fresh = ⟨[], some pid, name, false⟩ :=
  Function.update_self _ _ _

theorem Disk.dir_create_of_ne {created : Bytes} (apart : name ≠ created) :
    (disk.create created pid).dir name = disk.dir name :=
  Function.update_of_ne apart _ _

theorem Disk.dir_create_self (disk : Disk) (name : Bytes) (pid : UInt32) :
    (disk.create name pid).dir name = some disk.fresh :=
  Function.update_self _ _ _

theorem Disk.dir_create_eq_some {created : Bytes}
    (found : (disk.create created pid).dir name = some inode) :
    (name = created ∧ inode = disk.fresh) ∨ (name ≠ created ∧ disk.dir name = some inode) := by
  by_cases same : name = created
  · left
    rw [same, Disk.dir_create_self] at found
    exact ⟨same, (Option.some.inj found).symm⟩
  · right
    rw [Disk.dir_create_of_ne same] at found
    exact ⟨same, found⟩

theorem Disk.files_write_of_ne {other : Nat} {bytes : Bytes} (apart : other ≠ inode) :
    (disk.write inode bytes).files other = disk.files other :=
  Function.update_of_ne apart _ _

theorem Disk.files_write_self (disk : Disk) (inode : Nat) (bytes : Bytes) :
    (disk.write inode bytes).files inode = { disk.files inode with bytes } :=
  Function.update_self _ _ _

theorem Disk.files_write (disk : Disk) (inode : Nat) (bytes : Bytes) (other : Nat) :
    (disk.write inode bytes).files other =
      { disk.files other with bytes := ((disk.write inode bytes).files other).bytes } := by
  by_cases same : other = inode
  · rw [same, Disk.files_write_self]
  · rw [Disk.files_write_of_ne same]

theorem Disk.write_self (disk : Disk) (inode : Nat) :
    disk.write inode (disk.files inode).bytes = disk := by
  rw [Disk.write, Function.update_eq_self]

/-- A region whose header is stored. -/
theorem Plan.complete_written {plan : Plan} (sized : 64 ≤ plan.sizes.regionSize.toNat)
    {generation : UInt32} (current : generation ≠ 0) {file : File}
    (creator : file.creator = some pid) (bytes : file.bytes = plan.written pid generation 32) :
    file.Complete := by
  have image : plan.written pid generation 32 = (plan.header pid generation).image ++
      zeros (plan.sizes.regionSize.toNat - 64) := by
    have rest : zeros (plan.sizes.regionSize.toNat - 32) =
        zeros 32 ++ zeros (plan.sizes.regionSize.toNat - 64) := by
      rw [zeros, zeros, zeros, ← List.replicate_add]
      congr 1
      omega
    have fields : (plan.header pid generation).image.take 32 ++ zeros 32 =
        (plan.header pid generation).image := by
      rw [RegionHeader.image, List.take_append_of_le_length (by simp),
        List.take_of_length_le (by simp)]
    rw [Plan.written, rest, ← List.append_assoc, fields]
  have read := RegionHeader.read_image (plan.header pid generation)
    (zeros (plan.sizes.regionSize.toNat - 64))
  rw [← image, ← bytes] at read
  exact {
    long := by
      rw [bytes, image, List.length_append, RegionHeader.length_image]
      exact Nat.le_add_right 64 _
    magic := congrArg RegionHeader.magic read
    owner := creator.trans (congrArg some (congrArg RegionHeader.ownerPid read).symm)
    generation := fun zero => current ((congrArg RegionHeader.ownerGeneration read).symm.trans
      zero) }

/-! ### One task moves -/

variable [DecidableEq ι] {world : World ι} {task : ι} {outcome : Task × Disk}

@[simp] theorem World.disk_moved (world : World ι) (task : ι) (outcome : Task × Disk) :
    (world.moved task outcome).disk = outcome.2 := rfl

@[simp] theorem World.moved_self (world : World ι) (task : ι) :
    world.moved task (world.tasks task, world.disk) = world := by
  rw [World.moved, Function.update_eq_self]

theorem World.live_moved {inode : Nat} (same : outcome.2.files inode = world.disk.files inode) :
    (world.moved task outcome).live inode = world.live inode := by
  rw [World.live, World.live, World.disk_moved, same]
  rfl

/-- What holds for all tasks after a move. -/
theorem World.forall_moved (holds : ι → Task → Prop) (moved : holds task outcome.1)
    (others : ∀ other, other ≠ task → holds other (world.tasks other)) :
    ∀ other, holds other ((world.moved task outcome).tasks other) :=
  (Function.forall_update_iff world.tasks holds).mpr ⟨moved, others⟩

/-- What a task has to bring along when it moves. -/
structure World.Continues (world : World ι) (task : ι) (outcome : Task × Disk) : Prop where
  pid : outcome.1.pid = (world.tasks task).pid
  sized : outcome.1.Sized
  storing : outcome.1.Storing outcome.2
  scanned : ∀ name scan, outcome.1.scan = some (name, scan) →
    (world.moved task outcome).Scanned name scan

/-- A move leaves the world sound if the directory and the files stay in order, and the scans of the
other tasks are not disturbed. -/
theorem World.Sound.moved (sound : world.Sound) (continues : world.Continues task outcome)
    (fades : world.Fades (world.moved task outcome))
    (entries : ∀ other, other ≠ task → world.alive (world.tasks other).pid = true →
      ∀ name scan, (world.tasks other).scan = some (name, scan) → scan.engaged = true →
        ∀ inode, outcome.2.dir name = some inode → world.disk.dir name = some inode)
    (bytes : ∀ other, other ≠ task → ∀ name inode,
      (world.tasks other).building = some (name, inode) →
      (outcome.2.files inode).bytes = (world.disk.files inode).bytes)
    (numbered : ∀ name inode, outcome.2.dir name = some inode → inode < outcome.2.fresh)
    (unborn : ∀ inode, outcome.2.fresh ≤ inode → (outcome.2.files inode).creator = none)
    (named : ∀ name inode, outcome.2.dir name = some inode →
      (outcome.2.files inode).creator ≠ none → (outcome.2.files inode).path = name)
    (intact : (world.moved task outcome).Intact) (owned : ∀ other, ∀ name inode,
      ((world.moved task outcome).tasks other).owned = some (name, inode) →
      (outcome.2.files inode).BelongsTo ((world.moved task outcome).tasks other).pid name)
    (alone : ∀ other third name name' inode,
      ((world.moved task outcome).tasks other).owned = some (name, inode) →
      ((world.moved task outcome).tasks third).owned = some (name', inode) → other = third)
    (settled : ∀ inode, (world.moved task outcome).live inode = true →
      (world.moved task outcome).Settled inode → (outcome.2.files inode).Complete) :
    (world.moved task outcome).Sound where
  pid := sound.pid
  sized := World.forall_moved (fun _ task => task.Sized) continues.sized
    fun other _ => sound.sized other
  numbered := numbered
  unborn := unborn
  named := named
  intact := intact
  owned := owned
  alone := alone
  storing := World.forall_moved (fun _ task => task.Storing outcome.2) continues.storing
    fun other apart => (sound.storing other).congr (bytes other apart)
  settled := settled
  scanned := by
    refine World.forall_moved (fun _ moved => world.alive moved.pid = true → ∀ name scan,
      moved.scan = some (name, scan) → (world.moved task outcome).Scanned name scan)
      (fun _ => continues.scanned) fun other apart runs name scan looking => ?_
    have scanned := sound.scanned other runs name scan looking
    by_cases engaged : scan.engaged = true
    · exact scanned.fades fades (sound.numbered name)
        (entries other apart runs name scan looking engaged)
    · cases scan <;> trivial

theorem World.settled_moved {inode : Nat} :
    (world.moved task outcome).Settled inode ↔
      (world.alive outcome.1.pid = true → ∀ name, outcome.1.building ≠ some (name, inode)) ∧
      ∀ other, other ≠ task → world.alive (world.tasks other).pid = true →
        ∀ name, (world.tasks other).building ≠ some (name, inode) :=
  Function.forall_update_iff world.tasks fun _ moved => world.alive moved.pid = true →
    ∀ name, moved.building ≠ some (name, inode)

/-- A task that makes nothing new disturbs no file that is settled. -/
theorem World.Settled.moved {inode : Nat} (settled : world.Settled inode)
    (building : world.alive outcome.1.pid = true → ∀ name,
      outcome.1.building ≠ some (name, inode)) :
    (world.moved task outcome).Settled inode :=
  World.settled_moved.mpr ⟨building, fun other _ => settled other⟩

section Creation

variable {moved : Task} {created : Bytes}

/-- A task has created a file. -/
def World.begun (world : World ι) (task : ι) (moved : Task) (created : Bytes) : World ι :=
  world.moved task (moved, world.disk.create created (world.tasks task).pid)

theorem Disk.files_create_of_lt {disk : Disk} {name : Bytes} {pid : UInt32} {inode : Nat}
    (early : inode < disk.fresh) : (disk.create name pid).files inode = disk.files inode :=
  Disk.files_create_of_ne (Nat.ne_of_lt early)

variable (sound : world.Sound)

include sound

omit [DecidableEq ι] in
theorem World.Sound.owned_lt_fresh {name : Bytes} {inode : Nat}
    (owned : (world.tasks task).owned = some (name, inode)) : inode < world.disk.fresh := by
  refine Nat.lt_of_not_le fun late => ?_
  exact nomatch (sound.unborn inode late).symm.trans (sound.owned task name inode owned).creator

/-- A region that lives after the creation and is not the new file lived before. -/
theorem World.Sound.live_of_begun {inode : Nat}
    (lives : (world.begun task moved created).live inode = true)
    (other : inode ≠ world.disk.fresh) : world.live inode = true ∧ inode < world.disk.fresh := by
  have lives := (World.live_moved (Disk.files_create_of_ne other)).symm.trans lives
  refine ⟨lives, Nat.lt_of_not_le fun late => ?_⟩
  rw [World.live, sound.unborn inode late] at lives
  exact nomatch lives

theorem World.Sound.begun_fades (busy : moved.building = some (created, world.disk.fresh)) :
    world.Fades (world.begun task moved created) where
  fresh := Nat.le_succ _
  creator _ early := congrArg File.creator (Disk.files_create_of_lt early)
  live _ early lives := (sound.live_of_begun lives (Nat.ne_of_lt early)).1
  settled inode early settled := settled.moved fun _ name same => by
    cases busy.symm.trans same
    exact Nat.lt_irrefl _ early

theorem World.Sound.begun_intact (free : world.disk.dir created = none) :
    (world.begun task moved created).Intact := by
  intro inode lives
  by_cases same : inode = world.disk.fresh
  · rw [same, World.begun, World.disk_moved, Disk.files_create_self, Disk.dir_create_self]
  · obtain ⟨lives, early⟩ := sound.live_of_begun lives same
    have entry := sound.intact inode lives
    rw [World.begun, World.disk_moved, Disk.files_create_of_lt early, Disk.dir_create_of_ne, entry]
    intro taken
    rw [taken, free] at entry
    exact nomatch entry

/-- The new file belongs to the task, and the other tasks own what they owned. -/
theorem World.Sound.begun_owned (busy : moved.building = some (created, world.disk.fresh)) :
    ∀ other name inode, ((world.begun task moved created).tasks other).owned = some (name, inode) →
      inode = world.disk.fresh ∧ other = task ∨
        inode < world.disk.fresh ∧ (world.tasks other).owned = some (name, inode) := by
  refine World.forall_moved (fun other moved => ∀ name inode, moved.owned = some (name, inode) →
    inode = world.disk.fresh ∧ other = task ∨
      inode < world.disk.fresh ∧ (world.tasks other).owned = some (name, inode)) ?_ ?_
  · intro name inode owned
    cases (Task.owned_of_building busy).symm.trans owned
    exact Or.inl ⟨rfl, rfl⟩
  · intro other _ name inode owned
    exact Or.inr ⟨sound.owned_lt_fresh owned, owned⟩

theorem World.Sound.begun_alone (busy : moved.building = some (created, world.disk.fresh)) :
    ∀ other third name name' inode,
      ((world.begun task moved created).tasks other).owned = some (name, inode) →
      ((world.begun task moved created).tasks third).owned = some (name', inode) →
      other = third := by
  intro other third name name' inode first second
  rcases sound.begun_owned busy other name inode first with ⟨late, one⟩ | ⟨early, one⟩
  · rcases sound.begun_owned busy third name' inode second with ⟨-, two⟩ | ⟨early, -⟩
    · rw [one, two]
    · exact absurd late (Nat.ne_of_lt early)
  · rcases sound.begun_owned busy third name' inode second with ⟨late, -⟩ | ⟨-, two⟩
    · exact absurd late (Nat.ne_of_lt early)
    · exact sound.alone other third name name' inode one two

theorem World.Sound.begun_settled (runs : world.alive moved.pid = true)
    (idle : (world.tasks task).owned = none)
    (busy : moved.building = some (created, world.disk.fresh)) {inode : Nat}
    (lives : (world.begun task moved created).live inode = true)
    (settled : (world.begun task moved created).Settled inode) :
    ((world.begun task moved created).disk.files inode).Complete := by
  obtain ⟨mine, others⟩ := World.settled_moved.mp settled
  by_cases same : inode = world.disk.fresh
  · exact absurd (same ▸ busy) (mine runs created)
  · obtain ⟨lives, early⟩ := sound.live_of_begun lives same
    rw [World.begun, World.disk_moved, Disk.files_create_of_lt early]
    refine sound.settled inode lives fun other alive name building => ?_
    by_cases apart : other = task
    · rw [apart, Task.building_eq_none idle] at building
      exact nomatch building
    · exact others other apart alive name building

/-- A task creates a file under a free name. -/
theorem World.Sound.creates (runs : world.alive (world.tasks task).pid = true)
    (continues : world.Continues task (moved, world.disk.create created (world.tasks task).pid))
    (idle : (world.tasks task).owned = none)
    (busy : moved.building = some (created, world.disk.fresh))
    (free : world.disk.dir created = none)
    (unobserved : ∀ other, world.alive (world.tasks other).pid = true →
      ∀ look ∈ (world.tasks other).scan, look.1 = created → look.2.engaged = false) :
    (world.begun task moved created).Sound := by
  refine sound.moved continues (sound.begun_fades busy) ?_ ?_ ?_ ?_ ?_ (sound.begun_intact free) ?_
    (sound.begun_alone busy) fun inode => sound.begun_settled (continues.pid ▸ runs) idle busy
  · intro other _ alive name scan looking engaged inode found
    rcases Disk.dir_create_eq_some found with ⟨same, -⟩ | ⟨-, found⟩
    · exact Bool.noConfusion (engaged.symm.trans (unobserved other alive _ looking same))
    · exact found
  · intro other _ name inode building
    rw [Disk.files_create_of_lt (sound.owned_lt_fresh (Task.owned_of_building building))]
  · intro name inode found
    rcases Disk.dir_create_eq_some found with ⟨-, same⟩ | ⟨-, found⟩
    · exact same ▸ Nat.lt_succ_self _
    · exact Nat.lt_succ_of_lt (sound.numbered name inode found)
  · intro inode late
    rw [Disk.files_create_of_ne (Nat.ne_of_gt late)]
    exact sound.unborn inode (Nat.le_of_succ_le late)
  · intro name inode found
    rcases Disk.dir_create_eq_some found with ⟨same, rfl⟩ | ⟨-, found⟩
    · rw [Disk.files_create_self]
      exact fun _ => same.symm
    · rw [Disk.files_create_of_lt (sound.numbered name inode found)]
      exact sound.named name inode found
  · refine World.forall_moved (fun _ moved => ∀ name inode, moved.owned = some (name, inode) →
      ((world.disk.create created (world.tasks task).pid).files inode).BelongsTo moved.pid name)
      (fun name inode owned => ?_) fun other _ name inode owned => ?_
    · cases (Task.owned_of_building busy).symm.trans owned
      rw [Disk.files_create_self]
      exact ⟨congrArg some continues.pid.symm, rfl, rfl⟩
    · rw [Disk.files_create_of_lt (sound.owned_lt_fresh owned)]
      exact sound.owned other name inode owned

end Creation

section Moves

variable (sound : world.Sound) (runs : world.alive (world.tasks task).pid = true)

include sound runs

/-- A task that makes nothing new: no entry and no owner is new, every file stays whose it was, and
only files of the task's own change. -/
theorem World.Sound.stays (continues : world.Continues task outcome)
    (owned : ∀ site, outcome.1.owned = some site → (world.tasks task).owned = some site)
    (building : ∀ site, outcome.1.building = some site → (world.tasks task).building = some site)
    (dir : ∀ name inode, outcome.2.dir name = some inode → world.disk.dir name = some inode)
    (fresh : outcome.2.fresh = world.disk.fresh)
    (creator : ∀ inode, (outcome.2.files inode).creator = (world.disk.files inode).creator)
    (path : ∀ inode, (outcome.2.files inode).path = (world.disk.files inode).path)
    (foreign : ∀ inode, (∀ name, (world.tasks task).owned ≠ some (name, inode)) →
      outcome.2.files inode = world.disk.files inode)
    (kept : ∀ name inode, outcome.1.owned = some (name, inode) →
      (outcome.2.files inode).destroyed = false)
    (live : ∀ inode, (world.moved task outcome).live inode = true → world.live inode = true ∧
      outcome.2.dir (world.disk.files inode).path = some inode)
    (complete : ∀ name inode, (world.tasks task).owned = some (name, inode) →
      (world.moved task outcome).live inode = true → outcome.1.building ≠ some (name, inode) →
      (outcome.2.files inode).Complete) : (world.moved task outcome).Sound := by
  have before : ∀ other, ∀ site, ((world.moved task outcome).tasks other).owned = some site →
      (world.tasks other).owned = some site :=
    World.forall_moved (fun other moved => ∀ site, moved.owned = some site →
      (world.tasks other).owned = some site) owned fun _ _ _ => id
  have others : ∀ other, other ≠ task → ∀ name inode,
      (world.tasks other).owned = some (name, inode) →
      outcome.2.files inode = world.disk.files inode := fun other apart name inode owns =>
    foreign inode fun name' mine => apart (sound.alone other task name name' inode owns mine)
  refine sound.moved continues ?_ ?_ ?_ ?_ ?_ ?_ ?_ ?_ ?_ ?_
  · exact {
      fresh := fresh.ge
      creator := fun inode _ => creator inode
      live := fun inode _ lives => (live inode lives).1
      settled := fun inode _ settled => settled.moved fun _ name busy =>
        settled task runs name (building _ busy) }
  · exact fun other _ _ name _ _ _ => dir name
  · intro other apart name inode busy
    rw [others other apart name inode (Task.owned_of_building busy)]
  · intro name inode found
    rw [fresh]
    exact sound.numbered name inode (dir name inode found)
  · intro inode late
    rw [creator]
    exact sound.unborn inode (fresh ▸ late)
  · intro name inode found
    rw [creator, path]
    exact sound.named name inode (dir name inode found)
  · intro inode lives
    rw [World.disk_moved, path]
    exact (live inode lives).2
  · refine World.forall_moved (fun _ moved => ∀ name inode, moved.owned = some (name, inode) →
      (outcome.2.files inode).BelongsTo moved.pid name) (fun name inode owns => ?_)
      fun other apart name inode owns => ?_
    · have mine := sound.owned task name inode (owned _ owns)
      exact ⟨(creator inode).trans (continues.pid ▸ mine.creator), (path inode).trans mine.path,
        kept name inode owns⟩
    · rw [others other apart name inode owns]
      exact sound.owned other name inode owns
  · exact fun other third name name' inode first second =>
      sound.alone other third name name' inode (before other _ first) (before third _ second)
  · intro inode lives settled
    obtain ⟨mine, rest⟩ := World.settled_moved.mp settled
    by_cases owns : ∃ name, (world.tasks task).owned = some (name, inode)
    · obtain ⟨name, owns⟩ := owns
      exact complete name inode owns lives (mine (continues.pid ▸ runs) name)
    · rw [foreign inode fun name owns' => owns ⟨name, owns'⟩]
      refine sound.settled inode (live inode lives).1 fun other alive name busy => ?_
      by_cases apart : other = task
      · exact owns ⟨name, Task.owned_of_building (apart ▸ busy)⟩
      · exact rest other apart alive name busy

/-- A task looks around or works on the file it is making a region of. -/
theorem World.Sound.works (continues : world.Continues task outcome)
    (owned : outcome.1.owned = (world.tasks task).owned)
    (building : ∀ site, outcome.1.building = some site → (world.tasks task).building = some site)
    (dir : outcome.2.dir = world.disk.dir) (fresh : outcome.2.fresh = world.disk.fresh)
    (same : ∀ inode, outcome.2.files inode =
      { world.disk.files inode with bytes := (outcome.2.files inode).bytes })
    (foreign : ∀ inode, (∀ name, (world.tasks task).owned ≠ some (name, inode)) →
      outcome.2.files inode = world.disk.files inode)
    (complete : ∀ name inode, (world.tasks task).owned = some (name, inode) →
      outcome.1.building ≠ some (name, inode) → (outcome.2.files inode).Complete) :
    (world.moved task outcome).Sound := by
  refine sound.stays runs continues (fun _ => by rw [owned]; exact id) building
    (fun _ _ => by rw [dir]; exact id) fresh (fun inode => by rw [same])
    (fun inode => by rw [same]) foreign (fun name inode owns => ?_) (fun inode lives => ?_)
    fun name inode owns _ => complete name inode owns
  · rw [same]
    exact (sound.owned task name inode (owned ▸ owns)).kept
  · rw [World.live, World.disk_moved, same] at lives
    rw [dir]
    exact ⟨lives, sound.intact inode lives⟩

/-- A scan removes an entry that names no live region. -/
theorem World.Sound.removes {moved : Task} {removed : Bytes}
    (continues : world.Continues task (moved, world.disk.remove removed))
    (idle : (world.tasks task).owned = none) (idle' : moved.owned = none)
    (dead : ∀ inode, world.disk.dir removed = some inode → world.live inode = false) :
    (world.moved task (moved, world.disk.remove removed)).Sound := by
  refine sound.stays runs continues (by simp [idle']) (by simp [Task.building_eq_none idle'])
    (fun name inode found => (Disk.dir_remove_eq_some.mp found).2) rfl (fun _ => rfl)
    (fun _ => rfl) (fun _ _ => rfl) (by simp [idle']) (fun inode lives => ?_) (by simp [idle])
  have lives := (World.live_moved rfl).symm.trans lives
  have entry := sound.intact inode lives
  refine ⟨lives, Disk.dir_remove_eq_some.mpr ⟨fun same => ?_, entry⟩⟩
  exact Bool.noConfusion (lives.symm.trans (dead inode (same ▸ entry)))

/-- A task gives its region up and removes the entry. -/
theorem World.Sound.givesUp {moved : Task} {removed : Bytes} {given : Nat}
    (continues : world.Continues task (moved, (world.disk.remove removed).giveUp given))
    (mine : (world.tasks task).owned = some (removed, given)) (idle : moved.owned = none) :
    (world.moved task (moved, (world.disk.remove removed).giveUp given)).Sound := by
  have files : ∀ inode, inode ≠ given →
      ((world.disk.remove removed).giveUp given).files inode = world.disk.files inode :=
    fun _ => Disk.files_giveUp_of_ne
  have same : ∀ inode, ((world.disk.remove removed).giveUp given).files inode =
      { world.disk.files inode with
        destroyed := (((world.disk.remove removed).giveUp given).files inode).destroyed } := by
    intro inode
    by_cases same : inode = given
    · rw [same, Disk.files_giveUp_self]
      rfl
    · rw [files inode same]
  have live : ∀ inode, (world.moved task
      (moved, (world.disk.remove removed).giveUp given)).live inode = true → inode ≠ given := by
    rintro inode lives rfl
    rw [World.live, World.disk_moved, Disk.files_giveUp_self] at lives
    dsimp only at lives
    split at lives <;> simp at lives
  refine sound.stays runs continues (by simp [idle]) (by simp [Task.building_eq_none idle])
    (fun name inode found => (Disk.dir_remove_eq_some.mp found).2) rfl
    (fun inode => by rw [same]) (fun inode => by rw [same])
    (fun inode other => files inode fun same => other removed (same ▸ mine)) (by simp [idle])
    (fun inode lives => ?_) fun name inode owns lives => ?_
  · have other := live inode lives
    have lives := (World.live_moved (files inode other)).symm.trans lives
    have entry := sound.intact inode lives
    refine ⟨lives, Disk.dir_remove_eq_some.mpr ⟨fun same => other ?_, entry⟩⟩
    rw [same, sound.dir_owned runs mine] at entry
    exact (Option.some.inj entry).symm
  · cases mine.symm.trans owns
    exact absurd rfl (live given lives)

/-! ### A task goes on -/

variable {job : Job} {answer : Answer} {name : Bytes}

/-- A task that owns no region goes on to another point without touching the disk. -/
theorem World.Sound.looks (sized : ({ world.tasks task with job } : Task).Sized)
    (idle : (world.tasks task).owned = none)
    (idle' : ({ world.tasks task with job } : Task).owned = none)
    (scanned : ∀ name scan, ({ world.tasks task with job } : Task).scan = some (name, scan) →
      world.Scanned name scan) :
    (world.moved task ({ world.tasks task with job }, world.disk)).Sound := by
  have unmade' := Task.building_eq_none idle'
  refine sound.works runs ?_ (idle'.trans idle.symm) (by simp [unmade']) rfl rfl (fun _ => rfl)
    (fun _ _ => rfl) (by simp [idle])
  exact {
    pid := rfl
    sized
    storing := Task.Storing.of_idle unmade' _
    scanned := fun name scan looking => (scanned name scan looking).fades
      { fresh := Nat.le_refl _
        creator := fun _ _ => rfl
        live := fun _ _ => id
        settled := fun inode _ settled => settled.moved (by simp [unmade']) }
      (sound.numbered name) fun _ => id }

/-- A scan goes on, in a task whose point is made from the point of the scan. -/
theorem World.Sound.scans {scan : ScanPoint} (careful : world.Careful task answer) (check : Bool)
    (job : ScanPoint → Job) (looking : (world.tasks task).scan = some (name, scan))
    (idle : (world.tasks task).owned = none)
    (sized : ∀ scan, ({ world.tasks task with job := job scan } : Task).Sized)
    (idle' : ∀ scan, ({ world.tasks task with job := job scan } : Task).owned = none)
    (looking' : ∀ scan,
      ({ world.tasks task with job := job scan } : Task).scan = some (name, scan)) :
    (world.moved task (Prod.map (fun scan => { world.tasks task with job := job scan }) id
      (Shm.scanStep world.alive check name answer world.disk scan))).Sound := by
  obtain ⟨finished, -, -, granted⟩ := careful
  have scanned := sound.scanned task runs name scan looking
  rcases sound.scanStep check scanned (finished _ looking) (granted _ looking) with
    ⟨same, scanned'⟩ | ⟨result, result', rfl, removed⟩
  · have outcome : Prod.map (fun scan => { world.tasks task with job := job scan }) id
        (Shm.scanStep world.alive check name answer world.disk scan) =
        ({ world.tasks task with
          job := job (Shm.scanStep world.alive check name answer world.disk scan).1 },
          world.disk) := Prod.ext rfl same
    rw [outcome]
    refine sound.looks runs (sized _) idle (idle' _) fun name' scan' at' => ?_
    cases (looking' _).symm.trans at'
    exact scanned'
  · rw [removed]
    refine sound.removes runs ?_ idle (idle' _) scanned
    exact {
      pid := rfl
      sized := sized _
      storing := Task.Storing.of_idle (Task.building_eq_none (idle' _)) _
      scanned := by
        intro name' scan' at'
        cases (looking' (.done result')).symm.trans at'
        trivial }

/-- The exclusive creation of a file. -/
theorem World.Sound.opens {plan : Plan} {taken : CreatePoint} (careful : world.Careful task answer)
    (sized : 64 ≤ plan.sizes.regionSize.toNat)
    (opening : (world.tasks task).opening = some plan.name) (idle : (world.tasks task).owned = none)
    (idle' : ({ world.tasks task with job := .create plan taken } : Task).owned = none)
    (scanned : ∀ name scan, ({ world.tasks task with job := .create plan taken } : Task).scan =
      some (name, scan) → world.Scanned name scan) :
    (world.moved task (Prod.map (fun point => { world.tasks task with job := .create plan point })
      id (openExclusive (world.tasks task).pid plan answer world.disk taken))).Sound := by
  unfold openExclusive
  split
  · exact sound.looks runs sized idle idle' scanned
  · rename_i free
    split
    · refine sound.creates runs ?_ idle rfl free (careful.2.1 _ opening)
      exact { pid := rfl, sized, storing := trivial, scanned := nofun }
    · exact sound.looks runs sized idle rfl nofun

/-- A task that makes a region writes to its file and goes on making it. -/
theorem World.Sound.writes {inode : Nat} {bytes : Bytes}
    (sized : ({ world.tasks task with job } : Task).Sized)
    (storing : ({ world.tasks task with job } : Task).Storing (world.disk.write inode bytes))
    (busy : (world.tasks task).building = some (name, inode))
    (busy' : ({ world.tasks task with job } : Task).building = some (name, inode))
    (unseeing : ({ world.tasks task with job } : Task).scan = none) :
    (world.moved task ({ world.tasks task with job }, world.disk.write inode bytes)).Sound := by
  have mine := Task.owned_of_building busy
  refine sound.works runs ?_ ((Task.owned_of_building busy').trans mine.symm)
    (fun _ => (busy.trans busy'.symm).trans) rfl rfl (Disk.files_write _ _ _)
    (fun other idle => ?_) fun name' inode' owns done => ?_
  · exact { pid := rfl, sized, storing, scanned := by simp [unseeing] }
  · exact Disk.files_write_of_ne fun same => idle name (same ▸ mine)
  · exact absurd (busy'.trans (mine.symm.trans owns)) done

/-- A task that makes a region goes on making it. -/
theorem World.Sound.goesOn {inode : Nat} (sized : ({ world.tasks task with job } : Task).Sized)
    (storing : ({ world.tasks task with job } : Task).Storing world.disk)
    (busy : (world.tasks task).building = some (name, inode))
    (busy' : ({ world.tasks task with job } : Task).building = some (name, inode))
    (unseeing : ({ world.tasks task with job } : Task).scan = none) :
    (world.moved task ({ world.tasks task with job }, world.disk)).Sound := by
  have same := Disk.write_self world.disk inode
  rw [← same] at storing ⊢
  exact sound.writes runs sized storing busy busy' unseeing

/-- A field of the header is stored, or the whole header is. -/
theorem World.Sound.stores {plan : Plan} {inode : Nat} {generation : UInt32} {ends : List Nat}
    (job : (world.tasks task).job = .create plan (.store inode generation ends)) :
    (world.moved task (Prod.map (fun point => { world.tasks task with job := .create plan point })
      id (createStep world.alive (world.tasks task).pid plan answer world.disk
        (.store inode generation ends)))).Sound := by
  have sized := sound.sized task
  have storing := sound.storing task
  rw [Task.Sized, job] at sized
  rw [Task.Storing, job] at storing
  obtain ⟨current, last, stored⟩ := storing
  have busy : (world.tasks task).building = some (plan.name, inode) := by
    simp [Task.building, job]
  have mine := Task.owned_of_building busy
  cases ends with
  | nil =>
    refine sound.works runs ?_ mine.symm nofun rfl rfl (fun _ => rfl) (fun _ _ => rfl) ?_
    · exact { pid := rfl, sized, storing := trivial, scanned := nofun }
    · intro name inode' owns _
      cases mine.symm.trans owns
      exact plan.complete_written sized current (sound.owned task _ _ mine).creator (stored rfl)
  | cons stop rest =>
    refine sound.writes runs sized ⟨current, ?_, ?_⟩ busy rfl rfl
    · cases rest with
      | nil => exact nofun
      | cons next rest => rwa [List.getLast?_cons_cons] at last
    · rintro rfl
      cases last stop rfl
      rw [Disk.files_write_self]

/-- One careful step of `server_create`. -/
theorem World.Sound.creating {plan : Plan} {point : CreatePoint}
    (careful : world.Careful task answer) (job : (world.tasks task).job = .create plan point) :
    (world.moved task (Prod.map (fun point => { world.tasks task with job := .create plan point })
      id (createStep world.alive (world.tasks task).pid plan answer world.disk point))).Sound := by
  have sized : 64 ≤ plan.sizes.regionSize.toNat := by
    have sized := sound.sized task
    rwa [Task.Sized, job] at sized
  have stays : { world.tasks task with job := .create plan point } = world.tasks task := by
    rw [← job]
  cases point with
  | openFirst =>
    refine sound.opens runs careful sized (by simp [Task.opening, job])
      (by simp [Task.owned, Task.building, job]) rfl ?_
    intro name scan looking
    cases looking
    trivial
  | openAgain =>
    exact sound.opens runs careful sized (by simp [Task.opening, job])
      (by simp [Task.owned, Task.building, job]) rfl nofun
  | checking scan =>
    have idle : (world.tasks task).owned = none := by simp [Task.owned, Task.building, job]
    have looking : (world.tasks task).scan = some (plan.name, scan) := by simp [Task.scan, job]
    cases scan with
    | done result => cases result <;> exact sound.looks runs sized idle rfl nofun
    | _ =>
      exact sound.scans runs careful true (fun scan => .create plan (.checking scan)) looking idle
        (fun _ => sized) (fun _ => rfl) (fun _ => rfl)
  | truncate inode =>
    have busy : (world.tasks task).building = some (plan.name, inode) := by
      simp [Task.building, job]
    dsimp only [createStep]
    split_ifs
    · exact sound.writes runs sized trivial busy rfl rfl
    · exact sound.goesOn runs sized trivial busy rfl rfl
  | map inode =>
    have busy : (world.tasks task).building = some (plan.name, inode) := by
      simp [Task.building, job]
    dsimp only [createStep]
    split_ifs
    all_goals exact sound.goesOn runs sized trivial busy rfl rfl
  | zero inode =>
    have busy : (world.tasks task).building = some (plan.name, inode) := by
      simp [Task.building, job]
    refine sound.writes runs sized ?_ busy rfl rfl
    exact ⟨careful.2.2.1 (by simp [Task.atClock, job]), by simp [fieldEnds], by simp [fieldEnds]⟩
  | store inode generation ends => exact sound.stores runs job
  | removing inode error =>
    have mine : (world.tasks task).owned = some (plan.name, inode) := by
      simp [Task.owned, Task.building, job]
    refine sound.givesUp runs ?_ mine rfl
    exact { pid := rfl, sized, storing := trivial, scanned := nofun }
  | serving inode | closed | failed error =>
    dsimp only [createStep, Prod.map, id]
    rw [stays, World.moved_self]
    exact sound

/-- One careful step of `cleanup_stale`. -/
theorem World.Sound.cleaning {serviceName : Bytes} {point : CleanPoint}
    (careful : world.Careful task answer)
    (job : (world.tasks task).job = .clean serviceName point) :
    (world.moved task
      (Prod.map (fun point => { world.tasks task with job := .clean serviceName point }) id
        (cleanStep world.alive serviceName answer world.disk point))).Sound := by
  have idle : (world.tasks task).owned = none := by simp [Task.owned, Task.building, job]
  have goesOn : ∀ point, (∀ name scan, ({ world.tasks task with
      job := .clean serviceName point } : Task).scan = some (name, scan) →
      world.Scanned name scan) → (world.moved task
      ({ world.tasks task with job := .clean serviceName point }, world.disk)).Sound :=
    fun point => sound.looks runs trivial idle rfl
  have visits : ∀ names, (world.moved task
      ({ world.tasks task with job := .clean serviceName (visit names) }, world.disk)).Sound := by
    intro names
    refine goesOn (visit names) fun name scan looking => ?_
    cases names with
    | nil => exact nomatch looking
    | cons next rest =>
      cases looking
      trivial
  cases point with
  | readDir =>
    dsimp only [cleanStep]
    split_ifs
    · exact visits _
    · exact goesOn _ nofun
  | scanning name scan rest =>
    have looking : (world.tasks task).scan = some (name, scan) := by simp [Task.scan, job]
    cases scan with
    | done result => exact visits rest
    | _ =>
      exact sound.scans runs careful false
        (fun scan => .clean serviceName (.scanning name scan rest)) looking idle (fun _ => trivial)
        (fun _ => rfl) (fun _ => rfl)
  | finished => exact goesOn _ nofun

end Moves

/-- One careful step of a task. -/
theorem World.Sound.acts {answer : Answer} (sound : world.Sound)
    (careful : world.Careful task answer) : (world.step (.act task answer)).Sound := by
  dsimp only [World.step]
  split_ifs with runs
  · cases job : (world.tasks task).job with
    | create plan point =>
      rw [Task.step, job]
      exact sound.creating runs careful job
    | clean serviceName point =>
      rw [Task.step, job]
      exact sound.cleaning runs careful job
  · exact sound

/-- A server destroys its region. -/
theorem World.Sound.destroys (sound : world.Sound) (task : ι) :
    (world.step (.destroy task)).Sound := by
  dsimp only [World.step]
  split_ifs with runs
  · unfold Task.destroy
    split
    · rename_i plan inode job
      have sized := sound.sized task
      rw [Task.Sized, job] at sized
      refine sound.givesUp runs ?_ (by simp [Task.owned, job]) rfl
      exact { pid := rfl, sized, storing := trivial, scanned := nofun }
    · rw [World.moved_self]
      exact sound
  · exact sound

/-! ### A process ends -/

theorem World.Sound.exits (sound : world.Sound) (gone : UInt32) :
    (world.step (.exit gone)).Sound := by
  have runs : ∀ pid, Function.update world.alive gone false pid = true →
      world.alive pid = true := by
    intro pid alive
    by_cases same : pid = gone
    · rw [same, Function.update_self] at alive
      exact nomatch alive
    · rwa [Function.update_of_ne same] at alive
  have live : ∀ inode, (world.step (.exit gone)).live inode = true →
      world.live inode = true := by
    intro inode lives
    unfold World.live at lives ⊢
    split at lives
    · rename_i pid creator
      rw [Bool.and_eq_true] at lives
      rw [show (world.disk.files inode).creator = some pid from creator]
      exact Bool.and_eq_true_iff.mpr ⟨runs pid lives.1, lives.2⟩
    · exact nomatch lives
  have fades : world.Fades (world.step (.exit gone)) := {
    fresh := Nat.le_refl _
    creator := fun _ _ => rfl
    live := fun inode _ => live inode
    settled := fun inode _ settled task alive => settled task (runs _ alive) }
  exact { sound with
    pid := fun pid alive => sound.pid pid (runs pid alive)
    intact := fun inode lives => sound.intact inode (live inode lives)
    settled := by
      intro inode lives settled
      refine sound.settled inode (live inode lives) fun task _ name building => ?_
      -- the file lives, so the process that makes it a region still runs
      refine settled task ?_ name building
      have mine := sound.owned task name inode (Task.owned_of_building building)
      rw [World.live, show ((world.step (.exit gone)).disk.files inode).creator = _ from
        mine.creator, Bool.and_eq_true] at lives
      exact lives.1
    scanned := fun task alive name scan looking =>
      (sound.scanned task (runs _ alive) name scan looking).fades fades (sound.numbered name)
        fun _ => id }

/-! ### Runs -/

/-- Every step of the schedule is careful in the world it is made in. -/
def World.CarefulRun (world : World ι) : List (Happening ι) → Prop
  | [] => True
  | .act task answer :: rest =>
    world.Careful task answer ∧ (world.step (.act task answer)).CarefulRun rest
  | .destroy task :: rest => (world.step (.destroy task)).CarefulRun rest
  | .exit pid :: rest => (world.step (.exit pid)).CarefulRun rest

instance World.decidableCarefulRun [Fintype ι] :
    (world : World ι) → (schedule : List (Happening ι)) → Decidable (world.CarefulRun schedule)
  | _, [] => .isTrue trivial
  | world, .act task answer :: rest =>
    have := decidableCarefulRun (world.step (.act task answer)) rest
    inferInstanceAs (Decidable (_ ∧ _))
  | world, .destroy task :: rest => decidableCarefulRun (world.step (.destroy task)) rest
  | world, .exit pid :: rest => decidableCarefulRun (world.step (.exit pid)) rest

theorem World.Sound.run (sound : world.Sound) (schedule : List (Happening ι))
    (careful : world.CarefulRun schedule) : (world.run schedule).Sound := by
  induction schedule generalizing world with
  | nil => exact sound
  | cons happening rest ih =>
    cases happening with
    | act task answer => exact ih (sound.acts careful.1) careful.2
    | destroy task => exact ih (sound.destroys task) careful
    | exit pid => exact ih (sound.exits pid) careful

omit [DecidableEq ι] in
/-- At the start no region lives. -/
theorem World.Started.sound (started : world.Started) : world.Sound := by
  have dead : ∀ inode, world.live inode ≠ true := by
    intro inode
    rw [World.live, started.old]
    exact Bool.noConfusion
  have unowned : ∀ task, (world.tasks task).owned = none := by
    intro task
    rcases started.job task with ⟨_, _, _, _, _, plan, -, job⟩ | ⟨serviceName, job⟩
    · simp [Task.owned, Task.building, job]
    · simp [Task.owned, Task.building, job]
  exact {
    pid := started.pid
    sized := by
      intro task
      rcases started.job task with ⟨runDir, name, session, req, resp, plan, planned, job⟩ |
        ⟨serviceName, job⟩
      · rw [Task.Sized, job]
        rw [planRegion] at planned
        obtain ⟨path, -, planned⟩ := bind_eq_ok planned
        obtain ⟨sizes, laid, planned⟩ := bind_eq_ok planned
        obtain ⟨-, -, planned⟩ := bind_eq_ok planned
        cases planned
        have holds := (layout_eq_ok laid).regionSize
        dsimp only
        omega
      · rw [Task.Sized, job]
        trivial
    numbered := started.numbered
    unborn := fun inode _ => started.old inode
    named := fun name inode _ created => absurd (started.old inode) created
    intact := fun inode lives => absurd lives (dead inode)
    owned := fun task name inode owned => nomatch (unowned task).symm.trans owned
    alone := fun task _ name _ inode owned => nomatch (unowned task).symm.trans owned
    storing := fun task => Task.Storing.of_idle (Task.building_eq_none (unowned task)) _
    settled := fun inode lives => absurd lives (dead inode)
    scanned := by
      intro task _ name scan looking
      rcases started.job task with ⟨_, _, _, _, _, plan, -, job⟩ | ⟨serviceName, job⟩
      · simp [Task.scan, job] at looking
      · simp [Task.scan, job] at looking }

/-- **Stale cleanup leaves live regions alone** in every run whose steps are careful: each region
whose process runs and has not given it up is still in the directory under its name. -/
theorem World.run_intact (world : World ι) (started : world.Started)
    (schedule : List (Happening ι)) (careful : world.CarefulRun schedule) :
    (world.run schedule).Intact :=
  (started.sound.run schedule careful).intact

end Worlds

/-! ### The services `a` and `a-b` -/

/-- The region of session 1 of the service `a-b`. -/
def pairPlan : Plan where
  name := regionName [97, 45, 98] 1
  sizes := ⟨64, 64, 128, 64, 192⟩

/-- An empty directory; process 1 is to create the region and process 2, a server of `a`, to clean
up. -/
def pairWorld : World Bool where
  disk := ⟨fun _ => none, fun _ => ⟨[], none, [], false⟩, 0⟩
  alive pid := pid = 1 ∨ pid = 2
  tasks cleans := if cleans then ⟨2, .clean [97] .readDir⟩ else ⟨1, .create pairPlan .openFirst⟩

/-- Every call succeeds. -/
def pairAnswer : Answer := ⟨true, 0, 1, [pairPlan.name]⟩

theorem pairWorld_started : pairWorld.Started where
  numbered := nofun
  old _ := rfl
  pid pid alive := by
    rcases of_decide_eq_true alive with rfl | rfl
    · decide
    · decide
  job cleans := by
    cases cleans
    · exact Or.inl ⟨[47], [97, 45, 98], 1, 64, 64, pairPlan, by decide +kernel, rfl⟩
    · exact Or.inr ⟨[97], rfl⟩

/-- The region is created, and then `a` cleans up. -/
theorem World.run_intact_pair : pairWorld.Started ∧
    pairWorld.CarefulRun (List.replicate 14 (.act false pairAnswer) ++
      List.replicate 9 (.act true pairAnswer)) ∧
    (pairWorld.run (List.replicate 14 (.act false pairAnswer) ++
      List.replicate 9 (.act true pairAnswer))).Intact :=
  have careful : pairWorld.CarefulRun (List.replicate 14 (.act false pairAnswer) ++
      List.replicate 9 (.act true pairAnswer)) := by decide +kernel
  ⟨pairWorld_started, careful, World.run_intact pairWorld pairWorld_started _ careful⟩

/-- `a` cleans up when `a-b` has just created its file and not yet given it a size: the file is
removed, and `a-b` goes on to serve a region nobody can find. -/
theorem World.run_not_intact : ∃ (world : World Bool) (schedule : List (Happening Bool)),
    world.Started ∧ ¬ (world.run schedule).Intact := by
  refine ⟨pairWorld, [.act false pairAnswer] ++ List.replicate 4 (.act true pairAnswer) ++
    List.replicate 13 (.act false pairAnswer), pairWorld_started, fun intact => ?_⟩
  have lost : (pairWorld.run ([.act false pairAnswer] ++ List.replicate 4 (.act true pairAnswer) ++
      List.replicate 13 (.act false pairAnswer))).disk.dir pairPlan.name = none := by
    decide +kernel
  exact nomatch lost.symm.trans (intact 0 (by decide +kernel))

end NetIpc.Shm

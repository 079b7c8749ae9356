/-
This file models how the regions of a run directory come and go (`ShmContext::server_create`,
`cleanup_stale`, `check_shm_stale`).

Processes share a directory. Each of their tasks creates a region or removes stale ones,
one system call or one read of a mapped header at a time, and a schedule says whose turn
it is and what the operating system answers. An entry of the directory names a file, and a
file that has been opened or mapped stays what it is when the entry is removed. A file
remembers who created it, under which name, and whether it was given up; no task reads this.
-/

import Mathlib.Logic.Function.Basic
import NetIpc.ShmLayout

namespace NetIpc.Shm

/-! ### Names -/

/-- The characters `validate_service_name` accepts. -/
def validNameByte (c : UInt8) : Bool :=
  (97 ≤ c ∧ c ≤ 122) ∨ (65 ≤ c ∧ c ≤ 90) ∨ (48 ≤ c ∧ c ≤ 57) ∨ c = 46 ∨ c = 95 ∨ c = 45

/-- How `{:?}` prints a character below 256. -/
def debugChar (c : UInt8) : String :=
  if c = 0 then "'\\0'"
  else if c = 9 then "'\\t'"
  else if c = 10 then "'\\n'"
  else if c = 13 then "'\\r'"
  else if c = 39 then "'\\''"
  else if c = 92 then "'\\\\'"
  else if c < 32 ∨ (127 ≤ c ∧ c ≤ 160) ∨ c = 173 then
    "'\\u\x7b" ++ String.ofList (Nat.toDigits 16 c.toNat) ++ "\x7d'"
  else "'" ++ String.singleton (Char.ofNat c.toNat) ++ "'"

/-- `validate_service_name`. -/
def validateServiceName (name : Bytes) : Res Error Unit := do
  rejectIf (name = []) (.badParam "empty service name")
  rejectIf (name = [46] ∨ name = [46, 46]) (.badParam "service name cannot be '.' or '..'")
  match name.find? (fun c => !validNameByte c) with
  | none => return ()
  | some c => .error (.err (.badParam
      ("service name contains invalid character: " ++ debugChar c)))

/-- The suffix `.ipcshm`. -/
def regionSuffix : Bytes := [46, 105, 112, 99, 115, 104, 109]

def hexDigit (value : Nat) : UInt8 := UInt8.ofNat (if value < 10 then 48 + value else 87 + value)

/-- A session id in sixteen hexadecimal digits. -/
def hex16 (sessionId : UInt64) : Bytes :=
  (List.range 16).map fun place => hexDigit (sessionId.toNat / 16 ^ (15 - place) % 16)

/-- The file name of a region. -/
def regionName (serviceName : Bytes) (sessionId : UInt64) : Bytes :=
  serviceName ++ [45] ++ hex16 sessionId ++ regionSuffix

/-- `Path::join` with a relative name. -/
def joinPath (dir name : Bytes) : Bytes :=
  if dir = [] ∨ dir.getLast? = some 47 then dir ++ name else dir ++ [47] ++ name

/-- `build_shm_path`. -/
def buildShmPath (runDir serviceName : Bytes) (sessionId : UInt64) : Res Error Bytes := do
  validateServiceName serviceName
  let path := joinPath runDir (regionName serviceName sessionId)
  rejectIf (path.length ≥ 256) .pathTooLong
  return path

/-- The names `cleanup_stale` looks at. -/
def matchesService (serviceName name : Bytes) : Bool :=
  (serviceName ++ [45]).isPrefixOf name && regionSuffix.isSuffixOf name

/-! ### Files -/

/-- A file: its bytes, the process that created it as a region, under which name, and whether that
process has given it up. -/
structure File where
  bytes : Bytes
  creator : Option UInt32
  path : Bytes
  destroyed : Bool
  deriving Repr, DecidableEq

/-- The entries of the directory, the files, and the number of the next file. -/
structure Disk where
  dir : Bytes → Option Nat
  files : Nat → File
  fresh : Nat

namespace Disk

/-- `unlink`. -/
def remove (disk : Disk) (name : Bytes) : Disk :=
  { disk with dir := Function.update disk.dir name none }

/-- `open` with `O_CREAT | O_EXCL` on a name that is free. -/
def create (disk : Disk) (name : Bytes) (pid : UInt32) : Disk where
  dir := Function.update disk.dir name (some disk.fresh)
  files := Function.update disk.files disk.fresh ⟨[], some pid, name, false⟩
  fresh := disk.fresh + 1

/-- The file has other bytes. -/
def write (disk : Disk) (inode : Nat) (bytes : Bytes) : Disk :=
  { disk with files := Function.update disk.files inode { disk.files inode with bytes } }

/-- The creator gives the file up. -/
def giveUp (disk : Disk) (inode : Nat) : Disk :=
  { disk with
    files := Function.update disk.files inode { disk.files inode with destroyed := true } }

end Disk

/-! ### Looking at one path -/

/-- `StaleResult`. -/
inductive StaleResult where
  | notExist
  | recovered
  | liveServer
  | invalid
  deriving Repr, DecidableEq

/-- What the operating system answers: whether the call succeeds and with which error it fails, the
generation the clock gives, and the names `read_dir` lists. -/
structure Answer where
  granted : Bool
  errno : Int
  generation : UInt32
  names : List Bytes
  deriving Repr, DecidableEq

def enoent : Int := 2
def emfile : Int := 24
def enfile : Int := 23

/-- `stale_check_unavailable`. -/
def staleCheckUnavailable (err : Int) : Bool := err = emfile ∨ err = enfile

/-- Which call of `cleanup_stale` or `check_shm_stale` comes next for a path. -/
inductive ScanPoint where
  | stat
  | open
  | fstat (inode : Nat)
  | map (inode : Nat)
  | magic (inode : Nat)
  | owner (inode : Nat)
  | generation (inode : Nat) (owner : UInt32)
  | judge (owner gen : UInt32)
  | unlink (result : StaleResult)
  | done (result : StaleResult)
  deriving Repr, DecidableEq

/-- `pid_alive`: `kill` finds the process. -/
def pidAlive (alive : UInt32 → Bool) (pid : UInt32) : Bool :=
  pid ≠ 0 ∧ pid < 0x80000000 ∧ alive pid = true

/-- What a failed `open` leads to; only `check_shm_stale` asks whether the file has vanished. -/
def openFailed (check : Bool) (errno : Int) : ScanPoint :=
  if check = true ∧ errno = enoent then .done .notExist
  else if staleCheckUnavailable errno then .done .liveServer
  else .unlink .invalid

/-- One step of `check_shm_stale` (`check`), which starts with `stat`, or of the body of the loop of
`cleanup_stale`, which starts with `open`. -/
def scanStep (alive : UInt32 → Bool) (check : Bool) (name : Bytes) (answer : Answer) (disk : Disk) :
    ScanPoint → ScanPoint × Disk
  | .stat =>
    match disk.dir name with
    | none => (.done .notExist, disk)
    | some inode =>
      if answer.granted = false then (.done .notExist, disk)
      else if (disk.files inode).bytes.length < headerLen.toNat then (.unlink .invalid, disk)
      else (.open, disk)
  | .open =>
    if answer.granted then
      match disk.dir name with
      | none => (openFailed check enoent, disk)
      | some inode => (if check then .map inode else .fstat inode, disk)
    else (openFailed check answer.errno, disk)
  | .fstat inode =>
    if answer.granted = false ∨ (disk.files inode).bytes.length < headerLen.toNat then
      (.unlink .invalid, disk)
    else (.map inode, disk)
  | .map inode => (if answer.granted then .magic inode else .unlink .invalid, disk)
  | .magic inode =>
    (if loadU32 (disk.files inode).bytes 0 ≠ regionMagic then .unlink .invalid else .owner inode,
      disk)
  | .owner inode => (.generation inode (loadU32 (disk.files inode).bytes 8), disk)
  | .generation inode owner => (.judge owner (loadU32 (disk.files inode).bytes 12), disk)
  | .judge owner gen =>
    (if pidAlive alive owner = true ∧ gen ≠ 0 then .done .liveServer else .unlink .recovered, disk)
  | .unlink result =>
    if answer.granted then (.done result, disk.remove name) else (.done .liveServer, disk)
  | .done result => (.done result, disk)

/-! ### Creating a region -/

/-- What `server_create` computes before it touches the directory: the name and the sizes. -/
structure Plan where
  name : Bytes
  sizes : Layout
  deriving Repr, DecidableEq

/-- The start of `server_create`. -/
def planRegion (runDir serviceName : Bytes) (sessionId : UInt64)
    (reqCapacity respCapacity : UInt32) : Res Error Plan := do
  let path ← buildShmPath runDir serviceName sessionId
  let sizes ← layout reqCapacity respCapacity
  rejectIf (0 ∈ path) (.badParam "path contains null byte")
  return ⟨regionName serviceName sessionId, sizes⟩

/-- The header `server_create` writes. -/
def Plan.header (plan : Plan) (pid generation : UInt32) : RegionHeader where
  magic := regionMagic
  version := regionVersion
  headerLen := Shm.headerLen
  ownerPid := pid
  ownerGeneration := generation
  requestOffset := plan.sizes.reqOff
  requestCapacity := plan.sizes.reqCap
  responseOffset := plan.sizes.respOff
  responseCapacity := plan.sizes.respCap

/-- Where the fields of the header end, in the order they are stored. -/
def fieldEnds : List Nat := [4, 6, 8, 12, 16, 20, 24, 28, 32]

/-- A zeroed region with the fields of its header before `stop` stored. -/
def Plan.written (plan : Plan) (pid generation : UInt32) (stop : Nat) : Bytes :=
  (plan.header pid generation).image.take stop ++ zeros (plan.sizes.regionSize.toNat - stop)

/-- Which call or store of `server_create` comes next. -/
inductive CreatePoint where
  | openFirst
  | checking (scan : ScanPoint)
  | openAgain
  | truncate (inode : Nat)
  | map (inode : Nat)
  | zero (inode : Nat)
  | store (inode : Nat) (generation : UInt32) (ends : List Nat)
  | removing (inode : Nat) (error : Error)
  | serving (inode : Nat)
  | closed
  | failed (error : Error)
  deriving Repr, DecidableEq

/-- `open` with `O_CREAT | O_EXCL`, and where to go on if there is a file. -/
def openExclusive (pid : UInt32) (plan : Plan) (answer : Answer) (disk : Disk)
    (taken : CreatePoint) : CreatePoint × Disk :=
  match disk.dir plan.name with
  | some _ => (taken, disk)
  | none =>
    if answer.granted then (.truncate disk.fresh, disk.create plan.name pid)
    else (.failed (.open answer.errno), disk)

/-- One step of `server_create`. -/
def createStep (alive : UInt32 → Bool) (pid : UInt32) (plan : Plan) (answer : Answer)
    (disk : Disk) : CreatePoint → CreatePoint × Disk
  | .openFirst => openExclusive pid plan answer disk (.checking .stat)
  | .checking (.done .liveServer) => (.failed .addrInUse, disk)
  | .checking (.done _) => (.openAgain, disk)
  | .checking scan =>
    Prod.map .checking id (scanStep alive true plan.name answer disk scan)
  | .openAgain => openExclusive pid plan answer disk (.failed .addrInUse)
  | .truncate inode =>
    if answer.granted then (.map inode, disk.write inode (zeros plan.sizes.regionSize.toNat))
    else (.removing inode (.truncate answer.errno), disk)
  | .map inode =>
    if answer.granted then (.zero inode, disk) else (.removing inode (.mmap answer.errno), disk)
  | .zero inode =>
    (.store inode answer.generation fieldEnds,
      disk.write inode (zeros plan.sizes.regionSize.toNat))
  | .store inode _ [] => (.serving inode, disk)
  | .store inode generation (stop :: rest) =>
    (.store inode generation rest, disk.write inode (plan.written pid generation stop))
  | .removing inode error => (.failed error, (disk.remove plan.name).giveUp inode)
  | .serving inode => (.serving inode, disk)
  | .closed => (.closed, disk)
  | .failed error => (.failed error, disk)

/-! ### Tasks -/

/-- Where `cleanup_stale` is. -/
inductive CleanPoint where
  | readDir
  | scanning (name : Bytes) (scan : ScanPoint) (rest : List Bytes)
  | finished
  deriving Repr, DecidableEq

/-- The next entry of the directory. -/
def visit : List Bytes → CleanPoint
  | [] => .finished
  | name :: rest => .scanning name .open rest

/-- One step of `cleanup_stale`. -/
def cleanStep (alive : UInt32 → Bool) (serviceName : Bytes) (answer : Answer) (disk : Disk) :
    CleanPoint → CleanPoint × Disk
  | .readDir =>
    if answer.granted then (visit (answer.names.filter (matchesService serviceName)), disk)
    else (.finished, disk)
  | .scanning _ (.done _) rest => (visit rest, disk)
  | .scanning name scan rest =>
    Prod.map (.scanning name · rest) id (scanStep alive false name answer disk scan)
  | .finished => (.finished, disk)

inductive Job where
  | create (plan : Plan) (point : CreatePoint)
  | clean (serviceName : Bytes) (point : CleanPoint)
  deriving Repr, DecidableEq

/-- A task and the process it belongs to. -/
structure Task where
  pid : UInt32
  job : Job
  deriving Repr, DecidableEq

/-- One step of a task. -/
def Task.step (alive : UInt32 → Bool) (answer : Answer) (disk : Disk) (task : Task) : Task × Disk :=
  match task.job with
  | .create plan point =>
    Prod.map (fun point => { task with job := .create plan point }) id
      (createStep alive task.pid plan answer disk point)
  | .clean serviceName point =>
    Prod.map (fun point => { task with job := .clean serviceName point }) id
      (cleanStep alive serviceName answer disk point)

/-- `ShmContext::destroy` by a task that has a region. -/
def Task.destroy (disk : Disk) (task : Task) : Task × Disk :=
  match task.job with
  | .create plan (.serving inode) =>
    ({ task with job := .create plan .closed }, (disk.remove plan.name).giveUp inode)
  | _ => (task, disk)

/-- The directory, the processes that run, and their tasks. -/
structure World (ι : Type) where
  disk : Disk
  alive : UInt32 → Bool
  tasks : ι → Task

/-- What may happen: a task makes a step, a server destroys its region, a process ends. -/
inductive Happening (ι : Type) where
  | act (task : ι) (answer : Answer)
  | destroy (task : ι)
  | exit (pid : UInt32)

section Worlds

variable {ι : Type} [DecidableEq ι]

/-- A task has done something. -/
def World.moved (world : World ι) (task : ι) (outcome : Task × Disk) : World ι :=
  { world with disk := outcome.2, tasks := Function.update world.tasks task outcome.1 }

def World.step (world : World ι) : Happening ι → World ι
  | .act task answer =>
    if world.alive (world.tasks task).pid then
      world.moved task ((world.tasks task).step world.alive answer world.disk)
    else world
  | .destroy task =>
    if world.alive (world.tasks task).pid then
      world.moved task ((world.tasks task).destroy world.disk)
    else world
  | .exit pid => { world with alive := Function.update world.alive pid false }

def World.run (world : World ι) (schedule : List (Happening ι)) : World ι :=
  schedule.foldl World.step world

/-! ### Live regions -/

/-- The region belongs to a process that runs and has not given it up. -/
def World.live (world : World ι) (inode : Nat) : Bool :=
  match (world.disk.files inode).creator with
  | some pid => world.alive pid && !(world.disk.files inode).destroyed
  | none => false

/-- No live region has lost its entry in the directory. -/
def World.Intact (world : World ι) : Prop :=
  ∀ inode, world.live inode = true →
    world.disk.dir (world.disk.files inode).path = some inode

/-- A world before anything happened: any directory, any running processes, and tasks that are to
create the regions of services or to clean up after services. -/
structure World.Started (world : World ι) : Prop where
  numbered : ∀ name inode, world.disk.dir name = some inode → inode < world.disk.fresh
  old : ∀ inode, (world.disk.files inode).creator = none
  pid : ∀ pid, world.alive pid = true → 0 < pid ∧ pid < 0x80000000
  job : ∀ task,
    (∃ runDir serviceName sessionId reqCapacity respCapacity plan,
      planRegion runDir serviceName sessionId reqCapacity respCapacity = .ok plan ∧
      (world.tasks task).job = .create plan .openFirst) ∨
    ∃ serviceName, (world.tasks task).job = .clean serviceName .readDir

end Worlds

end NetIpc.Shm

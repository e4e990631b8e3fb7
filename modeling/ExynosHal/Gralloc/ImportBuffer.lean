import ExynosHal.Gralloc.FormatInfo

/-!
# Importing and freeing a buffer

`importBuffer` clones a handle, retains it (which maps its planes and imports its ion handles),
maps its attributes and registers it. What the kernel answers to each of these requests is given;
what the process holds is the state.
-/

namespace ExynosHal.Gralloc

inductive Mapping
  | plane
  | attribute
  deriving DecidableEq

/-- What the process holds: mappings by their address, ion handles as often as they are imported,
and the pointers of the registered handles. -/
@[ext]
structure Held where
  mappings : Nat → Option Mapping
  ionHandles : Multiset Int
  registered : Finset Nat

def mapFailed : Nat := 2 ^ 64 - 1

def Held.map (s : Held) (addr : Nat) (m : Mapping) : Held :=
  { s with mappings := Function.update s.mappings addr (some m) }

/-- The kernel refuses `MAP_FAILED`, which is not aligned. -/
def Held.munmap (s : Held) (addr : Nat) : Held :=
  if addr = mapFailed then s else { s with mappings := Function.update s.mappings addr none }

/-- A file descriptor of a handle, with the mapping and the ion handle that belong to it. -/
structure BufferFd where
  fd : Int
  base : Nat
  ionHandle : Int
  deriving DecidableEq

/-- `private_handle_t`: `planes` are the first `fd_count` descriptors, `attr` is the one of the
attributes behind them. -/
structure PrivateHandle where
  version : Int
  numFds : Int
  numInts : Int
  magic : Int
  flags : U32
  planes : List BufferFd
  attr : BufferFd
  producerUsage : U64
  consumerUsage : U64
  allocatingPid : Int
  remotePid : Int
  refCount : Int

structure Answers where
  clone : Option Nat
  mmapPlane : Nat → Option Nat
  mmapAttr : Option Nat
  importHandle : Nat → Option Int

/-- The process, and what the build makes of `private_handle_t` and `GRALLOC_SCALER_WFD`. -/
structure Host where
  pid : Int
  numInts : Int
  scalerWfd : Bool

def sMagic : Int := 0x3141592
def nativeHandleSize : Int := 12

def usageSecureCameraReserved : U64 := 1#64 <<< 31
def usageNozeroed : U64 := 1#64 <<< 58
def usagePrivateNonsecure : U64 := 1#64 <<< 59

def privFlagsUsesHfrMode : U32 := 1#32 <<< 6

def PrivateHandle.validate (host : Host) (hnd : PrivateHandle) : Bool :=
  hnd.version == nativeHandleSize && hnd.magic == sMagic && hnd.numFds + hnd.numInts == host.numInts

def skipsMap (host : Host) (hnd : PrivateHandle) : Bool :=
  let usage := hnd.producerUsage ||| hnd.consumerUsage
  hasAny usage (usageProtected ||| usageNozeroed ||| usageSecureCameraReserved) &&
      !hasAny usage usagePrivateNonsecure ||
    hnd.flags &&& privFlagsUsesHfrMode != 0#32 ||
    host.scalerWfd && !hasAny usage usageProtected && hasAny usage usagePrivateNonsecure && hasAny usage usageHwComposer

def ionMapLoop (answers : Answers) (done : List BufferFd) : List BufferFd → Held → Bool × List BufferFd × Held
  | [], s => (true, done, s)
  | p :: rest, s =>
    match answers.mmapPlane done.length with
    | none => (false, done ++ p :: rest, done.foldl (fun s p => s.munmap p.base) s)
    | some addr => ionMapLoop answers (done ++ [{ p with base := addr }]) rest (s.map addr .plane)

def maliGrallocIonMap (host : Host) (answers : Answers) (hnd : PrivateHandle) (s : Held) :
    Bool × PrivateHandle × Held :=
  if skipsMap host hnd then (true, hnd, s)
  else
    let (ok, planes, s) := ionMapLoop answers [] hnd.planes s
    (ok, { hnd with planes := planes }, s)

def unmapBase (s : Held) (base : Nat) : Held := if base ≠ 0 then s.munmap base else s

def BufferFd.unmapped (p : BufferFd) : BufferFd := { p with base := if p.base = mapFailed then p.base else 0 }

def maliGrallocIonUnmap (hnd : PrivateHandle) (s : Held) : PrivateHandle × Held :=
  ({ hnd with planes := hnd.planes.map BufferFd.unmapped }, (hnd.planes.map (·.base)).foldl unmapBase s)

def PrivateHandle.getShareAttrFd (hnd : PrivateHandle) : Int :=
  if 0 < hnd.planes.length ∧ hnd.planes.length ≤ 4 then hnd.attr.fd else -1

def PrivateHandle.ionFds (hnd : PrivateHandle) : List BufferFd :=
  hnd.planes ++ [{ hnd.attr with fd := hnd.getShareAttrFd }]

def PrivateHandle.withIonFds (hnd : PrivateHandle) (fds : List BufferFd) : PrivateHandle := { hnd with
    planes := fds.take hnd.planes.length
    attr := { fds.getD hnd.planes.length hnd.attr with fd := hnd.attr.fd } }

def freeLoop : List BufferFd → Multiset Int → List BufferFd × Multiset Int
  | [], handles => ([], handles)
  | p :: rest, handles =>
    if p.ionHandle ≠ 0 ∧ p.ionHandle ∈ handles then
      let (rest, handles) := freeLoop rest (handles.erase p.ionHandle)
      ({ p with ionHandle := 0 } :: rest, handles)
    else
      let (rest, handles) := freeLoop rest handles
      (p :: rest, handles)

def freeExynosIonHandles (hnd : PrivateHandle) (s : Held) : PrivateHandle × Held :=
  let (fds, handles) := freeLoop hnd.ionFds s.ionHandles
  (hnd.withIonFds fds, { s with ionHandles := handles })

def addHandle (handle : Int) (handles : Multiset Int) : Multiset Int :=
  if handle = 0 then handles else handle ::ₘ handles

def importLoop (answers : Answers) (idx : Nat) : List BufferFd → Multiset Int → Bool × List BufferFd × Multiset Int
  | [], handles => (true, [], handles)
  | p :: rest, handles =>
    if 0 ≤ p.fd then
      match answers.importHandle idx with
      | none => (false, p :: rest, handles)
      | some handle =>
        let (ok, rest, handles) := importLoop answers (idx + 1) rest (addHandle handle handles)
        (ok, { p with ionHandle := handle } :: rest, handles)
    else
      let (ok, rest, handles) := importLoop answers (idx + 1) rest handles
      (ok, p :: rest, handles)

def importExynosIonHandles (answers : Answers) (hnd : PrivateHandle) (s : Held) : PrivateHandle × Held :=
  let (ok, fds, handles) := importLoop answers 0 hnd.ionFds s.ionHandles
  let hnd := hnd.withIonFds fds
  let s := { s with ionHandles := handles }
  if ok then (hnd, s) else freeExynosIonHandles hnd s

def PrivateHandle.isLocal (host : Host) (hnd : PrivateHandle) : Bool :=
  hnd.allocatingPid == host.pid || hnd.remotePid == host.pid

def maliGrallocReferenceRetain (host : Host) (answers : Answers) (hnd : PrivateHandle) (s : Held) :
    Bool × PrivateHandle × Held :=
  if !hnd.validate host then (false, hnd, s)
  else if hnd.isLocal host then (true, { hnd with refCount := hnd.refCount + 1 }, s)
  else
    let hnd := { hnd with remotePid := host.pid, refCount := 1 }
    let (ok, hnd, s) := maliGrallocIonMap host answers hnd s
    let (hnd, s) := importExynosIonHandles answers hnd s
    (ok, hnd, s)

def freeAttr (hnd : PrivateHandle) (s : Held) : PrivateHandle × Held :=
  if hnd.attr.base ≠ 0 then ({ hnd with attr := { hnd.attr with base := 0 } }, s.munmap hnd.attr.base)
  else (hnd, s)

def maliGrallocBufferFree (hnd : PrivateHandle) (s : Held) : PrivateHandle × Held :=
  let (hnd, s) := freeExynosIonHandles hnd s
  let (hnd, s) := maliGrallocIonUnmap hnd s
  freeAttr hnd s

def maliGrallocReferenceRelease (host : Host) (hnd : PrivateHandle) (s : Held) : Bool × PrivateHandle × Held :=
  if !hnd.validate host then (false, hnd, s)
  else if hnd.refCount = 0 then (false, hnd, s)
  else if hnd.allocatingPid = host.pid then
    let hnd := { hnd with refCount := hnd.refCount - 1 }
    if hnd.refCount = 0 then (true, maliGrallocBufferFree hnd s) else (true, hnd, s)
  else if hnd.remotePid = host.pid then
    let hnd := { hnd with refCount := hnd.refCount - 1 }
    if hnd.refCount = 0 then
      let (hnd, s) := maliGrallocIonUnmap hnd s
      let (hnd, s) := freeExynosIonHandles hnd s
      (true, freeAttr hnd s)
    else (true, hnd, s)
  else (true, hnd, s)

inductive HidlError
  | badBuffer
  | noResources

def registerBuffer (host : Host) (answers : Answers) (hnd : PrivateHandle) (s : Held) :
    Option HidlError × PrivateHandle × Held :=
  if !hnd.validate host then (some .badBuffer, hnd, s)
  else
    let (ok, hnd, s) := maliGrallocReferenceRetain host answers hnd s
    (if ok then none else some .noResources, hnd, s)

def unregisterBuffer (host : Host) (hnd : PrivateHandle) (s : Held) : Option HidlError × PrivateHandle × Held :=
  if !hnd.validate host then (some .badBuffer, hnd, s)
  else
    let (ok, hnd, s) := maliGrallocReferenceRelease host hnd s
    (if ok then none else some .badBuffer, hnd, s)

def importBuffer (host : Host) (answers : Answers) (rawHandle : Option PrivateHandle) (s : Held) :
    Except HidlError (Nat × PrivateHandle) × Held :=
  match rawHandle, answers.clone with
  | none, _ => (.error .badBuffer, s)
  | some _, none => (.error .noResources, s)
  | some hnd, some pointer =>
    match registerBuffer host answers hnd s with
    | (some error, _, s) => (.error error, s)
    | (none, hnd, s) =>
      match answers.mmapAttr with
      | none => (.error .noResources, s)
      | some addr =>
        let s := s.map addr .attribute
        let hnd := { hnd with attr := { hnd.attr with base := addr } }
        if pointer ∈ s.registered then (.error .noResources, (unregisterBuffer host hnd s).2.2)
        else (.ok (pointer, hnd), { s with registered := insert pointer s.registered })

def freeBuffer (host : Host) (buffer : Nat) (hnd : PrivateHandle) (s : Held) : Option HidlError × Held :=
  if buffer ∉ s.registered then (some .badBuffer, s)
  else
    let s := { s with registered := s.registered.erase buffer }
    let s := s.munmap hnd.attr.base
    let hnd := { hnd with attr := { hnd.attr with base := mapFailed } }
    let (status, _, s) := unregisterBuffer host hnd s
    (status, s)

end ExynosHal.Gralloc

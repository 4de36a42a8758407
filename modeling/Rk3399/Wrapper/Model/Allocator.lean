import Mathlib.Algebra.Order.Ring.Int
import Mathlib.Tactic.Common
/-!
# The allocator

`allocator_drm.c`: buffers of the DRM device, each a dumb buffer with a handle
and a descriptor exported for it. What is recorded beside them is which
buffers `alloc` has given, and what `free` was applied to besides.
-/

namespace Rk3399

namespace Wrapper

/-- What `phy_addr` holds: zero, the descriptor of a buffer, or a descriptor the caller
gave. Descriptors of different buffers are told apart here even where the kernel
gives the number of a closed one again. -/
inductive Descriptor where
  | zero
  | buffer (n : Nat)
  | caller (fd : Nat)
  deriving DecidableEq, Repr

/-- `MppBufferInfo`. Of `vir_addr` it matters how many bytes are mapped there, or that it is
`NULL`. -/
structure MppBufferInfo where
  size : Nat := 0
  virAddr : Option Nat := none
  hnd : Option Nat := none
  phyAddr : Descriptor := .zero
  deriving DecidableEq, Repr

/-- How the two `ioctl` calls of `alloc` end: both work, no dumb buffer is created, or it
cannot be exported. -/
inductive AllocRet where
  | ok
  | noBuffer
  | noDescriptor
  deriving DecidableEq, Repr

/-- The device. -/
structure Drm where
  /-- It is open: the context is not `NULL`. -/
  ctx : Bool := false
  /-- How many dumb buffers were created. -/
  count : Nat := 0
  /-- The dumb buffers that exist. -/
  dumb : List Nat := []
  /-- The buffers `alloc` has given and `free` has not released. -/
  live : List Nat := []
  /-- What `free` has closed that was no such buffer. -/
  misfreed : List Descriptor := []
  deriving DecidableEq, Repr

namespace Drm

variable (drm : Drm) (info : MppBufferInfo)

/-- `os_allocator_drm_alloc`: whether it succeeds, and what it changes. -/
def alloc (outcome : AllocRet) : Bool × MppBufferInfo × Drm :=
  if drm.ctx = false then (false, info, drm)
  else
    match outcome with
    | .noBuffer => (false, info, drm)
    | .noDescriptor =>
      (false, { info with hnd := some drm.count },
        { drm with count := drm.count + 1, dumb := drm.count :: drm.dumb })
    | .ok =>
      (true, { info with hnd := some drm.count, phyAddr := .buffer drm.count, virAddr := none },
        { drm with
          count := drm.count + 1, dumb := drm.count :: drm.dumb, live := drm.count :: drm.live })

/-- `os_allocator_drm_mmap`: a buffer that is mapped already stays as it is. -/
def mmap (outcome : Bool) : Bool × MppBufferInfo :=
  if drm.ctx = false then (false, info)
  else if info.virAddr.isSome then (true, info)
  else if outcome then (true, { info with virAddr := some info.size })
  else (false, info)

/-- Closing a descriptor. -/
def close (fd : Descriptor) : Drm :=
  match fd with
  | .buffer n =>
    if n ∈ drm.live then { drm with live := drm.live.erase n }
    else { drm with misfreed := fd :: drm.misfreed }
  | _ => { drm with misfreed := fd :: drm.misfreed }

/-- `os_allocator_drm_free`. The descriptor and the handle stay in the record. -/
def free : MppBufferInfo × Drm :=
  if drm.ctx = false then (info, drm)
  else
    let closed := drm.close info.phyAddr
    ({ info with virAddr := none }, { closed with dumb := closed.dumb.filter (some · ≠ info.hnd) })

end Drm

end Wrapper

end Rk3399

import AwHal.Hwc.BufferPool
import AwHal.Hwc.Layer

/-!
# Rotate sessions

The buffers that a rotated layer is written to (`RotatorManager.cpp`): a session keeps one pool of
output buffers for its layer, and pools that are no longer large enough go to a cache that all
sessions share.  What a buffer has to hold is computed by `RotatorG2D` (`rotator-g2d.cpp`).
-/

namespace AwHal.Hwc

open AwHal.Lib

/-! ## `RotatorG2D` -/

/-- The part of `private_handle_t` that the rotator reads. -/
structure RotateHandle where
  width : Int32
  height : Int32
  format : Int
  usage : Nat
  aw_byte_align : Int32
deriving DecidableEq, Repr

def GRALLOC_USAGE_HW_2D : Nat := 0x400
def GRALLOC_USAGE_PROTECTED : Nat := 0x4000

def IsProtected (usage : Nat) : Prop := usage &&& GRALLOC_USAGE_PROTECTED ≠ 0

instance (usage : Nat) : Decidable (IsProtected usage) :=
  inferInstanceAs (Decidable (_ ≠ _))

def HAL_TRANSFORM_ROT_90 : Nat := 4

/-- `HWC_ALIGN`, a `long`. -/
def HWC_ALIGN (x a : Int32) : Int64 := ((x + a).toInt64 - 1) &&& ~~~(a.toInt64 - 1)

def bytesPerPixel (format : Int) : Int32 :=
  if format = HAL_PIXEL_FORMAT_YV12 ∨ format = HAL_PIXEL_FORMAT_YCrCb_420_SP ∨
      format = HAL_PIXEL_FORMAT_AW_NV12 then 1
  else if format = HAL_PIXEL_FORMAT_RGB_888 then 3
  else if format = HAL_PIXEL_FORMAT_RGB_565 then 2
  else 4

/-- The width, the height and the alignment of the output, before it is turned. -/
def getAlignedWidthAndHeight (handle : RotateHandle) : Int32 × Int32 × Int32 :=
  let bpp := bytesPerPixel handle.format
  let align := handle.aw_byte_align
  ((HWC_ALIGN (handle.width * bpp) align / bpp.toInt64).toInt32,
    (HWC_ALIGN (handle.height * bpp) align / bpp.toInt64).toInt32, align)

def computeBufferSize (width height align : Int32) (pixelformat : Int) : UInt32 :=
  let size : Int32 :=
    if pixelformat = HAL_PIXEL_FORMAT_YV12 then
      let stride := (HWC_ALIGN width align).toInt32
      let stride_uv := (HWC_ALIGN (width / 2) align).toInt32
      stride * height + stride_uv * height
    else if pixelformat = HAL_PIXEL_FORMAT_YCrCb_420_SP ∨
        pixelformat = HAL_PIXEL_FORMAT_AW_NV12 then
      (HWC_ALIGN width align).toInt32 * height * 3 / 2
    else if pixelformat = HAL_PIXEL_FORMAT_RGB_888 then
      (HWC_ALIGN (width * 3) align).toInt32 * height
    else if pixelformat = HAL_PIXEL_FORMAT_RGB_565 then
      (HWC_ALIGN (width * 2) align).toInt32 * height
    else (HWC_ALIGN (width * 4) align).toInt32 * height
  size.toUInt32

structure Geometry where
  w : Int32
  h : Int32
  align : Int32
  format : Int
deriving DecidableEq, Repr

def outputGeometry (handle : RotateHandle) (transform : Nat) : Geometry :=
  let (w, h, align) := getAlignedWidthAndHeight handle
  if transform &&& HAL_TRANSFORM_ROT_90 ≠ 0 then ⟨h, w, align, handle.format⟩
  else ⟨w, h, align, handle.format⟩

def Geometry.size (g : Geometry) : Nat := (computeBufferSize g.w g.h g.align g.format).toNat

/-! ## `BufferPoolCache` -/

def UINT32_MAX : Nat := 2 ^ 32 - 1

def getTurn (size usage : Nat) (best : Nat × Option Nat) (pool : BufferPool × Nat) :
    Nat × Option Nat :=
  if pool.1.mUsage = usage ∧ size ≤ pool.1.bufferSize ∧ pool.1.bufferSize < best.1 then
    (pool.1.bufferSize, some pool.2)
  else best

namespace BufferPoolCache

def get (cache : List BufferPool) (size usage : Nat) : Option BufferPool × List BufferPool :=
  match (cache.zipIdx.foldl (getTurn size usage) (UINT32_MAX, none)).2 with
  | none => (none, cache)
  | some found => (cache[found]?, cache.eraseIdx found)

def mCacheDepth : Nat := 2

def put (cache : List BufferPool) (pool : BufferPool) : List BufferPool :=
  let cache := cache ++ [pool]
  if mCacheDepth < cache.length then cache.tail else cache

end BufferPoolCache

/-! ## `RotateSession` -/

structure OutputBuffer where
  buffer : IonBuffer
  width : Int32
  height : Int32
  align : Int32
  format : Int
deriving DecidableEq, Repr

structure RotateTask where
  mTaskId : Nat
  mOutputBuffer : OutputBuffer
  mTransform : Nat
deriving DecidableEq, Repr

structure RotateSession where
  mBufferPool : Option BufferPool := none
  mRotateTask : Option RotateTask := none
  mAllocatedBufferWidth : Int32 := 0
  mAllocatedBufferHeight : Int32 := 0
  mAllocatedBufferPixelFormat : Int := 0
  mRotateFailedCount : Nat := 0
deriving DecidableEq, Repr

/-- What a call of `createAsyncRotateTask` leaves, besides the session. -/
structure Created where
  ret : Int
  session : RotateSession
  cache : List BufferPool
  mNextTaskId : Nat

namespace RotateSession

def BUFFER_POOL_DEPTH : Nat := 4

def active (s : RotateSession) : Bool := s.mRotateTask.isSome

/-- The usage for the output of a buffer: a secure source needs a secure output. -/
def outputUsage (handle : RotateHandle) : Nat :=
  if IsProtected handle.usage then GRALLOC_USAGE_HW_2D ||| GRALLOC_USAGE_PROTECTED
  else GRALLOC_USAGE_HW_2D

def SameGeometry (s : RotateSession) (g : Geometry) : Prop :=
  s.mAllocatedBufferWidth = g.w ∧ s.mAllocatedBufferHeight = g.h ∧
    s.mAllocatedBufferPixelFormat = g.format

instance (s : RotateSession) (g : Geometry) : Decidable (s.SameGeometry g) :=
  inferInstanceAs (Decidable (_ ∧ _ ∧ _))

def reallocatePool (pool : BufferPool) (size : Nat) : BufferPool :=
  (pool.step (.reallocate size)).step .allocateBuffer

def choosePool (s : RotateSession) (cache : List BufferPool) (handle : RotateHandle)
    (g : Geometry) : BufferPool × List BufferPool :=
  match s.mBufferPool with
  | none =>
      let (cached, cache) := BufferPoolCache.get cache g.size (outputUsage handle)
      (cached.getD (.new BUFFER_POOL_DEPTH g.size (outputUsage handle)), cache)
  | some pool =>
      -- neither the alignment nor the usage is compared
      if s.SameGeometry g then (pool, cache)
      -- only when the request is larger than what the pool has
      else if pool.bufferSize < g.size then
        match BufferPoolCache.get cache g.size (outputUsage handle) with
        | (some cached, cache) => (cached, BufferPoolCache.put cache pool)
        | (none, cache) => (reallocatePool pool g.size, cache)
      else (pool, cache)

def threadRun (pool : BufferPool) (steps : List BufferPool.Event) : BufferPool :=
  (steps.filter fun event => decide event.Pending).foldl BufferPool.step pool

/-- The second half of `createAsyncRotateTask`: a buffer is acquired after the given steps of the
allocating thread. -/
def acquireTask (s : RotateSession) (pool : BufferPool) (cache : List BufferPool)
    (mNextTaskId : Nat) (g : Geometry) (transform : Nat) (steps : List BufferPool.Event) : Created :=
  let pool := (threadRun pool steps).step .acquireBuffer
  let s := { s with
    mBufferPool := some pool
    mAllocatedBufferWidth := g.w
    mAllocatedBufferHeight := g.h
    mAllocatedBufferPixelFormat := g.format }
  match pool.acquired with
  | some buffer =>
      let task := { mTaskId := mNextTaskId
                    mOutputBuffer := { buffer, width := g.w, height := g.h, align := g.align,
                                       format := g.format }
                    mTransform := transform }
      { ret := 0, session := { s with mRotateTask := some task }, cache
        mNextTaskId := mNextTaskId + 1 }
  | none => { ret := -1, session := s, cache, mNextTaskId }

def createAsyncRotateTask (s : RotateSession) (cache : List BufferPool) (mNextTaskId : Nat)
    (handle : RotateHandle) (transform : Nat) (steps : List BufferPool.Event) : Created :=
  if 3 ≤ s.mRotateFailedCount then { ret := -1, session := s, cache, mNextTaskId }
  -- the assignment may be tried again within a frame
  else if s.active then { ret := 0, session := s, cache, mNextTaskId }
  else
    let g := outputGeometry handle transform
    let (pool, cache) := s.choosePool cache handle g
    s.acquireTask pool cache mNextTaskId g transform steps

def putRotatedBuffer (s : RotateSession) : RotateSession :=
  match s.mRotateTask with
  | none => s
  | some task =>
      { s with
        mBufferPool := s.mBufferPool.map
          (·.step (.releaseBuffer task.mOutputBuffer.buffer.handle))
        mRotateTask := none }

def onRotateFailed (s : RotateSession) : RotateSession :=
  { s with mRotateFailedCount := s.mRotateFailedCount + 1 }

end RotateSession

end AwHal.Hwc

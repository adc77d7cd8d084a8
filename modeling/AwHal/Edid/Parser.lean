import Mathlib.Data.UInt
import AwHal.Lib.Reading

/-!
# `EdidParser`

The parser of `libedid` (`edid.cpp`), from the bytes of the array `edid` to what the display service
knows of the sink.  The bytes are read one by one, so that the cells a parse looks at can be told.

Extension blocks name each other: an HF-EEODB data block makes the parser walk through further blocks
with the same dispatcher.  `depth` bounds how deep such calls are nested; a parse that needs more has
no result.
-/

namespace AwHal.Edid

open AwHal.Lib

/-! ## Memory -/

def BLOCK_LENGTH : Nat := 128
def EDID_MAX_BLOCK_COUNT : Nat := 8
def EDID_MAX_LENGTH : Nat := BLOCK_LENGTH * EDID_MAX_BLOCK_COUNT

/-- `&edid[0x80 * block] + offset`; nothing keeps the offset inside the block. -/
structure Addr where
  block : Nat
  offset : Nat
deriving DecidableEq, Repr

def Addr.index (a : Addr) : Nat := BLOCK_LENGTH * a.block + a.offset

def Addr.add (x : Addr) (i : Nat) : Addr := ⟨x.block, x.offset + i⟩

/-- The bytes from `edid[0]` on, with those that lie behind the array. -/
abbrev Memory := Nat → UInt8

def Memory.cells (mem : Memory) (a : Addr) : UInt8 := mem a.index

abbrev Reader := Reading Addr UInt8

def byte (x : Addr) (i : Nat) : Reader UInt8 := Reading.cell (x.add i)

def bytes (x : Addr) (i : Nat) : Nat → Reader (List UInt8)
  | 0 => pure []
  | n + 1 => do
      let b ← byte x i
      let rest ← bytes x (i + 1) n
      pure (b :: rest)

/-- The bytes of a string that ends within `n` bytes or is cut there. -/
def bytesUntilNul (x : Addr) (i : Nat) : Nat → Reader (List UInt8)
  | 0 => pure []
  | n + 1 => do
      let b ← byte x i
      if b = 0 then pure []
      else
        let rest ← bytesUntilNul x (i + 1) n
        pure (b :: rest)

/-! ## What the parser knows -/

inductive VideoFmt where
  | RGB | YUV444 | YUV422 | YUV420
deriving DecidableEq, Repr

structure VideoFormat where
  dc_30bit : Bool := false
  dc_36bit : Bool := false
  dc_48bit : Bool := false
deriving DecidableEq, Repr

structure VideoInformationCode where
  vic : Nat
  native : Nat
  regular_sampling : Nat
  ycbcr420_sampling : Nat
deriving DecidableEq, Repr

/-- The values of a detailed timing; the pixel clock is in units of 10 kHz. -/
structure DetailedTiming where
  hsync_active : Nat
  vsync_active : Nat
  pixel_clock : Nat
  interlaced : Bool
deriving DecidableEq, Repr

inductive SinkType where
  | DVI | HDMI
deriving DecidableEq, Repr

structure EdidParser where
  mMonitorName : List UInt8 := List.replicate 16 0
  mVendorName : List UInt8 := List.replicate 4 0
  mProductId : UInt16 := 0
  mSerialNumber : UInt32 := 0
  mManufactureWeek : UInt16 := 0
  mManufactureYear : UInt16 := 0
  mVersion : UInt16 := 0
  mDisplaySizeH : UInt16 := 0
  mDisplaySizeV : UInt16 := 0
  mStandardTiming : List Nat := []
  mDetailedTiming : List DetailedTiming := []
  mExtensionBlock : Nat := 0
  mMaxTmdsCharacterRate1p4 : Nat := 0
  mColorimetry : UInt8 := 0
  m3Dpresent : Bool := false
  mRGBOnly : Bool := true
  mSinkType : SinkType := .DVI
  mHDMIVersion : Nat := 0
  mHdmi4k2kVIC : List VideoInformationCode := []
  mMaxTmdsCharacterRate2p0 : Nat := 0
  mY420SamplingAny : Bool := false
  mEotf : UInt8 := 0
  mMetadataDescriptor : UInt8 := 0
  mMaxLuminance : UInt8 := 0
  mMaxFrameAverageLuminance : UInt8 := 0
  mMinLuminance : UInt8 := 0
  mAppVer : UInt8 := 0
  mExtensionBlockCount : Nat := 0
  mYCbCr420CapabilityMap : List Nat := []
  mSupportedVIC : List VideoInformationCode := []
  mY420VIC : List VideoInformationCode := []
  mSupportedFormat : VideoFmt → Option VideoFormat := fun _ => none

namespace EdidParser

/-- The count of the last HF-EEODB is the one member that is not cleared. -/
def clear (s : EdidParser) : EdidParser := { mExtensionBlockCount := s.mExtensionBlockCount }

def getVideoFormat (s : EdidParser) (format : VideoFmt) : VideoFormat :=
  (s.mSupportedFormat format).getD {}

def setVideoFormat (s : EdidParser) (format : VideoFmt) (fmt : VideoFormat) : EdidParser :=
  { s with mSupportedFormat := fun f => if f = format then some fmt else s.mSupportedFormat f }

def addVideoFormat (s : EdidParser) (format : VideoFmt) : EdidParser :=
  s.setVideoFormat format (s.getVideoFormat format)

end EdidParser

/-! ## Block 0 -/

/-- `do_checksum`: whether the bytes of the block add up to 0. -/
def do_checksum (block : Nat) : Reader Bool := do
  let x ← bytes ⟨block, 0⟩ 0 BLOCK_LENGTH
  pure (x.sum == 0)

def parseMonitorInfo (s : EdidParser) : Reader EdidParser := do
  let x8 ← byte ⟨0, 8⟩ 0
  let x9 ← byte ⟨0, 9⟩ 0
  let x11 ← byte ⟨0, 11⟩ 0
  let x10 ← byte ⟨0, 10⟩ 0
  let x15 ← byte ⟨0, 15⟩ 0
  let x14 ← byte ⟨0, 14⟩ 0
  let x13 ← byte ⟨0, 13⟩ 0
  let x12 ← byte ⟨0, 12⟩ 0
  let x16 ← byte ⟨0, 16⟩ 0
  let x17 ← byte ⟨0, 17⟩ 0
  let x18 ← byte ⟨0, 18⟩ 0
  let x19 ← byte ⟨0, 19⟩ 0
  let x21 ← byte ⟨0, 21⟩ 0
  let x22 ← byte ⟨0, 22⟩ 0
  let s := { s with
    mVendorName := [((x8 &&& 0x7C) >>> 2) + 64,
      ((x8 &&& 0x03) <<< 3) + ((x9 &&& 0xE0) >>> 5) + 64, (x9 &&& 0x1F) + 64, 0]
    mProductId := (x11.toUInt16 <<< 8) ||| x10.toUInt16
    -- byte 13 is not shifted
    mSerialNumber := (x15.toUInt32 <<< 24) ||| (x14.toUInt32 <<< 16) ||| x13.toUInt32 |||
      x12.toUInt32
    mManufactureWeek := x16.toUInt16
    mManufactureYear := if x17 ≤ 0xf then 1990 else x17.toUInt16 + 1990
    mVersion := (x18.toUInt16 <<< 8) ||| x19.toUInt16
    mDisplaySizeH := x21.toUInt16
    mDisplaySizeV := x22.toUInt16 }
  pure (s.addVideoFormat .RGB)

def standardTimingTab : List (Nat × Nat × Nat × Nat) :=
  [(7, 3, 720, 30), (6, 1, 720, 30), (22, 3, 720, 25), (21, 1, 720, 25), (3, 3, 720, 60),
    (2, 1, 720, 60), (18, 3, 720, 50), (17, 1, 720, 50), (4, 3, 1280, 60), (19, 3, 1280, 50),
    (5, 3, 1920, 30), (20, 3, 1920, 25), (16, 3, 1920, 60), (31, 3, 1920, 50), (32, 3, 1920, 24),
    (33, 3, 1920, 25), (34, 3, 1920, 30)]

def standardTiming (byte0 byte1 : UInt8) : List Nat :=
  if byte0 = 0x01 ∨ byte1 = 0x01 then []
  else
    let width := (byte0.toNat + 31) * 8
    let freq := (byte1 &&& 0x3F).toNat + 60
    let ratio := ((byte1 >>> 6) &&& 0x03).toNat
    (standardTimingTab.filter fun info => info.2 == (ratio, width, freq)).map Prod.fst

def standardTimings : List UInt8 → List Nat
  | byte0 :: byte1 :: rest => standardTiming byte0 byte1 ++ standardTimings rest
  | _ => []

def parseStandardTiming (s : EdidParser) : Reader EdidParser := do
  let data ← bytes ⟨0, 38⟩ 0 16
  pure { s with mStandardTiming := s.mStandardTiming ++ standardTimings data }

def isprint (c : UInt8) : Bool := 0x20 ≤ c && c ≤ 0x7e

def monitorName (name : List UInt8) (i : Nat) : List UInt8 → List UInt8
  | [] => if i < 13 then name.set i 0 else name
  | c :: rest =>
      if c ≠ 0x0a ∧ c &&& 0x80 = 0 ∧ isprint c then monitorName (name.set i c) (i + 1) rest
      else name.set i 0

def parseDescriptorBlock (start : Nat) (s : EdidParser) : Reader EdidParser := do
  let x : Addr := ⟨0, start⟩
  let x0 ← byte x 0
  let x1 ← byte x 1
  let x2 ← byte x 2
  if x0 = 0 ∧ x1 = 0 then
    let x3 ← byte x 3
    if x2 ≠ 0 ∨ x3 ≠ 0xFC then pure s
    else
      let tmp ← bytesUntilNul x 5 13
      pure { s with mMonitorName := monitorName s.mMonitorName 0 tmp }
  else
    let x4 ← byte x 4
    let x5 ← byte x 5
    let x7 ← byte x 7
    let x17 ← byte x 17
    let timing := { hsync_active := x2.toNat + (x4 &&& 0xF0).toNat * 16
                    vsync_active := x5.toNat + (x7 &&& 0xF0).toNat * 16
                    pixel_clock := x0.toNat + x1.toNat * 256
                    interlaced := x17 &&& 0x80 != 0 }
    pure { s with mDetailedTiming := s.mDetailedTiming ++ [timing] }

/-! ## Data blocks -/

/-- The codes that `getCeaVicName` has a name for. -/
def hdmi_cea_vics : List Nat := List.range 108

def svdCode (r y : Nat) (svd : UInt8) : Option VideoInformationCode :=
  if svd &&& 0x7F = 0 then none
  else
    let (vic, native) := if (svd - 1) &&& 0x40 ≠ 0 then (svd, 0) else (svd &&& 0x7F, svd &&& 0x80)
    if hdmi_cea_vics.contains vic.toNat then some ⟨vic.toNat, native.toNat, r, y⟩ else none

def ceaSvd (x : Addr) (n r y : Nat) : Reader (List VideoInformationCode) := do
  let svds ← bytes x 0 n
  pure (svds.filterMap (svdCode r y))

def videoDataBlock (x : Addr) (s : EdidParser) : Reader EdidParser := do
  let length := (← byte x 0) &&& 0x1F
  let codes ← ceaSvd (x.add 1) length.toNat 1 0
  pure { s with mSupportedVIC := s.mSupportedVIC ++ codes }

def YCbCr420VideoDataBlock (x : Addr) (s : EdidParser) : Reader EdidParser := do
  let length := (← byte x 0) &&& 0x1F
  let codes ← ceaSvd (x.add 2) (length.toNat - 1) 0 1
  pure ({ s with mY420VIC := s.mY420VIC ++ codes }.addVideoFormat .YUV420)

def capabilityMap (maps : List UInt8) : List Nat :=
  maps.zipIdx.flatMap fun (map, i) =>
    ((List.range 8).filter fun j => map.toNat.testBit j).map fun j => i * 8 + j

def YCbCr420CapabilityMapDataBlock (x : Addr) (s : EdidParser) : Reader EdidParser := do
  let length := (← byte x 0) &&& 0x1F
  if length = 1 then pure { s with mY420SamplingAny := true }
  else
    let maps ← bytes x 2 (length.toNat - 1)
    pure { s with mYCbCr420CapabilityMap := s.mYCbCr420CapabilityMap ++ capabilityMap maps }

/-- The codes of the four modes that HDMI 1.4 adds. -/
def extendedVic : List Nat := [0, 95, 94, 93, 98]

def hdmi4k2kVIC (b : UInt8) : Option VideoInformationCode :=
  if 1 ≤ b ∧ b ≤ 4 then some ⟨extendedVic.getD b.toNat 0, 0, 1, 0⟩ else none

def hdmi4k2kVICParse (x : Addr) (size : Nat) (s : EdidParser) : Reader EdidParser := do
  if 4 < size ∨ size = 0 then pure s
  else
    let codes ← bytes x 0 size
    pure { s with mHdmi4k2kVIC := s.mHdmi4k2kVIC ++ codes.filterMap hdmi4k2kVIC }

def deepColor (x6 : UInt8) (s : EdidParser) : EdidParser :=
  let rgb := s.getVideoFormat .RGB
  let rgb := { dc_30bit := rgb.dc_30bit || x6 &&& 0x10 != 0
               dc_36bit := rgb.dc_36bit || x6 &&& 0x20 != 0
               dc_48bit := rgb.dc_48bit || x6 &&& 0x40 != 0 }
  let s := s.setVideoFormat .RGB rgb
  if x6 &&& 0x80 ≠ 0 then s.setVideoFormat .YUV444 rgb else s

/-- The latency fields that byte 8 announces, and the two bytes of the video field. -/
def skipBytes (x8 : UInt8) : Nat :=
  (if x8 &&& 0x80 ≠ 0 then 2 else 0) + (if x8 &&& 0x40 ≠ 0 then 2 else 0) + 2

def hdmi1p4VSDB (x : Addr) (s : EdidParser) : Reader EdidParser := do
  let length := (← byte x 0) &&& 0x1F
  let s ← (if 5 < length then do
      let x6 ← byte x 6
      pure (deepColor x6 s)
    else pure s)
  let s ← (if 6 < length then do
      let x7 ← byte x 7
      pure { s with mMaxTmdsCharacterRate1p4 := x7.toNat * 5 }
    else pure s)
  if 7 < length then
    let x8 ← byte x 8
    if x8 &&& 0x20 ≠ 0 then
      let skip := skipBytes x8
      let viclen := ((← byte x (8 + skip)) &&& 0xE0) >>> 5
      let s ← (if viclen ≠ 0 then hdmi4k2kVICParse (x.add (8 + skip + 1)) viclen.toNat s
        else pure s)
      let present ← byte x (8 + skip - 1)
      if present &&& 0x80 ≠ 0 then pure { s with m3Dpresent := true } else pure s
    else pure s
  else pure s

def hdmi2p0VSDB (x : Addr) (s : EdidParser) : Reader EdidParser := do
  let x5 ← byte x 5
  let x7 ← byte x 7
  let fmt := s.getVideoFormat .YUV420
  let s := { s with mMaxTmdsCharacterRate2p0 := x5.toNat * 5 }
  pure (s.setVideoFormat .YUV420
    { dc_30bit := fmt.dc_30bit || x7 &&& 0x01 != 0
      dc_36bit := fmt.dc_36bit || x7 &&& 0x02 != 0
      dc_48bit := fmt.dc_48bit || x7 &&& 0x04 != 0 })

def HDMI1X_Version : Nat := 0x000C03
def HDMI20_Version : Nat := 0xC45DD8
def HDR10PLUS_Ver : Nat := 0x90848B

/-- Three bytes of a registration identifier, the last one first. -/
def oui (b2 b1 b0 : UInt8) : Nat := b2.toNat * 65536 + b1.toNat * 256 + b0.toNat

def vendorSpecificDataBlock (x : Addr) (s : EdidParser) : Reader EdidParser := do
  let x3 ← byte x 3
  let x2 ← byte x 2
  let x1 ← byte x 1
  if oui x3 x2 x1 = HDMI1X_Version then
    let s ← hdmi1p4VSDB x s
    pure { s with mSinkType := .HDMI, mHDMIVersion := s.mHDMIVersion ||| 1 }
  else if oui x3 x2 x1 = HDMI20_Version then
    let s ← hdmi2p0VSDB x s
    pure { s with mSinkType := .HDMI, mHDMIVersion := s.mHDMIVersion ||| 2 }
  else pure s

def vendorSpecificVideoDataBlock (x : Addr) (s : EdidParser) : Reader EdidParser := do
  let x4 ← byte x 4
  let x3 ← byte x 3
  let x2 ← byte x 2
  if oui x4 x3 x2 = HDR10PLUS_Ver then
    let x5 ← byte x 5
    pure { s with mAppVer := x5 &&& 0x01 }
  else pure s

def colorimetryDataBlock (x : Addr) (s : EdidParser) : Reader EdidParser := do
  let length := (← byte x 0) &&& 0x1F
  if 3 ≤ length then
    let x2 ← byte x 2
    pure { s with mColorimetry := x2 }
  else pure s

def hdrStaticMetadataBlock (x : Addr) (s : EdidParser) : Reader EdidParser := do
  let length := (← byte x 0) &&& 0x1F
  let s ← (if 3 ≤ length then do
      let x2 ← byte x 2
      let x3 ← byte x 3
      pure { s with mEotf := x2, mMetadataDescriptor := x3 }
    else pure s)
  let s ← (if 4 ≤ length then do
      let x4 ← byte x 4
      pure { s with mMaxLuminance := x4 }
    else pure s)
  let s ← (if 5 ≤ length then do
      let x5 ← byte x 5
      pure { s with mMaxFrameAverageLuminance := x5 }
    else pure s)
  if 6 ≤ length then
    let x6 ← byte x 6
    pure { s with mMinLuminance := x6 }
  else pure s

/-! ## Extension blocks -/

def VIDEO_DATA_BLOCK : UInt8 := 0x02
def VENDOR_SPECIFIC_DATA_BLOCK : UInt8 := 0x03
def EXTENDED_TAG : UInt8 := 0x07

def COLORIMETRY_DATA_BLOCK : UInt8 := 0x05
def HDR_STATIC_METADATA_DATA_BLOCK : UInt8 := 0x06
def YCBCR420_VIDEO_DATA_BLOCK : UInt8 := 0x0E
def YCBCR420_CAPABILITY_MAP_DATA_BLOCK : UInt8 := 0x0F
def VENDOR_SPECIFIC_VIDEO_DATA_BLOCK : UInt8 := 0x01
def HF_EEODB_DATA_BLOCK : UInt8 := 0x78

abbrev BlockParser := Addr → EdidParser → Reader (Option EdidParser)

def extendedDataBlock (hfEeodb : BlockParser) (x : Addr) (s : EdidParser) (extended : UInt8) :
    Reader (Option EdidParser) :=
  if extended = COLORIMETRY_DATA_BLOCK then do return some (← colorimetryDataBlock x s)
  else if extended = HDR_STATIC_METADATA_DATA_BLOCK then do
    return some (← hdrStaticMetadataBlock x s)
  else if extended = YCBCR420_VIDEO_DATA_BLOCK then do return some (← YCbCr420VideoDataBlock x s)
  else if extended = YCBCR420_CAPABILITY_MAP_DATA_BLOCK then do
    return some (← YCbCr420CapabilityMapDataBlock x s)
  else if extended = HF_EEODB_DATA_BLOCK then hfEeodb x s
  else if extended = VENDOR_SPECIFIC_VIDEO_DATA_BLOCK then do
    return some (← vendorSpecificVideoDataBlock x s)
  else pure (some s)

def taggedDataBlock (hfEeodb : BlockParser) (x : Addr) (s : EdidParser) (tagcode : UInt8) :
    Reader (Option EdidParser) :=
  if tagcode = VIDEO_DATA_BLOCK then do return some (← videoDataBlock x s)
  else if tagcode = VENDOR_SPECIFIC_DATA_BLOCK then do return some (← vendorSpecificDataBlock x s)
  else if tagcode = EXTENDED_TAG then do
    let extended ← byte x 1
    extendedDataBlock hfEeodb x s extended
  else pure (some s)

def dispatch (hfEeodb : BlockParser) (x : Addr) (s : EdidParser) : Reader (Option EdidParser) := do
  let header ← byte x 0
  taggedDataBlock hfEeodb x s ((header &&& 0xE0) >>> 5)

def andThen {α β : Type} (p : Reader (Option α)) (q : α → Reader (Option β)) :
    Reader (Option β) := do
  match ← p with
  | none => pure none
  | some a => q a

/-- The loop through the data blocks of an extension block, from `i` on; at most `n` passes are left,
since each one gets at least one byte further. -/
def walk (parseDataBlock : BlockParser) (block offset : Nat) :
    Nat → Nat → EdidParser → Reader (Option EdidParser)
  | 0, _, s => pure (some s)
  | n + 1, i, s =>
      if i < offset then
        andThen (parseDataBlock ⟨block, i⟩ s) fun s => do
          let header ← byte ⟨block, i⟩ 0
          walk parseDataBlock block offset n (i + ((header &&& 0x1F).toNat + 1)) s
      else pure (some s)

def extensionBlock (parseDataBlock : BlockParser) (b : Nat) (s : EdidParser) :
    Reader (Option EdidParser) := do
  let version ← byte ⟨b, 0⟩ 1
  let offset ← byte ⟨b, 0⟩ 2
  if version = 3 then walk parseDataBlock b offset.toNat offset.toNat 4 s else pure (some s)

/-- The loop in `HfEeodbDataBlock`, from block `b` on.  It goes on as long as `b` is not past the
member, which the calls in its body may set; a byte is at most 255. -/
def extensionBlocks (parseDataBlock : BlockParser) :
    Nat → Nat → EdidParser → Reader (Option EdidParser)
  | 0, _, s => pure (some s)
  | n + 1, b, s =>
      if b ≤ s.mExtensionBlockCount then
        andThen (extensionBlock parseDataBlock b s) (extensionBlocks parseDataBlock n (b + 1))
      else pure (some s)

def HfEeodbDataBlock (parseDataBlock : BlockParser) (x : Addr) (s : EdidParser) :
    Reader (Option EdidParser) := do
  let count ← byte x 2
  let s := { s with mExtensionBlockCount := count.toNat }
  if s.mExtensionBlockCount < 2 ∨ EDID_MAX_BLOCK_COUNT ≤ s.mExtensionBlockCount then pure (some s)
  else extensionBlocks parseDataBlock 254 2 s

/-- The dispatcher, for calls that nest up to the given depth. -/
def parseCeaDataBlocks : Nat → BlockParser
  | 0 => dispatch fun _ _ => pure none
  | depth + 1 => dispatch (HfEeodbDataBlock (parseCeaDataBlocks depth))

def ceaFormats (x3 : UInt8) (s : EdidParser) : EdidParser :=
  let s := if x3 &&& 0x20 ≠ 0 then { s.addVideoFormat .YUV444 with mRGBOnly := false } else s
  if x3 &&& 0x10 ≠ 0 then
    { s.setVideoFormat .YUV422 { s.getVideoFormat .YUV422 with dc_36bit := true } with
      mRGBOnly := false }
  else s

def ceaTail (s : EdidParser) : Reader (Option EdidParser) := do
  let version ← byte ⟨1, 0⟩ 1
  let s ← (if 2 ≤ version then do
      let x3 ← byte ⟨1, 0⟩ 3
      pure (ceaFormats x3 s)
    else pure s)
  let _ ← do_checksum 1
  pure (some s)

/-- `parseCeaExtensionBlock`; its result is not used by `parse`. -/
def parseCeaExtensionBlock (depth : Nat) (s : EdidParser) : Reader (Option EdidParser) := do
  let extensions ← byte ⟨0, 0x7E⟩ 0
  let s := { s with mExtensionBlock := extensions.toNat }
  if extensions = 0 then pure (some s)
  else
    let tag ← byte ⟨1, 0⟩ 0
    if tag ≠ 0x2 then pure (some s)
    else andThen (extensionBlock (parseCeaDataBlocks depth) 1 s) ceaTail

/-! ## After the blocks -/

def updateYCbCr420CapabilityVIC (s : EdidParser) : EdidParser :=
  let mark := fun v : VideoInformationCode => { v with ycbcr420_sampling := 1 }
  let known := s.mYCbCr420CapabilityMap.filter (· < s.mSupportedVIC.length)
  let marked := known.foldl (fun vics pos => vics.modify pos mark)
    (if s.mY420SamplingAny then s.mSupportedVIC.map mark else s.mSupportedVIC)
  let s' := { s with mSupportedVIC := marked }
  if s.mY420SamplingAny || !known.isEmpty then s'.addVideoFormat .YUV420 else s'

def is4kFast (v : VideoInformationCode) : Bool :=
  v.vic == 96 || v.vic == 97 || v.vic == 101 || v.vic == 102

def correctTmds (s : EdidParser) : EdidParser :=
  let slow := fun rate : Nat => decide (s.mMaxTmdsCharacterRate1p4 < rate) &&
    decide (s.mMaxTmdsCharacterRate2p0 < rate)
  { s with
    mSupportedVIC := s.mSupportedVIC.filter fun v => !(is4kFast v && slow 340)
    mY420VIC := s.mY420VIC.filter fun v => !(is4kFast v && slow 297) }

def edidHeader : List UInt8 := [0x00, 0xFF, 0xFF, 0xFF, 0xFF, 0xFF, 0xFF, 0x00]

def DESCRIPTOR1 : Nat := 0x36
def DESCRIPTOR2 : Nat := 0x48
def DESCRIPTOR3 : Nat := 0x5A
def DESCRIPTOR4 : Nat := 0x6C

def parse (depth : Nat) (s : EdidParser) : Reader (Option (Int × EdidParser)) := do
  let s := s.clear
  let header ← bytes ⟨0, 0⟩ 0 8
  if header ≠ edidHeader then pure (some (-1, s))
  else
    let sound ← do_checksum 0
    if !sound then pure (some (-1, s))
    else
      let s ← parseMonitorInfo s
      let s ← parseStandardTiming s
      let s ← parseDescriptorBlock DESCRIPTOR1 s
      let s ← parseDescriptorBlock DESCRIPTOR2 s
      let s ← parseDescriptorBlock DESCRIPTOR3 s
      let s ← parseDescriptorBlock DESCRIPTOR4 s
      andThen (parseCeaExtensionBlock depth s) fun s =>
        pure (some (0, correctTmds (updateYCbCr420CapabilityVIC s)))

end AwHal.Edid

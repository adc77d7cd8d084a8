import Mathlib.Data.List.Pairwise
import Mathlib.Data.List.DropRight
import AwHal.Lib.CNumber
import AwHal.Lib.CText
import AwHal.Lib.Chain

/-!
# The table of wireless modules

`libhwinfo` knows the modules of `wifi_list` and those that a configuration file describes.
`load_merged_config` makes a linked list of both and takes out the entries that a later one replaces;
`get_hardware_info_by_device_id` looks a module up.

The host has 64-bit pointers and an `unsigned long` of 64 bits, and `malloc` does not fail.  A result
`none` stands for an access outside an object, or a walk that does not end.
-/

namespace AwHal.Wireless

open AwHal.Lib

/-! ## Entries -/

structure WifiHardwareInfo where
  bus_type : Nat
  device_id : Nat
  module_name : Option (List Char)
  driver_name : Option (List Char)
  driver_module_name : Option (List Char)
  vendor_name : Option (List Char)
  bt_support : Int
deriving DecidableEq, Repr

def WifiHardwareInfo.zero : WifiHardwareInfo where
  bus_type := 0
  device_id := 0
  module_name := none
  driver_name := none
  driver_module_name := none
  vendor_name := none
  bt_support := 0

def wifi (bus_type device_id : Nat)
    (module_name driver_name driver_module_name vendor_name : String) (bt_support : Int) :
    WifiHardwareInfo where
  bus_type
  device_id
  module_name := some module_name.toList
  driver_name := some driver_name.toList
  driver_module_name := some driver_module_name.toList
  vendor_name := some vendor_name.toList
  bt_support

/-- The built-in entries, with or without `WIFI_USE_RTL8723BS_VQ0`. -/
def wifi_list (WIFI_USE_RTL8723BS_VQ0 : Bool) : List WifiHardwareInfo :=
  [ wifi 0x1 0x024c8179 "rtl8189es" "8189es" "8189es" "realtek" 0,
    if WIFI_USE_RTL8723BS_VQ0 then
      wifi 0x1 0x024cb723 "rtl8723bs_vq0" "8723bs-vq0" "8723bs_vq0" "realtek" 1
    else wifi 0x1 0x024cb723 "rtl8723bs" "8723bs" "8723bs" "realtek" 1,
    wifi 0x1 0x024cb703 "rtl8723cs" "8723cs" "8723cs" "realtek" 1,
    wifi 0x1 0x024cd723 "rtl8723ds" "8723ds" "8723ds" "realtek" 1,
    wifi 0x1 0x024cf179 "rtl8189fs" "8189fs" "8189fs" "realtek" 0,
    wifi 0x1 0x024cb822 "rtl88x2bs" "88x2bs" "88x2bs" "realtek" 1,
    wifi 0x0 0x0bdad723 "rtl8723du" "8723du" "8723du" "realtek" 1,
    wifi 0x0 0x0bda8179 "rtl8188etv" "8188eu" "8188eu" "realtek" 0,
    wifi 0x0 0x0bda0179 "rtl8188eu" "8188eu" "8188eu" "realtek" 0,
    wifi 0x0 0x0bda818b "rtl8192eu" "8192eu" "8192eu" "realtek" 0,
    wifi 0x0 0x0bdab720 "rtl8723bu" "8723bu" "8723bu" "realtek" 1,
    wifi 0x0 0x0bdac82c "rtl8822cu" "88x2cu" "88x2cu" "realtek" 1,
    wifi 0x0 0x0bdaf179 "rtl8188fu" "8188fu" "8188fu" "realtek" 0,
    wifi 0x1 0x02d0a9a6 "ap6212" "bcmdhd" "bcmdhd" "broadcom" 1,
    wifi 0x1 0x02d04330 "ap6330" "bcmdhd" "bcmdhd" "broadcom" 1,
    wifi 0x1 0x02d04356 "ap6356s" "bcmdhd" "bcmdhd" "broadcom" 1,
    wifi 0x1 0x02d0a9bf "ap6255" "bcmdhd" "bcmdhd" "broadcom" 1,
    wifi 0x1 0x00202281 "xr819" "xr819" "xr819" "xradio" 0,
    wifi 0x1 0x0a9e2282 "xr829" "xr829" "xr829" "xradio" 1,
    wifi 0x1 0x0271050a "qca6174a" "qualcomm" "qualcomm" "atheros" 0,
    wifi 0x1 0x30303030 "ssv6x5x" "ssv6x5x" "ssv6x5x" "ssv" 0,
    wifi 0x1 0x00000000 "uwe5622" "sprdwl_ng" "sprdwl_ng" "sprd" 1,
    wifi 0x1 0x54490145 "aic8800" "aic8800_fdrv" "aic8800_fdrv" "aic" 1,
    wifi 0x1 0xc8a1c08d "aic8800" "aic8800_fdrv" "aic8800_fdrv" "aic" 1,
    wifi 0x0 0xa69c8800 "aic8800" "aic8800_fdrv" "aic8800_fdrv" "aic" 1,
    wifi 0x0 0x007a8888 "atbm6023is" "atbm602x_wifi_usb" "atbm602x_wifi_usb" "atbm" 0 ]

inductive MatchNode where
  | busType
  | deviceId
  | moduleName
  | driverName
  | driverModuleName
  | vendorName
  | btSupport
deriving DecidableEq, Repr

def MatchNode.keyname : MatchNode → List Char
  | .busType => "bus_type".toList
  | .deviceId => "device_id".toList
  | .moduleName => "module_name".toList
  | .driverName => "driver_name".toList
  | .driverModuleName => "driver_module_name".toList
  | .vendorName => "vendor_name".toList
  | .btSupport => "bt_support".toList

def matchtab : List MatchNode :=
  [.busType, .deviceId, .moduleName, .driverName, .driverModuleName, .vendorName, .btSupport]

/-- The value is a number for `TYPE_ULONG` and `TYPE_SINT`, and a copy of the text for `TYPE_PCHAR`. -/
def MatchNode.set (conf : List Char) (info : WifiHardwareInfo) : MatchNode → WifiHardwareInfo
  | .busType => { info with bus_type := strtoul0 conf }
  | .deviceId => { info with device_id := strtoul0 conf }
  | .moduleName => { info with module_name := some conf }
  | .driverName => { info with driver_name := some conf }
  | .driverModuleName => { info with driver_module_name := some conf }
  | .vendorName => { info with vendor_name := some conf }
  | .btSupport => { info with bt_support := wrapInt (strtoul0 conf) }

/-! ## The lines of a file -/

def LINE_MAX : Nat := 1024

def CONFIG_SESSION_KEY : List Char := "[module]".toList

def CONF_SIZE : Nat := 256

def readLine : Nat → List Char → List Char × List Char
  | 0, text => ([], text)
  | _ + 1, [] => ([], [])
  | n + 1, ch :: text =>
      if ch = '\n' then ([ch], text)
      else
        let (line, rest) := readLine n text
        (ch :: line, rest)

/-- What `fgets` puts in `buf`, call after call.  The string ends at a zero byte. -/
def readLines : Nat → List Char → List (List Char)
  | 0, _ => []
  | _ + 1, [] => []
  | fuel + 1, text =>
      let (line, rest) := readLine (LINE_MAX - 1) text
      line.takeWhile (· != '\x00') :: readLines fuel rest

def lines (text : List Char) : List (List Char) := readLines text.length text

def skipSpaces (text : List Char) : List Char := text.dropWhile (· == ' ')

def afterKey (str key : List Char) : Option (List Char) :=
  let p := skipSpaces str
  if p.head? = some '#' then none
  else if key <+: p then some (skipSpaces (p.drop key.length))
  else none

def search_key (str key : List Char) : Bool :=
  match afterKey str key with
  | none => false
  | some p => p = [] || p.head? = some '\r' || p.head? = some '\n'

/-- Where the text of the value ends, from the start of the line: spaces at the end, a quotation mark
and line ends are left out, in this order. -/
def valueEnd (str : List Char) : Nat :=
  let p := str.rdropWhile (· == ' ')
  let p := if p.getLast? = some '"' then p.dropLast else p
  (p.rdropWhile fun ch => ch == '\r' || ch == '\n').length

/-- The value of a line for `key`, as copied into `val`; within it, `none` when `strncpy` runs with a
negative length or the text does not fit. -/
def search_key_val (str key : List Char) : Option (Option (List Char)) :=
  match afterKey str key with
  | some ('=' :: p) =>
      let p := skipSpaces p
      let dst := if p.head? = some '"' then p.drop 1 else p
      let start := str.length - dst.length
      if valueEnd str < start ∨ CONF_SIZE ≤ valueEnd str - start then some none
      else some (some ((str.take (valueEnd str)).drop start))
  | _ => none

inductive Line where
  | session
  | setting (node : MatchNode) (conf : Option (List Char))
  | other
deriving DecidableEq, Repr

def parseLine (buf : List Char) : Line :=
  if search_key buf CONFIG_SESSION_KEY then .session
  else
    match matchtab.findSome? fun node => (search_key_val buf node.keyname).map (node, ·) with
    | some (node, conf) => .setting node conf
    | none => .other

/-! ## Loading and merging -/

abbrev Table := Heap WifiHardwareInfo × Option Nat

def load_config_from_local (list : List WifiHardwareInfo) (table : Table) : Option Table :=
  list.foldlM (fun table p => table.1.pushBack p table.2) table

/-- The list read so far and its last entry, `cur`. -/
def loadLine (table : Table × Option Nat) (line : Line) : Option (Table × Option Nat) :=
  match line with
  | .session => do
      let new ← table.1.1.pushBack .zero table.1.2
      some (new, some table.1.1.fresh)
  | .setting node conf => do
      let conf ← conf
      let cur ← table.2
      let heap ← table.1.1.setItem cur fun info => node.set conf info
      some ((heap, table.1.2), table.2)
  | .other => some table

def load_config_from_file (heap : Heap WifiHardwareInfo) (file : Option (List Char)) :
    Option Table :=
  match file with
  | none => some (heap, none)
  | some text => do
      let table ← ((lines text).map parseLine).foldlM loadLine ((heap, none), none)
      some table.1

structure Cursors where
  heap : Heap WifiHardwareInfo
  head : Option Nat
  p1 : Option Nat
  h1 : Option Nat
  h2 : Option Nat

/-- Takes `h2` out of the list, where the list goes on at `p1`. -/
def deleteNode (c : Cursors) (p1 : Option Nat) : Option Cursors := do
  let c ←
    if c.h2 = c.head then some { c with h1 := p1, head := p1 }
    else do
      let heap ← c.heap.setNext (← c.h1) p1
      some { c with heap }
  let heap ← c.heap.free (← c.h2)
  some { c with heap, p1, h2 := p1 }

def mergeLoop : Nat → Cursors → Option Table
  | 0, _ => none
  | fuel + 1, c =>
      match c.p1 with
      | none => some (c.heap, c.head)
      | some a => do
          let n ← c.heap.node a
          if n.next = none then some (c.heap, c.head)
          else
            let p2 ← c.heap.search (fun info => n.item.device_id == info.device_id) c.heap.fresh
              n.next
            if p2.isSome then do
              let c ← deleteNode c n.next
              mergeLoop fuel c
            else mergeLoop fuel { c with p1 := n.next, h1 := c.h2, h2 := n.next }

def joinLists (heap : Heap WifiHardwareInfo) (h1 h2 : Option Nat) : Option Table :=
  match h1 with
  | none => some (heap, h2)
  | some head => do
      let p1 ← heap.last heap.fresh head
      let heap ← heap.setNext p1 h2
      some (heap, some head)

def mergeLists (heap : Heap WifiHardwareInfo) (head : Option Nat) : Option Table :=
  mergeLoop (heap.fresh + 1)
    { heap
      head
      p1 := head
      h1 := head
      h2 := head }

def load_merged_config (WIFI_USE_RTL8723BS_VQ0 : Bool) (file : Option (List Char)) :
    Option Table := do
  let (heap, h1) ← load_config_from_local (wifi_list WIFI_USE_RTL8723BS_VQ0) (Heap.empty, none)
  let (heap, h2) ← load_config_from_file heap file
  let (heap, head) ← joinLists heap h1 h2
  mergeLists heap head

def get_hardware_info_by_device_id (table : Table) (bus_type device_id : Nat) :
    Option (Option WifiHardwareInfo) := do
  let cur ← table.1.search
    (fun info => info.bus_type == bus_type && info.device_id == device_id) table.1.fresh table.2
  match cur with
  | none => some none
  | some a => (table.1.node a).map fun n => some n.item

end AwHal.Wireless

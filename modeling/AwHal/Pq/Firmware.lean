import AwHal.Lib.ByteMemory
import AwHal.Lib.CNumber
import AwHal.Lib.Loop

/-!
# The firmware data file of the PQ daemon

The settings that a client saves are kept as text, one section `[id,de]{v,v,…}` for each setting and
display, behind a line `#DE<version>`.  `save_cfg_firmware` turns a package into the text of a section
and `xchang_data` puts it into the file; `download_firmware` reads the file at the next start and
programs each section it finds.  Both walk through the file in mapped pieces.
-/

namespace AwHal.Pq

open AwHal.Lib

/-- A bad address is accessed: the process is killed. -/
inductive Fault where
  | badAddress
deriving DecidableEq, Repr

/-! ## The C library -/

def toByte (x : Int) : UInt8 := UInt8.ofInt x

def isDigit (c : UInt8) : Bool := '0'.toUInt8 ≤ c && c ≤ '9'.toUInt8

def isBlank (c : UInt8) : Bool := c == ' '.toUInt8 || (9 ≤ c && c ≤ 13)

def digitsValue (text : List UInt8) : Int :=
  (text.takeWhile isDigit).foldl (fun n c => 10 * n + ((c.toNat : Int) - 48)) 0

/-- `atoi` is `strtol`, which clamps, converted to `int`. -/
def atoi (text : List UInt8) : Int :=
  let value :=
    match text.dropWhile isBlank with
    | [] => 0
    | c :: rest =>
        if c = '-'.toUInt8 then -digitsValue rest
        else if c = '+'.toUInt8 then digitsValue rest
        else digitsValue (c :: rest)
  wrapInt (max (-2 ^ 63) (min (2 ^ 63 - 1) value))

def strstr (pattern : List UInt8) : List UInt8 → Option (List UInt8)
  | [] => none
  | c :: rest =>
      if pattern.isPrefixOf (c :: rest) then some (c :: rest)
      else if c = 0 then none
      else strstr pattern rest

/-- A read-only mapping of `size` bytes of a file: the bytes that can be read, which are those of
whole pages, with zeros behind the end of the file.  `mmap` fails for an offset inside a page. -/
def mapFile (file : List UInt8) (file_off size : Int) : Option (List UInt8) :=
  if 0 ≤ file_off ∧ file_off % 4096 = 0 ∧ 0 < size then
    let rest := file.drop file_off.toNat
    let padding := List.replicate ((4096 - rest.length % 4096) % 4096) 0
    some ((rest ++ padding).take ((size.toNat + 4095) / 4096 * 4096))
  else none

def writeAt (file : List UInt8) (pos : Nat) (bytes : List UInt8) : List UInt8 :=
  file.take pos ++ List.replicate (pos - file.length) 0 ++ bytes ++ file.drop (pos + bytes.length)

def ftruncate (file : List UInt8) (size : Nat) : List UInt8 :=
  file.take size ++ List.replicate (size - file.length) 0

/-! ## Text of a section -/

/-- The digits that the loop of `data_to_firm` leaves in `d`, which has room for `room` more. -/
def valueDigits : Nat → Int → List Int
  | 0, _ => []
  | room + 1, value =>
      if value.tdiv 10 = 0 then [] else (value.tmod 10 + 48) :: valueDigits room (value.tdiv 10)

/-- What is written for `value`: `d` from its last entry down, and `d[0]` if the loop left none. -/
def valueText (value : Int) : List UInt8 :=
  let d := valueDigits 20 value
  (if d = [] then [value.tmod 10 + 48] else d).reverse.map toByte

/-- The buffer afterwards and the index of the next free place, which stays the same on failure. -/
def data_to_firm (firm : Option Memory) (length next value : Int) : Option Memory × Int :=
  match firm with
  | none => (none, 0)
  | some firm =>
      if length ≤ next then (some firm, next)
      else
        let opened := if next = 0 then firm.store 0 ['{'.toUInt8] else firm
        let start := if next = 0 then next + 1 else next
        let text := (valueText value).take (length - start).toNat
        let written := opened.store start.toNat text
        let stop := start + text.length
        if length ≤ stop then (some written, next)
        else (some (written.store stop.toNat [','.toUInt8]), stop + 1)

/-- A package that is to be saved: its size, the id of the setting and the values from the first one
that is saved on (`value` of a `gamma_lut`, `gain` of a `peak_sharp`).  `char` is unsigned. -/
structure SaveData where
  size : Int
  id : Int
  values : List UInt8
deriving DecidableEq, Repr

/-- One pass of a loop of `updata_firm_spec` over `count` values.  Nothing changes `i`. -/
def updataPass (data : SaveData) (count : Nat) (length : Int) :
    Nat × Option Memory × Int → Except Fault (Next (Nat × Option Memory × Int) (Option Memory × Int))
  | (i, buf, next) =>
      if i < count then
        let rret := next
        let (buf, next) := data_to_firm buf length next (data.values.getD i 0).toNat
        if rret = next then .ok (.done (buf, -1)) else .ok (.again (i, buf, next))
      else .ok (.done (buf, next))

def updata_firm_spec (fuel : Nat) (buf : Option Memory) (length : Int) (data : SaveData) :
    Except Fault (Option (Option Memory × Int)) :=
  if data.id = 11 then loop (updataPass data (256 * 3) length) fuel (0, buf, 0)
  else if data.id = 12 then loop (updataPass data 8 length) fuel (0, buf, 0)
  else .ok (some (buf, 0))

/-- The text and its length; no text if `updata_firm_spec` fails.  `mallocs` says whether `malloc`
has memory. -/
def updata_firm_generic (fuel : Nat) (mallocs : Bool) (data : SaveData) :
    Except Fault (Option (Option Memory × Int)) :=
  let buf := if mallocs then some Memory.zero else none
  if 1 ≤ data.id ∧ data.id ≤ 5 then .ok (some (buf, -1))
  else
    match updata_firm_spec fuel buf (wrapInt (data.size * 4 + 10)) data with
    | .error e => .error e
    | .ok none => .ok none
    | .ok (some (buf, ret)) => .ok (some (if ret < 0 then none else buf, ret))

/-! ## Walking through the file -/

def ALLIGN (x y : Int) : Int := (x + y).tdiv y * y

inductive Mark where
  | beginFang
  | endFang
  | beginDa
  | endDa
deriving DecidableEq, Repr

def Mark.find : Mark → UInt8
  | .beginFang => '['.toUInt8
  | .endFang => ']'.toUInt8
  | .beginDa => '\x7b'.toUInt8
  | .endDa => '\x7d'.toUInt8

inductive Label where
  | whileHead
  | remap
  | find_str
deriving DecidableEq, Repr

def search (find : UInt8) (size : Int) : List UInt8 → Nat → Except Fault (Option Nat)
  | [], _ => .error .badAddress
  | c :: rest, i =>
      if c = find then .ok (some i)
      else if ((i + 1 : Nat) : Int) = size then .ok none
      else search find size rest (i + 1)

def skipBelow : List UInt8 → Nat → Except Fault Nat
  | [], _ => .error .badAddress
  | c :: rest, i => if c < '0'.toUInt8 then skipBelow rest (i + 1) else .ok (i + 1)

/-- The number behind index `i`, with the index behind its first digit; `none` if there is no
number.  `atoi` reads the character behind the digits as well. -/
def numberAt (t_buff : List UInt8) (i : Nat) : Except Fault (Option (Nat × Int)) :=
  match skipBelow (t_buff.drop i) i with
  | .error e => .error e
  | .ok i =>
      match t_buff[i - 1]? with
      | none => .error .badAddress
      | some c =>
          if '9'.toUInt8 < c then .ok none
          else if (t_buff.drop (i - 1)).dropWhile isDigit = [] then .error .badAddress
          else .ok (some (i, atoi (t_buff.drop (i - 1))))

/-- The loop that reads the rest of `[id,de]` in at most `passes` passes: the index behind it, unless
there is no number where one should be, and the display. -/
def readDe (t_buff : List UInt8) (size : Int) : Nat → Nat → Int → Except Fault (Option Nat × Int)
  | 0, i, de => .ok (some i, de)
  | passes + 1, i, de =>
      if size ≤ i then .ok (some i, de)
      else
        match t_buff[i]? with
        | none => .error .badAddress
        | some c =>
            let number := if c = ','.toUInt8 then numberAt t_buff i else .ok (some (i, de))
            match number with
            | .error e => .error e
            | .ok none => .ok (none, de)
            | .ok (some (i, de)) =>
                match t_buff[i]? with
                | none => .error .badAddress
                | some c =>
                    if c = ']'.toUInt8 then .ok (some (i + 1), de)
                    else readDe t_buff size passes (i + 1) de

/-! ## Putting a section into the file -/

structure Writer where
  label : Label := .whileHead
  next : Mark := .beginFang
  off_set : Nat := 0
  file_off : Int := 0
  de_need : Int := 0
  i : Nat := 0
  begin_id : Int := 0
  find_off : Int := 0
  size : Int := 0
  find_size : Int := 0
  t_buff : List UInt8 := []

/-- One piece of `xchang_data` between two labels.  The loop is left with the state it has, or with
nothing if the function returns. -/
def Writer.pass (file : List UInt8) (f_id de : Int) (s : Writer) :
    Except Fault (Next Writer (Option Writer)) :=
  let off_end : Int := file.length
  match s.label with
  | .whileHead =>
      if s.file_off < off_end - 1 ∧ s.find_size = 0 then
        let size := off_end - s.file_off
        .ok (.again { s with
          label := .remap
          next := .beginFang
          de_need := 0
          off_set := 0
          size := if 4096 < size then 1 else size })
      else .ok (.done (some s))
  | .remap =>
      let file_off := s.file_off + s.off_set
      let size := ALLIGN (s.size - s.off_set + 4096) 4096
      let size := if off_end ≤ file_off + size then off_end - file_off else size
      match mapFile file file_off size with
      | none => .ok (.done none)
      | some t_buff =>
          .ok (.again { s with
            label := .find_str
            i := 0
            begin_id := 0
            file_off := file_off
            size := size
            t_buff := t_buff })
  | .find_str =>
      match search s.next.find s.size (s.t_buff.drop s.i) s.i with
      | .error e => .error e
      | .ok none => .ok (.again { s with label := .remap, off_set := s.i })
      | .ok (some i) =>
          let s := { s with off_set := i, i := i }
          match s.next with
          | .beginFang =>
              let s := { s with find_off := s.off_set + s.file_off }
              match numberAt s.t_buff (i + 1) with
              | .error e => .error e
              | .ok none => .ok (.again { s with label := .remap })
              | .ok (some (i, id)) =>
                  if id ≠ f_id then .ok (.again { s with i := i })
                  else
                    match readDe s.t_buff s.size s.size.toNat (i - 1) s.de_need with
                    | .error e => .error e
                    | .ok (none, de_need) =>
                        .ok (.again { s with label := .remap, de_need := de_need })
                    | .ok (some i, de_need) =>
                        let s := { s with i := i, de_need := de_need }
                        if de_need ≠ de then .ok (.again s)
                        else if s.size ≤ (i : Int) then .ok (.again { s with label := .remap })
                        else .ok (.again { s with next := .beginDa })
          | .beginDa => .ok (.again { s with begin_id := i, next := .endDa })
          | .endDa =>
              let s := { s with find_size := i - s.begin_id }
              -- the mapping cannot be written to
              if (i : Int) < s.size - 1 ∧ s.t_buff[i + 1]? ≠ some '['.toUInt8 then
                .error .badAddress
              else
                .ok (.again { s with label := .whileHead, begin_id := s.begin_id + s.file_off })
          | .endFang =>
              .ok (.again { s with label := .whileHead, begin_id := s.begin_id + s.file_off })

/-- The loop that moves what stands behind a section to the front: the offset that is read, the size
of a piece, the position that is written and the file. -/
def movePass (off_end file_off : Int) :
    Int × Int × Nat × List UInt8 →
      Except Fault (Next (Int × Int × Nat × List UInt8) (Int × Nat × List UInt8))
  | (cpy_off, size, pos, file) =>
      if cpy_off < off_end - 1 then
        let size := if off_end - file_off < size then off_end - file_off else size
        match mapFile file cpy_off size with
        | none => .error .badAddress
        | some t_buff =>
            if (t_buff.length : Int) < size then .error .badAddress
            else
              let bytes := t_buff.take size.toNat
              .ok (.again (cpy_off + size, size, pos + bytes.length, writeAt file pos bytes))
      else .ok (.done (size, pos, file))

def decimalDigits : Nat → Int → List Int
  | 0, _ => []
  | room + 1, value => if value = 0 then [] else value.tmod 10 :: decimalDigits room (value.tdiv 10)

def decimalText (value : Int) : List UInt8 :=
  (decimalDigits 20 value).reverse.map fun d => toByte (d + 48)

def sectionHead (f_id de : Int) : List UInt8 :=
  '['.toUInt8 :: decimalText f_id ++ [','.toUInt8, toByte (48 + de), ']'.toUInt8]

def Writer.finish (fuel : Nat) (file : List UInt8) (buff : List UInt8) (f_id de : Int)
    (s : Writer) : Except Fault (Option (List UInt8)) :=
  let off_end : Int := file.length
  let length : Int := buff.length
  -- the size, the position and the file, whether the head is left out, and the length
  let placed : Except Fault (Option ((Int × Nat × List UInt8) × Bool × Int)) :=
    if s.find_size ≠ 0 ∧ length ≠ 0 then
      if off_end ≤ s.find_size + s.find_off + 5 ∨ s.find_size = length then
        .ok (some ((s.size, s.begin_id.toNat, file), decide (s.find_size ≠ length),
          if s.find_size = length then length - 1 else length))
      else
        match loop (movePass off_end s.file_off) fuel
            (s.file_off + s.find_size, 4096, s.find_off.toNat, file) with
        | .error e => .error e
        | .ok none => .ok none
        | .ok (some moved) => .ok (some (moved, false, length))
    else .ok (some ((s.size, file.length, file), false, length))
  match placed with
  | .error e => .error e
  | .ok none => .ok none
  | .ok (some ((size, pos, file), headless, length)) =>
      let head := if headless then [] else sectionHead f_id de
      let file := writeAt file pos (head ++ buff.take length.toNat)
      .ok (some (if length - 1 < s.find_size then ftruncate file size.toNat else file))

def xchang_data (fuel : Nat) (file buff : List UInt8) (f_id de : Int) :
    Except Fault (Option (List UInt8)) :=
  match loop (Writer.pass file f_id de) fuel {} with
  | .error e => .error e
  | .ok none => .ok none
  | .ok (some none) => .ok (some file)
  | .ok (some (some s)) => s.finish fuel file buff f_id de

/-- The file after a save for display `de`. -/
def save_cfg_firmware (fuel : Nat) (mallocs : Bool) (de : Int) (data : SaveData)
    (file : List UInt8) : Except Fault (Option (List UInt8)) :=
  match updata_firm_generic fuel mallocs data with
  | .error e => .error e
  | .ok none => .ok none
  | .ok (some (none, _)) => .ok (some file)
  | .ok (some (some buf, length)) =>
      if length < 1 then .error .badAddress
      else
        let text := buf.load 0 (length.toNat - 1) ++ ['\x7d'.toUInt8, 13]
        xchang_data fuel file text data.id de

/-! ## Reading the file -/

/-- A section that `download_firmware` finds: `download_firmware_generic` gets the mapping from the
opening brace on. -/
structure FirmSection where
  id : Int
  de : Int
  buffer : List UInt8
deriving DecidableEq, Repr

/-- The numbers between the braces.  Fewer than needed are refused. -/
def trans_firm_data (buf : List UInt8) (need : Int) : Option (List Int) :=
  let text := buf.takeWhile (· ≠ '\x7d'.toUInt8)
  let starts := 1 :: ((text.zipIdx.filter fun c => c.1 = ','.toUInt8).map fun c => c.2 + 1)
  if 0 < need ∧ (starts.length : Int) < need then none
  else some (starts.map fun start => atoi (buf.drop start))

/-- The values that `download_firmware_spec` programs for a section of a gamma table or of peaking
settings. -/
def FirmSection.programmed (s : FirmSection) : Option (List UInt8) :=
  match trans_firm_data s.buffer 0 with
  | none => none
  | some data =>
      if s.id = 11 then some (data.map toByte)
      else if s.id = 12 ∧ data.length = 8 then some (data.map toByte)
      else none

structure Reader where
  label : Label := .whileHead
  next : Mark := .beginFang
  off_set : Nat := 0
  file_off : Int := 0
  id : Int := 0
  de : Int := 0
  i : Nat := 0
  go_end : Nat := 0
  begin_id : Nat := 0
  size : Int := 0
  t_buff : List UInt8 := []
  -- the calls of `download_firmware_generic`, in order
  sections : List FirmSection := []

/-- One piece of `download_firmware` between two labels: it returns with a result and the sections
that were programmed. -/
def Reader.pass (file : List UInt8) (s : Reader) :
    Except Fault (Next Reader (Int × List FirmSection)) :=
  let off_end : Int := file.length
  match s.label with
  | .whileHead =>
      if s.file_off < off_end - 2 then
        let size := off_end - s.file_off
        .ok (.again { s with
          label := .remap
          id := -1
          next := .beginFang
          de := 0
          off_set := 0
          size := if 4096 < size then 1 else size })
      else .ok (.done (0, s.sections))
  | .remap =>
      let file_off := s.file_off + s.off_set
      let size := ALLIGN (s.size - s.off_set + 4096) 4096
      let atEnd : Bool := off_end ≤ file_off + size
      let size := if atEnd then off_end - file_off else size
      let go_end := if atEnd then s.go_end + 1 else s.go_end
      if 2 ≤ go_end then .ok (.done (0, s.sections))
      else
        match mapFile file file_off size with
        | none => .ok (.done (-1, s.sections))
        | some t_buff =>
            .ok (.again { s with
              label := .find_str
              i := 0
              begin_id := 0
              file_off := file_off
              size := size
              go_end := go_end
              t_buff := t_buff })
  | .find_str =>
      match search s.next.find s.size (s.t_buff.drop s.i) s.i with
      | .error e => .error e
      | .ok none => .ok (.again { s with label := .remap, off_set := s.i })
      | .ok (some i) =>
          let s := { s with off_set := i, i := i }
          match s.next with
          | .beginFang =>
              match numberAt s.t_buff (i + 1) with
              | .error e => .error e
              | .ok none => .ok (.again { s with label := .remap })
              | .ok (some (i, id)) =>
                  match readDe s.t_buff s.size s.size.toNat (i - 1) s.de with
                  | .error e => .error e
                  | .ok (none, de) => .ok (.again { s with label := .remap, id := id, de := de })
                  | .ok (some i, de) =>
                      let s := { s with i := i, id := id, de := de }
                      if s.size ≤ (i : Int) then .ok (.again { s with label := .remap })
                      else .ok (.again { s with next := .beginDa })
          | .beginDa => .ok (.again { s with begin_id := i, next := .endDa })
          | mark =>
              let found := [⟨s.id, s.de, s.t_buff.drop s.begin_id⟩]
              let s := { s with
                sections := if mark = .endDa then s.sections ++ found else s.sections
                next := .beginFang }
              if 10 < s.size - (i : Int) then .ok (.again s)
              else .ok (.again { s with label := .whileHead, file_off := s.file_off + i })

/-- `stack` is what stands on the stack where `head` is. -/
def download_firmware (fuel : Nat) (de_version : Int) (stack file : List UInt8) :
    Except Fault (Option (Int × List FirmSection)) :=
  if file = [] then .ok (some (-1, []))
  else
    let head := file.take 20 ++ stack.drop (min 20 file.length)
    match strstr ['#'.toUInt8, 'D'.toUInt8, 'E'.toUInt8] head with
    | none => .error .badAddress
    | some t_buff =>
        if atoi (t_buff.drop 3) ≠ de_version then .ok (some (-1, []))
        else loop (Reader.pass file) fuel {}

end AwHal.Pq

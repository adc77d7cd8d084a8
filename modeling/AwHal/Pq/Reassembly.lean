import AwHal.Lib.ByteMemory
import AwHal.Lib.CNumber
import AwHal.Lib.GuardedRun

/-!
# Reassembling packages in `connect_thread`

`connect_thread` receives up to `EVENT_MSG_LEN` bytes at a time and takes the packages out of them.
A package that is not complete is continued with the next bytes: a part of its head is kept in
`tempackage`, and a part of its body in the `trans_data` that is allocated for it.
-/

namespace AwHal.Pq

open AwHal.Lib

def EVENT_MSG_LEN : Nat := 4096

def headSize : Nat := 10

/-- The values of `errno` that the result of `recv` is compared with. -/
def EINTR : Nat := 4

def EAGAIN : Nat := 11

/-- A byte of allocated memory; `none` if it has not been written. -/
abbrev Byte : Type := Option UInt8

def AWPQ : List Byte := ['A', 'W', 'P', 'Q'].map fun c => some c.toUInt8

/-- The field `size` of a package, if all of its bytes have been written. -/
def sizeField (package : List Byte) : Option Int :=
  match (package.drop 6).take 4 with
  | [some a, some b, some c, some d] => some (wrapInt (leValue [a, b, c, d]))
  | _ => none

/-- What `tmp_head` points to. -/
inductive TmpHead where
  | null
  | tempackage
  | package
deriving DecidableEq, Repr

/-- Where the thread is: at `epoll_wait`, at `receiv` with an event under way, or at `many_head`. -/
inductive ConnectLabel where
  | wait_event
  | receiv
  | many_head
deriving DecidableEq, Repr

inductive ConnectFault where
  /-- a copy outside the buffers -/
  | outOfBounds
  /-- `trans_da` is `NULL` -/
  | nullTransData
  /-- the size of the package is read from memory that has not been written -/
  | uninitialised
deriving DecidableEq, Repr

structure Connect where
  label : ConnectLabel := .wait_event
  recv_buf : Memory := Memory.zero
  rev_cnt : Nat := 0
  recvlen : Int := 0
  tmp_head : TmpHead := .null
  tail : Nat := 0
  tempackage : List Byte := List.replicate headSize (some 0)
  -- `data` of the `trans_data` in which a package is kept whose body is not complete
  trans_da : List Byte := []
  -- the packages that were given to `send_to_translate`
  sent : List (List Byte) := []

namespace Connect

def copyFrom (s : Connect) (off : Nat) (n : Int) : Except ConnectFault (List Byte) :=
  if n < 0 ∨ (EVENT_MSG_LEN : Int) < off + n then .error .outOfBounds
  else .ok ((s.recv_buf.load off n.toNat).map some)

/-- What `recv` returns: some bytes, or an error or the end of the connection. -/
inductive Recv where
  | bytes (chunk : List UInt8)
  | fails
deriving DecidableEq, Repr

/-- `recv`, and what is done before `many_head`.  Nothing is received while a chunk is dealt with. -/
def receive (s : Connect) (r : Recv) : Connect :=
  -- an event begins with `tmp_head = NULL` and `tail = 0`
  let s := if s.label = .wait_event then { s with tmp_head := .null, tail := 0 } else s
  if s.label = .many_head then s
  else
    match r with
    | .fails => { s with label := .wait_event }
    | .bytes chunk =>
        let s := { s with
          recv_buf := s.recv_buf.store 0 chunk
          rev_cnt := 0
          recvlen := chunk.length }
        if chunk.length = EINTR ∨ chunk.length = EAGAIN then { s with label := .receiv }
        else { s with label := .many_head }

def deal_data (s : Connect) (package : List Byte) : Connect :=
  if 0 < s.recvlen ∧ s.recvlen < headSize then
    let n := s.recvlen.toNat
    -- the bytes of the package are copied, not those that follow it
    { s with
      tempackage := package.take n ++ s.tempackage.drop n
      tmp_head := .tempackage
      tail := n
      label := .receiv }
  else
    { s with
      sent := s.sent ++ [package]
      tmp_head := if 0 < s.recvlen then .null else s.tmp_head
      label := if 0 < s.recvlen then .many_head else .wait_event }

/-- The package that answers one without the magic.  Its type and its data are not written. -/
def badPackage : List Byte :=
  AWPQ ++ [some 255, none] ++ [some 18, some 0, some 0, some 0] ++ List.replicate 8 none

/-- A head with the magic: the package is allocated and copied, as far as it is there. -/
def passHead (s : Connect) (ok : Bool) (size : Int) : Except ConnectFault Connect :=
  if ¬ ok then .ok { s with label := .wait_event }
  else if size ≤ s.recvlen then
    match s.copyFrom s.rev_cnt size with
    | .error e => .error e
    | .ok package =>
        -- the size is read again, from the copy
        match sizeField package with
        | none => .error .uninitialised
        | some size =>
            .ok (deal_data { s with
              tmp_head := .package
              recvlen := s.recvlen - size
              rev_cnt := s.rev_cnt + size.toNat } package)
  else
    match s.copyFrom s.rev_cnt s.recvlen with
    | .error e => .error e
    | .ok part =>
        .ok { s with
          tmp_head := .package
          trans_da := part ++ List.replicate (size.toNat - part.length) none
          tail := s.recvlen.toNat
          recvlen := 0
          label := .receiv }

/-- The pass with `tmp_head == NULL`.  `ok` says whether `malloc` has memory. -/
def passNull (s : Connect) (ok : Bool) : Except ConnectFault Connect :=
  if (headSize : Int) ≤ s.recvlen then
    match s.copyFrom s.rev_cnt headSize with
    | .error e => .error e
    | .ok head =>
        if head.take 4 ≠ AWPQ then
          if ok then
            .ok { s with
              sent := s.sent ++ [badPackage]
              tmp_head := .null
              recvlen := 0
              label := .wait_event }
          else .error .nullTransData
        else
          match sizeField head with
          | none => .error .uninitialised
          | some size => s.passHead ok size
  else
    match s.copyFrom s.rev_cnt s.recvlen with
    | .error e => .error e
    | .ok part => if 0 < s.recvlen then .ok (s.deal_data part) else .error .nullTransData

def passJoined (s : Connect) (tempackage : List Byte) (size : Int) : Except ConnectFault Connect :=
  let rev_cnt := s.rev_cnt + (headSize - s.tail)
  let recvlen := s.recvlen - (headSize - s.tail)
  -- the comparison is one of `size_t`, and less than nothing is more than any size
  let n := if recvlen < 0 ∨ size - headSize ≤ recvlen then size - headSize else recvlen
  match s.copyFrom rev_cnt n with
  | .error e => .error e
  | .ok body =>
      .ok (deal_data { s with
        tempackage := tempackage
        tmp_head := .package
        rev_cnt := rev_cnt + n.toNat
        recvlen := recvlen - n }
        (tempackage ++ body ++ List.replicate (size.toNat - headSize - body.length) none))

def passTempackage (s : Connect) (ok : Bool) : Except ConnectFault Connect :=
  match s.copyFrom 0 (headSize - s.tail) with
  | .error e => .error e
  | .ok part =>
      let tempackage := s.tempackage.take s.tail ++ part
      match sizeField tempackage with
      | none => .error .uninitialised
      | some size =>
          if ¬ ok then .error .nullTransData
          else if size < headSize then .error .outOfBounds
          else s.passJoined tempackage size

/-- The pass with `tmp_head` at a package whose body is not complete.  Its bytes would be written
behind the end of the `trans_data`. -/
def passPackage (s : Connect) : Except ConnectFault Connect :=
  match sizeField s.trans_da with
  | none => .error .uninitialised
  | some size =>
      if size ≤ s.recvlen + s.tail then
        match s.copyFrom s.rev_cnt (size - s.tail) with
        | .error e => .error e
        | .ok part =>
            if s.trans_da.length < headSize + s.tail + part.length then .error .outOfBounds
            else
              let start := headSize + s.tail
              let package := s.trans_da.take start ++ part ++ s.trans_da.drop (start + part.length)
              .ok (deal_data { s with
                recvlen := s.recvlen - (size - s.tail)
                rev_cnt := s.rev_cnt + (size - s.tail).toNat } package)
      -- `rev_cnt` bytes are copied, and that is none
      else .ok { s with recvlen := 0, label := .receiv }

/-- A pass from `many_head` to the next one or to the next `recv`. -/
def pass (s : Connect) (ok : Bool) : Except ConnectFault Connect :=
  match s.tmp_head with
  | .null => s.passNull ok
  | .tempackage => s.passTempackage ok
  | .package => s.passPackage

end Connect

end AwHal.Pq

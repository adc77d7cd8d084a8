import AwHal.TuningApp.TuningCfg

/-!
# The tuning connection

`sock_handle_tuning_thread` answers one packet after the other.  Configurations come and go through
one buffer, which is allocated when the connection is opened and never cleared.
-/

namespace AwHal.TuningApp

open Lib

inductive SockCmd where
  | SOCK_CMD_GET_CFG | SOCK_CMD_SET_CFG | SOCK_CMD_UPDATE_CFG | SOCK_CMD_ISP_SEL | unknown
deriving DecidableEq, Repr

structure Packet where
  type : SockCmd
  group_id : Nat
  cfg_ids : Nat
  data_length : Int
  isp_sel : Nat
deriving DecidableEq, Repr

/-- The `params` in the `tuning` of each ISP, and `buffer`. -/
structure Server where
  params : Nat → Params
  buffer : Memory

structure Outcome where
  /-- `none` if it fails; it may start an ISP, and read its parameters from a file. -/
  select_isp : Option ((Nat → Params) → Nat → Params)
  /-- `isp_get_cfg` and `isp_set_cfg` find the `tuning` of the ISP. -/
  tuning : Bool
  /-- The packet that goes back is written. -/
  written : Bool
  /-- The bytes that arrive behind the packet before `sock_read` gives up. -/
  arrived : List UInt8

def Server.getCfg (s : Server) (packet : Packet) (o : Outcome) : Server × List UInt8 :=
  if o.tuning then
    let got := isp_tuning_get_cfg (s.params packet.isp_sel) packet.group_id packet.cfg_ids s.buffer
    if got.1 > 0 then
      -- the conversion is done in place, and stays in the buffer
      let buffer := convert_tuning_cfg_to_network packet.group_id packet.cfg_ids got.2
      ({ s with buffer := buffer }, if o.written then buffer.load 0 got.1.toNat else [])
    else ({ s with buffer := got.2 }, [])
  else (s, [])

def Server.setCfg (s : Server) (packet : Packet) (o : Outcome) : Server :=
  if o.written then
    -- `sock_read` writes over the start of the buffer and leaves the rest
    let read := o.arrived.take packet.data_length.toNat
    let buffer := s.buffer.store 0 read
    -- the length is compared with what was read, and not with what is selected
    if (read.length : Int) = packet.data_length then
      let buffer := convert_tuning_cfg_to_local packet.group_id packet.cfg_ids buffer
      if o.tuning then
        let set := isp_tuning_set_cfg (s.params packet.isp_sel) packet.group_id packet.cfg_ids buffer
        { params := Function.update s.params packet.isp_sel set.2.1, buffer := set.2.2 }
      else { s with buffer := buffer }
    else { s with buffer := buffer }
  else s

def Server.handle (s : Server) (packet : Packet) (o : Outcome) : Server × List UInt8 :=
  match packet.type with
  -- refused before an ISP is selected
  | .unknown => (s, [])
  | type =>
      match o.select_isp with
      | none => (s, [])
      | some start =>
          let s := { s with params := start s.params }
          match type with
          | .SOCK_CMD_GET_CFG => s.getCfg packet o
          | .SOCK_CMD_SET_CFG => (s.setCfg packet o, [])
          | _ => (s, [])

def Server.run (s : Server) (history : List (Packet × Outcome)) : Server :=
  history.foldl (fun s e => (s.handle e.1 e.2).1) s

def Outcome.ok (arrived : List UInt8) : Outcome where
  select_isp := some id
  tuning := true
  written := true
  arrived := arrived

end AwHal.TuningApp

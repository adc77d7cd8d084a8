import AwHal.Lib.Handles
import AwHal.Keymaster.ParamSets

/-!
# The calls of the keymaster

Each call allocates blocks of shared memory, invokes a command of the trusted application with them,
copies its results to memory of its own and releases the blocks.  How the requests are packed into the
blocks is the subject of `RequestPacking`; here it is about the blocks, and about the results.
-/

namespace AwHal.Keymaster

open AwHal.Lib

inductive keymaster_error_t where
  | KM_ERROR_OK
  | KM_ERROR_UNEXPECTED_NULL_POINTER
  | KM_ERROR_OUTPUT_PARAMETER_NULL
  | KM_ERROR_KEYMASTER_NOT_CONFIGURED
  | KM_ERROR_MEMORY_ALLOCATION_FAILED
  | KM_ERROR_UNKNOWN_ERROR
  | command (success : Int)
deriving DecidableEq, Repr

/-- What the client library and `malloc` do in one call. -/
structure Teec where
  /-- Whether the allocations succeed, in the order in which the call has them. -/
  allocate : Nat → Bool
  malloc : Nat → Bool
  success : Int
  /-- The parameters of the operation after the command: the blocks, their sizes, and the values. -/
  buffer : Nat → List UInt8
  size : Nat → Nat
  value : Nat → Nat × Nat

structure keymaster_key_characteristics_t where
  hw_enforced : List keymaster_key_param_t
  sw_enforced : List keymaster_key_param_t

structure Outputs where
  err_type : keymaster_error_t
  /-- The key material, the exported key or the output. -/
  data : Option (List UInt8) := none
  characteristics : Option keymaster_key_characteristics_t := none
  out_params : Option (List keymaster_key_param_t) := none
  operation_handle : Option Nat := none
  input_consumed : Option Nat := none

/-! ## Results -/

def commandError (success : Int) : keymaster_error_t :=
  -- `KM_ERROR_UNKNOWN_ERROR`
  if success < -1000 then .KM_ERROR_UNKNOWN_ERROR else .command success

/-- The allocations for the blobs of a set from the `n`-th on; a blob that has bytes is copied to
whatever `malloc` returned. -/
def copyBlobs (malloc : Nat → Bool) (n : Nat) : List keymaster_key_param_t → Option Nat
  | [] => some n
  | p :: params =>
      if tag_is_blob p.tag then
        if malloc n ∨ p.blob = [] then copyBlobs malloc (n + 1) params else none
      else copyBlobs malloc n params

/-- `tee_CopyToParamSet` with its allocations, and the number of the next one.  Without a result the
call does not return: it has written through a null pointer or read outside the block. -/
def copySet (malloc : Nat → Bool) (n : Nat) (block : List UInt8) (src : Nat) :
    Option (List keymaster_key_param_t × Nat) := do
  let set ← tee_CopyToParamSet block src 0
  if set.isEmpty then some (set, n)
  else if malloc n then (copyBlobs malloc (n + 1) set).map fun n => (set, n)
  else none

def sizeof_keymaster_key_param_set_t : Nat := 16

/-- The two sets, where `sw_enforced` is the offset of the second descriptor. -/
def copyCharacteristics (teec : Teec) (n : Nat) (block : List UInt8) (sw_enforced : Nat) :
    Option keymaster_key_characteristics_t := do
  let (hw, n) ← copySet teec.malloc n block 0
  let (sw, _) ← copySet teec.malloc n block sw_enforced
  some ⟨hw, sw⟩

def keyOutputs (teec : Teec) (characteristics : Bool) (sw_enforced : Nat) : Option Outputs :=
  if teec.success ≠ 0 then some { err_type := commandError teec.success }
  else if teec.malloc 0 then do
    let key_material ← loadBlock (teec.buffer 1) 0 (teec.size 1)
    if characteristics then
      let enforced ← copyCharacteristics teec 1 (teec.buffer 2) sw_enforced
      some
        { err_type := .KM_ERROR_OK
          data := key_material
          characteristics := enforced }
    else
      some
        { err_type := .KM_ERROR_OK
          data := key_material }
  else some { err_type := .KM_ERROR_MEMORY_ALLOCATION_FAILED }

def generatedKey (teec : Teec) (characteristics : Bool) : Option Outputs :=
  keyOutputs teec characteristics sizeof_tee_keymaster_key_param_set_t

def importedKey (teec : Teec) (characteristics : Bool) : Option Outputs :=
  keyOutputs teec characteristics sizeof_keymaster_key_param_set_t

def keyCharacteristics (teec : Teec) : Option Outputs :=
  if teec.success ≠ 0 then some { err_type := commandError teec.success }
  else do
    let enforced ← copyCharacteristics teec 0 (teec.buffer 3) sizeof_tee_keymaster_key_param_set_t
    some
      { err_type := .KM_ERROR_OK
        characteristics := enforced }

def exportedKey (teec : Teec) : Option Outputs :=
  if teec.success ≠ 0 then some { err_type := commandError teec.success }
  else if teec.malloc 0 then do
    let data ← loadBlock (teec.buffer 1) 0 (teec.size 1)
    some
      { err_type := .KM_ERROR_OK
        data := data }
  else some { err_type := .KM_ERROR_MEMORY_ALLOCATION_FAILED }

/-- The parameters in the block `1`, if there are any: an error without `out_params`. -/
def copyOutParams (teec : Teec) (out_params : Bool) :
    Option (Option (List keymaster_key_param_t × Nat)) := do
  let length ← word (teec.buffer 1) 4
  if length ≠ 0 then
    if out_params then (copySet teec.malloc 0 (teec.buffer 1) 0).map some else some none
  else some (some ([], 0))

def begun (teec : Teec) (out_params : Bool) : Option Outputs :=
  if teec.success ≠ 0 then some { err_type := commandError teec.success }
  else do
    match ← copyOutParams teec out_params with
    | none => some { err_type := .KM_ERROR_OUTPUT_PARAMETER_NULL }
    | some (set, _) =>
        some
          { err_type := .KM_ERROR_OK
            out_params := if out_params then some set else none
            operation_handle := some ((teec.value 2).2 * 2 ^ 32 + (teec.value 2).1) }

def copyOutput (teec : Teec) (n : Nat) (output : Bool) :
    Option (keymaster_error_t × Option (List UInt8)) :=
  if output then
    if teec.malloc n then
      (loadBlock (teec.buffer 2) 0 (teec.size 2)).map fun data => (.KM_ERROR_OK, some data)
    else some (.KM_ERROR_MEMORY_ALLOCATION_FAILED, none)
  else if 0 < teec.size 2 then some (.KM_ERROR_OUTPUT_PARAMETER_NULL, none)
  else some (.KM_ERROR_OK, none)

def updated (teec : Teec) (out_params output : Bool) : Option Outputs :=
  if teec.success ≠ 0 then some { err_type := commandError teec.success }
  else if out_params then do
    let (set, n) ← copySet teec.malloc 0 (teec.buffer 1) 0
    let (err_type, data) ← copyOutput teec n output
    some
      { err_type := err_type
        data := data
        out_params := set
        input_consumed := some (teec.value 3).1 }
  else none

def finished (teec : Teec) (out_params output : Bool) : Option Outputs :=
  if teec.success ≠ 0 then some { err_type := commandError teec.success }
  else do
    match ← copyOutParams teec out_params with
    | none => some { err_type := .KM_ERROR_OUTPUT_PARAMETER_NULL }
    | some (set, n) =>
        let (err_type, data) ← copyOutput teec n output
        some
          { err_type := err_type
            data := data
            out_params := if out_params then some set else none }

/-! ## Blocks -/

/-- The block, and the blocks of the call so far. -/
def TEEC_AllocateSharedMemory (success : Bool) (pool : Handles) : Option Nat × Handles :=
  if success then (some pool.next, pool.give) else (none, pool)

/-- A block that was not allocated must not be released. -/
def TEEC_ReleaseSharedMemory (block : Option Nat) (pool : Handles) : Handles :=
  match block with
  | some h => pool.close h
  | none => { pool with misused := true }

def releaseAll (blocks : List (Option Nat)) (pool : Handles) : Handles :=
  blocks.foldl (fun pool block => TEEC_ReleaseSharedMemory block pool) pool

structure Outcome where
  outputs : Outputs
  pool : Handles

def failed (err_type : keymaster_error_t) (pool : Handles) : Option Outcome :=
  some ⟨{ err_type := err_type }, pool⟩

/-- The results and, once they are copied, the release of the blocks. -/
def finishCall (outputs : Option Outputs) (blocks : List (Option Nat)) (pool : Handles) :
    Option Outcome :=
  outputs.map fun outputs => ⟨outputs, releaseAll blocks pool⟩

/-! ## The calls -/

section

variable (teec : Teec) (configured : Bool)

def twoBlocks (outputs : Option Outputs) : Option Outcome :=
  let (paramMem, pool) := TEEC_AllocateSharedMemory (teec.allocate 0) Handles.empty
  if !teec.allocate 0 then failed .KM_ERROR_UNKNOWN_ERROR pool
  else
    let (out_p, pool) := TEEC_AllocateSharedMemory (teec.allocate 1) pool
    if !teec.allocate 1 then failed .KM_ERROR_UNKNOWN_ERROR (releaseAll [paramMem] pool)
    else finishCall outputs [paramMem, out_p] pool

def threeBlocks (outputs : Option Outputs) : Option Outcome :=
  let (paramMem, pool) := TEEC_AllocateSharedMemory (teec.allocate 0) Handles.empty
  if !teec.allocate 0 then failed .KM_ERROR_UNKNOWN_ERROR pool
  else
    let (out_p, pool) := TEEC_AllocateSharedMemory (teec.allocate 1) pool
    if !teec.allocate 1 then failed .KM_ERROR_UNKNOWN_ERROR (releaseAll [paramMem] pool)
    else
      let (out_q, pool) := TEEC_AllocateSharedMemory (teec.allocate 2) pool
      if !teec.allocate 2 then
        failed .KM_ERROR_UNKNOWN_ERROR (releaseAll [paramMem, out_p] pool)
      else finishCall outputs [paramMem, out_p, out_q] pool

def KeyMaster_V2_Generate_Key (dev key_blob characteristics : Bool) : Option Outcome :=
  let pool := Handles.empty
  if !dev then failed .KM_ERROR_UNEXPECTED_NULL_POINTER pool
  else if !key_blob then failed .KM_ERROR_OUTPUT_PARAMETER_NULL pool
  else if !configured then failed .KM_ERROR_KEYMASTER_NOT_CONFIGURED pool
  else threeBlocks teec (generatedKey teec characteristics)

def allocateOptional (argument : Bool) (success : Bool) (pool : Handles) : Option Nat × Handles :=
  if argument then TEEC_AllocateSharedMemory success pool else (none, pool)

def optionalBlock (argument : Bool) (block : Option Nat) : List (Option Nat) :=
  if argument then [block] else []

def KeyMaster_V2_Get_Key_Characteristics (dev characteristics client_id app_data : Bool) :
    Option Outcome :=
  let pool := Handles.empty
  if !dev then failed .KM_ERROR_UNEXPECTED_NULL_POINTER pool
  else if !characteristics then failed .KM_ERROR_OUTPUT_PARAMETER_NULL pool
  else if !configured then failed .KM_ERROR_KEYMASTER_NOT_CONFIGURED pool
  else
    let (key_blob_p, pool) := TEEC_AllocateSharedMemory (teec.allocate 0) pool
    if !teec.allocate 0 then failed .KM_ERROR_UNKNOWN_ERROR pool
    else
      let (client_id_p, pool) := allocateOptional client_id (teec.allocate 1) pool
      if client_id && !teec.allocate 1 then
        failed .KM_ERROR_UNKNOWN_ERROR (releaseAll [key_blob_p] pool)
      else
        let (app_data_p, pool) := allocateOptional app_data (teec.allocate 2) pool
        let arguments := key_blob_p :: optionalBlock client_id client_id_p
        if app_data && !teec.allocate 2 then
          failed .KM_ERROR_UNKNOWN_ERROR (releaseAll arguments pool)
        else
          let (tee_characteristics_p, pool) := TEEC_AllocateSharedMemory (teec.allocate 3) pool
          let arguments := arguments ++ optionalBlock app_data app_data_p
          if !teec.allocate 3 then failed .KM_ERROR_UNKNOWN_ERROR (releaseAll arguments pool)
          else finishCall (keyCharacteristics teec) (arguments ++ [tee_characteristics_p]) pool

def KeyMaster_V2_Import_Key (dev params key_data key_blob characteristics : Bool) :
    Option Outcome :=
  let pool := Handles.empty
  if !dev || !params || !key_data then failed .KM_ERROR_UNEXPECTED_NULL_POINTER pool
  else if !key_blob then failed .KM_ERROR_OUTPUT_PARAMETER_NULL pool
  else if !configured then failed .KM_ERROR_KEYMASTER_NOT_CONFIGURED pool
  else
    let (paramMem, pool) := TEEC_AllocateSharedMemory (teec.allocate 0) pool
    if !teec.allocate 0 then failed .KM_ERROR_UNKNOWN_ERROR pool
    else
      let (tee_material_p, pool) := TEEC_AllocateSharedMemory (teec.allocate 1) pool
      -- paramMem is not released on the two exits that follow
      if !teec.allocate 1 then failed .KM_ERROR_UNKNOWN_ERROR pool
      else
        let (tee_characteristics_p, pool) :=
          allocateOptional characteristics (teec.allocate 2) pool
        if characteristics && !teec.allocate 2 then
          failed .KM_ERROR_UNKNOWN_ERROR (releaseAll [tee_material_p] pool)
        else
          finishCall (importedKey teec characteristics)
            ([paramMem, tee_material_p] ++ optionalBlock characteristics tee_characteristics_p) pool

/-- `key_material` says whether there is a key to export and whether it has material. -/
def KeyMaster_V2_Export_Key (dev key_material export_data : Bool) : Option Outcome :=
  let pool := Handles.empty
  if !dev || !key_material then failed .KM_ERROR_UNEXPECTED_NULL_POINTER pool
  else if !export_data then failed .KM_ERROR_OUTPUT_PARAMETER_NULL pool
  else if !configured then failed .KM_ERROR_KEYMASTER_NOT_CONFIGURED pool
  else twoBlocks teec (exportedKey teec)

def KeyMaster_V2_Begin (dev key_material operation_handle out_params : Bool) : Option Outcome :=
  let pool := Handles.empty
  if !dev || !key_material then failed .KM_ERROR_UNEXPECTED_NULL_POINTER pool
  else if !operation_handle then failed .KM_ERROR_OUTPUT_PARAMETER_NULL pool
  else if !configured then failed .KM_ERROR_KEYMASTER_NOT_CONFIGURED pool
  else twoBlocks teec (begun teec out_params)

def KeyMaster_V2_Update (dev input input_consumed out_params output : Bool) : Option Outcome :=
  let pool := Handles.empty
  if !dev || !input then failed .KM_ERROR_UNEXPECTED_NULL_POINTER pool
  else if !input_consumed then failed .KM_ERROR_OUTPUT_PARAMETER_NULL pool
  else if !configured then failed .KM_ERROR_KEYMASTER_NOT_CONFIGURED pool
  else threeBlocks teec (updated teec out_params output)

def KeyMaster_V2_Finish (dev out_params output : Bool) : Option Outcome :=
  let pool := Handles.empty
  if !dev then failed .KM_ERROR_UNEXPECTED_NULL_POINTER pool
  else if !configured then failed .KM_ERROR_KEYMASTER_NOT_CONFIGURED pool
  else threeBlocks teec (finished teec out_params output)

end

/-- The arguments of a call, as far as they are tested: whether a pointer is there. -/
inductive Call where
  | Generate_Key (dev key_blob characteristics : Bool)
  | Get_Key_Characteristics (dev characteristics client_id app_data : Bool)
  | Import_Key (dev params key_data key_blob characteristics : Bool)
  | Export_Key (dev key_material export_data : Bool)
  | Begin (dev key_material operation_handle out_params : Bool)
  | Update (dev input input_consumed out_params output : Bool)
  | Finish (dev out_params output : Bool)

def Call.run (teec : Teec) (configured : Bool) : Call → Option Outcome
  | Generate_Key dev key_blob characteristics =>
      KeyMaster_V2_Generate_Key teec configured dev key_blob characteristics
  | Get_Key_Characteristics dev characteristics client_id app_data =>
      KeyMaster_V2_Get_Key_Characteristics teec configured dev characteristics client_id app_data
  | Import_Key dev params key_data key_blob characteristics =>
      KeyMaster_V2_Import_Key teec configured dev params key_data key_blob characteristics
  | Export_Key dev key_material export_data =>
      KeyMaster_V2_Export_Key teec configured dev key_material export_data
  | Begin dev key_material operation_handle out_params =>
      KeyMaster_V2_Begin teec configured dev key_material operation_handle out_params
  | Update dev input input_consumed out_params output =>
      KeyMaster_V2_Update teec configured dev input input_consumed out_params output
  | Finish dev out_params output => KeyMaster_V2_Finish teec configured dev out_params output

end AwHal.Keymaster

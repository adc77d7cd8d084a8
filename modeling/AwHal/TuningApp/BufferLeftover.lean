import AwHal.TuningApp.CfgRoundTrip

/-!
# What is left in the buffer

A request to set configurations brings as many bytes as the client says, and as many bytes are set as
the selected structs have.  If there are fewer of the first, the rest comes from earlier requests.
-/

namespace AwHal.TuningApp

open Lib

set_option maxRecDepth 10000

/-! ## The bytes that are used -/

/-- The bytes from the start of a struct on that have an effect when it is set.  Two structs end with
padding that is neither converted nor copied; of `awb_skin_info` half is copied. -/
def Cfg.reads (c : Cfg) : Nat :=
  match c with
  | .TUNING_GTM => 186
  | .TUNING_GAMMA => 30734
  | .AWB_SKIN_INFO => 644
  | _ => c.size

def needed : List Cfg → Nat
  | [] => 0
  | [c] => c.reads
  | c :: cfgs => c.size + needed cfgs

theorem needed_cons {c : Cfg} {cfgs : List Cfg} (h : cfgs ≠ []) :
    needed (c :: cfgs) = c.size + needed cfgs := by
  cases cfgs with
  | nil => contradiction
  | cons c' cfgs => rfl

theorem needed_append (front : List Cfg) (c : Cfg) :
    needed (front ++ [c]) = total Cfg.size front + c.reads := by
  induction front with
  | nil => exact (Nat.zero_add _).symm
  | cons c' front ih =>
      rw [List.cons_append, needed_cons (by simp), ih, total_cons, Nat.add_assoc]

def copiedEnd : List Member → Nat
  | [] => 0
  | f :: members =>
      max (if f.param.isSome then f.copied else 0)
        (if copiedEnd members = 0 then 0 else f.length + copiedEnd members)

def SameOn (lo hi : Nat) (m m' : Memory) : Prop :=
  ∀ x, lo ≤ x → x < hi → m x = m' x

theorem SameOn.mono {lo hi lo' hi' : Nat} {m m' : Memory} (h : SameOn lo hi m m') (hlo : lo ≤ lo')
    (hhi : hi' ≤ hi) : SameOn lo' hi' m m' :=
  fun x hx hx' => h x (by omega) (by omega)

theorem setMembers_congr {members : List Member} {addr : Nat} {m m' : Memory}
    (h : SameOn addr (addr + copiedEnd members) m m') (params : Params) :
    setMembers members addr m params = setMembers members addr m' params := by
  induction members generalizing addr params with
  | nil => rfl
  | cons f members ih =>
      rw [copiedEnd] at h
      have hrest : SameOn (addr + f.length) (addr + f.length + copiedEnd members) m m' := by
        intro x hlo hhi
        apply h x (by omega)
        rw [if_neg (show ¬ copiedEnd members = 0 by omega)]
        omega
      rw [setMembers, setMembers, ih hrest]
      cases hp : f.param with
      | none => rfl
      | some p =>
          have hload : m.load addr f.copied = m'.load addr f.copied := by
            apply Memory.load_congr
            intro x hlo hhi
            rw [hp] at h
            exact h x hlo (by simp only [Option.isSome_some, if_true]; omega)
          rw [hload]

theorem Cfg.copiedEnd_le (c : Cfg) : copiedEnd c.members ≤ c.reads := by
  cases c <;> decide

theorem Cfg.reads_le (c : Cfg) : c.reads ≤ c.size := by
  cases c <;> decide

theorem Cfg.reads_pos (c : Cfg) : 0 < c.reads := by
  cases c <;> decide

/-! ## The same bytes are set -/

theorem Cfg.reach_le_reads {c : Cfg} (h : c ≠ .AWB_SKIN_INFO) : reach c.accesses ≤ c.reads := by
  revert h
  cases c <;> decide

/-- Of `awb_skin_info` only the numbers that are copied count, all of one width. -/
theorem skin_index_lt {addr x : Nat} (hlo : addr ≤ x) (hhi : x < addr + 644) :
    addr ≤ runsIndex Cfg.AWB_SKIN_INFO.runs addr x ∧
      runsIndex Cfg.AWB_SKIN_INFO.runs addr x < addr + 644 := by
  have hruns : runsIndex Cfg.AWB_SKIN_INFO.runs addr x =
      runsIndex [⟨4, 161⟩, ⟨4, 160⟩] addr x := runsIndex_congr (by rfl) addr x
  have hfirst : runsIndex [⟨4, 161⟩, ⟨4, 160⟩] addr x = runsIndex [⟨4, 161⟩] addr x :=
    runsIndex_cons_of_lt hhi
  have hend : x < addr + extent [⟨4, 161⟩] := hhi
  rw [hruns, hfirst]
  exact runsIndex_mem hlo hend

/-- The bytes that count after the conversion come from those that count before it. -/
theorem Cfg.convert_same {c : Cfg} {addr hi : Nat} {m m' : Memory}
    (hhi : hi = addr + c.reads ∨ addr + c.size ≤ hi) (h : SameOn addr hi m m') :
    SameOn addr hi (runAccesses hton c.accesses addr m) (runAccesses hton c.accesses addr m') := by
  intro x hlo hx
  by_cases hreach : addr + reach c.accesses ≤ hi
  · exact runAccesses_inside c.accesses (Nat.le_refl addr) hreach h hlo hx
  · -- only this struct is converted further than it is read
    have hskin : c = .AWB_SKIN_INFO := by
      by_contra hne
      have hle := Cfg.reach_le_reads hne
      have hle' := c.reads_le
      omega
    subst hskin
    have hread : hi = addr + 644 := by
      have hle := Cfg.AWB_SKIN_INFO.reach_le
      rcases hhi with hhi | hhi
      · exact hhi
      · omega
    obtain ⟨hlo', hhi'⟩ := skin_index_lt hlo (hread ▸ hx)
    rw [Cfg.convert_apply (by decide), Cfg.convert_apply (by decide)]
    exact h _ hlo' (by omega)

/-- Scaling the denoise items reads and writes within the struct. -/
theorem confined_prepare : Confined Cfg.size Cfg.prepare where
  outside := by
    intro c addr m x hx
    unfold Cfg.prepare
    split
    · have hsize : Cfg.DYNAMIC_DENOISE.size = 8 + 88 * ISP_DYNAMIC_GROUP_COUNT := by decide
      exact Memory.mapElems_outside (fun bytes _ => length_scaleItem bytes) _ (by omega) m
    · rfl
  inside := by
    intro c addr m m' h x hlo hhi
    unfold Cfg.prepare
    split
    · have hsize : Cfg.DYNAMIC_DENOISE.size = 8 + 88 * ISP_DYNAMIC_GROUP_COUNT := by decide
      by_cases hx : x < addr + 8
      · rw [Memory.mapElems_outside (fun bytes _ => length_scaleItem bytes) _ (.inl hx),
          Memory.mapElems_outside (fun bytes _ => length_scaleItem bytes) _ (.inl hx)]
        exact h x hlo hhi
      · apply Memory.mapElems_congr (fun bytes _ => length_scaleItem bytes) _ (by omega) (by omega)
        intro y hy hy'
        exact h y (by omega) (by omega)
    · exact h x hlo hhi

theorem Cfg.prepare_other {c : Cfg} (h : c ≠ .DYNAMIC_DENOISE) (addr : Nat) (m : Memory) :
    c.prepare addr m = m := by
  unfold Cfg.prepare
  split
  · exact absurd rfl h
  · rfl

theorem Cfg.prepare_same {c : Cfg} {addr hi : Nat} {m m' : Memory}
    (hhi : hi = addr + c.reads ∨ addr + c.size ≤ hi) (h : SameOn addr hi m m') :
    SameOn addr hi (c.prepare addr m) (c.prepare addr m') := by
  intro x hlo hx
  by_cases hsize : addr + c.size ≤ hi
  · by_cases hin : x < addr + c.size
    · exact confined_prepare.inside c addr m m' (h.mono (Nat.le_refl addr) hsize) x hlo hin
    · rw [confined_prepare.outside c addr m x (by omega),
        confined_prepare.outside c addr m' x (by omega)]
      exact h x hlo hx
  · -- the struct with the denoise items counts as a whole
    have hother : c ≠ .DYNAMIC_DENOISE := by
      rintro rfl
      have hreads : Cfg.DYNAMIC_DENOISE.reads = Cfg.DYNAMIC_DENOISE.size := rfl
      omega
    rw [Cfg.prepare_other hother, Cfg.prepare_other hother]
    exact h x hlo hx

theorem converted_same {cfgs : List Cfg} {addr : Nat} {m m' : Memory}
    (h : SameOn addr (addr + needed cfgs) m m') :
    SameOn addr (addr + needed cfgs)
      (walk Cfg.size (fun c => runAccesses hton c.accesses) cfgs addr m)
      (walk Cfg.size (fun c => runAccesses hton c.accesses) cfgs addr m') := by
  induction cfgs generalizing addr m m' with
  | nil => exact h
  | cons c cfgs ih =>
      intro x hlo hx
      by_cases hnil : cfgs = []
      · subst hnil
        exact Cfg.convert_same (.inl rfl) h x hlo hx
      · -- a struct that is not the last one counts as a whole
        rw [needed_cons hnil, ← Nat.add_assoc] at h hx
        have hstep := Cfg.convert_same (.inr (Nat.le_add_right (addr + c.size) _)) h
        by_cases hin : x < addr + c.size
        · rw [walk, walk, walk_outside confined_convert (.inl hin),
            walk_outside confined_convert (.inl hin)]
          exact hstep x hlo hx
        · exact ih (hstep.mono (by omega) (by omega)) x (by omega) hx

theorem setCfgs_congr {cfgs : List Cfg} {addr : Nat} {m m' : Memory}
    (h : SameOn addr (addr + needed cfgs) m m') (params : Params) :
    (setCfgs cfgs addr m params).1 = (setCfgs cfgs addr m' params).1 := by
  induction cfgs generalizing addr m m' params with
  | nil => rfl
  | cons c cfgs ih =>
      have hcopied := c.copiedEnd_le
      have hreads := c.reads_le
      rw [setCfgs, setCfgs]
      by_cases hnil : cfgs = []
      · subst hnil
        have hstep : SameOn addr (addr + c.reads) (c.prepare addr m) (c.prepare addr m') :=
          Cfg.prepare_same (.inl rfl) h
        exact setMembers_congr (hstep.mono (Nat.le_refl addr) (by omega)) params
      · rw [needed_cons hnil, ← Nat.add_assoc] at h
        have hstep := Cfg.prepare_same (.inr (Nat.le_add_right (addr + c.size) _)) h
        have hset := setMembers_congr (hstep.mono (Nat.le_refl addr)
          (by omega : addr + copiedEnd c.members ≤ _)) params
        simp only [hset]
        exact ih (hstep.mono (by omega) (Nat.le_refl _)) _

/-! ## Another last byte is set as something else -/

theorem setCfgs_buffer_outside {cfgs : List Cfg} {addr x : Nat}
    (hx : x < addr ∨ addr + total Cfg.size cfgs ≤ x) (m : Memory) (params : Params) :
    (setCfgs cfgs addr m params).2 x = m x := by
  induction cfgs generalizing addr m params with
  | nil => rfl
  | cons c cfgs ih =>
      rw [total_cons] at hx
      rw [setCfgs, ih (by omega), confined_prepare.outside c addr m x (by omega)]

/-- A byte of a struct, from the buffer to the parameter; nothing behind it is copied there. -/
theorem setCfgs_byte {front more : List Cfg} {c : Cfg} {before after : List Member} {f : Member}
    {q : Param} (hc : c.members = before ++ f :: after) (hf : f.param = some q) {k : Nat}
    (hk : k < f.copied) (hafter : ∀ f' ∈ after, ¬ f'.Touches q (f.pos + k))
    (hmore : ∀ c' ∈ more, ∀ f' ∈ c'.members, ¬ f'.Touches q (f.pos + k))
    (hsize : extent (before.map Member.run) + k < c.size) (m : Memory) (params : Params) :
    (setCfgs (front ++ c :: more) 0 m params).1 q (f.pos + k) =
      c.prepare (total Cfg.size front) m
        (total Cfg.size front + extent (before.map Member.run) + k) := by
  rw [setCfgs_append, setCfgs, setCfgs_untouched hmore, Nat.zero_add]
  simp only [hc]
  rw [setMembers_byte hf hk hafter]
  -- the structs before this one have prepared nothing in it
  apply confined_prepare.inside _ _ _ _ _ _ (by omega) (by omega)
  intro x hlo hhi
  rw [setCfgs_buffer_outside (.inr (by omega))]

/-- A byte of the last struct, from its conversion to the parameter. -/
theorem setCfgs_last_byte {front : List Cfg} {c : Cfg} {before after : List Member} {f : Member}
    {q : Param} (hc : c.members = before ++ f :: after) (hf : f.param = some q)
    (hafter : ∀ f' ∈ after, f'.param ≠ some q) {k : Nat} (hk : k < f.copied)
    (hsize : extent (before.map Member.run) + k < c.size) (m : Memory) (params : Params) :
    (setCfgs (front ++ [c]) 0 (converted (front ++ [c]) m) params).1 q (f.pos + k) =
      c.prepare (total Cfg.size front) (runAccesses hton c.accesses (total Cfg.size front) m)
        (total Cfg.size front + extent (before.map Member.run) + k) := by
  have hno : ∀ f' ∈ after, ¬ f'.Touches q (f.pos + k) :=
    fun f' hf' htouches => hafter f' hf' htouches.1
  rw [setCfgs_byte hc hf hk hno (List.forall_mem_nil _) hsize]
  apply confined_prepare.inside _ _ _ _ _ _ (by omega) (by omega)
  intro x hlo hhi
  have hwalk : converted (front ++ [c]) m x =
      runAccesses hton c.accesses (0 + total Cfg.size front) m x :=
    walk_inside confined_convert (by omega) (by omega) m
  rw [hwalk, Nat.zero_add]

/-- The last byte that counts goes to the last member. -/
theorem Cfg.last_member {c : Cfg} (h : c ≠ .DYNAMIC_DENOISE) :
    ∃ f ∈ c.members.getLast?, f.param.isSome ∧
      extent (c.members.dropLast.map Member.run) ≤ runsIndex c.runs 0 (c.reads - 1) ∧
      runsIndex c.runs 0 (c.reads - 1) <
        extent (c.members.dropLast.map Member.run) + f.copied ∧
      runsIndex c.runs 0 (c.reads - 1) < c.size := by
  revert h
  cases c <;> decide

def onesBut (z : Nat) (b : UInt8) : Memory := fun x => if x = z then b else 1

theorem onesBut_self (z : Nat) (b : UInt8) : onesBut z b z = b := if_pos rfl

theorem store_onesBut {z n : Nat} (hn : n ≤ z) (b : UInt8) :
    (onesBut z b).store 0 (List.replicate n 1) = onesBut z b := by
  funext x
  by_cases hx : x < n
  · have hbyte : (onesBut z b).store 0 (List.replicate n 1) (0 + x) = _ :=
      Memory.store_inside (by simpa using hx)
    rw [Nat.zero_add, List.getElem_replicate] at hbyte
    rw [hbyte, onesBut, if_neg (by omega)]
  · exact Memory.store_outside (.inr (by simp; omega))

/-- What becomes of the last byte that counts: itself, or the sign of a `plum_var`. -/
theorem Cfg.convert_last {c : Cfg} (h : c ≠ .DYNAMIC_DENOISE) (addr : Nat) (b : UInt8) :
    runAccesses hton c.accesses addr (onesBut (addr + (c.reads - 1)) b)
        (addr + runsIndex c.runs 0 (c.reads - 1)) =
      if c = .TUNING_GTM then (if 128 ≤ b then 255 else 0) else b := by
  by_cases hgtm : c = .TUNING_GTM
  · subst hgtm
    have hindex : runsIndex Cfg.TUNING_GTM.runs 0 (Cfg.TUNING_GTM.reads - 1) = 184 := by
      decide
    have hvar := convert_plum_var addr (onesBut (addr + 185) b) (by decide : 80 < 9 * 9)
      (by decide : 0 < 2)
    rw [hindex, if_pos rfl]
    have hbyte : onesBut (addr + 185) b (addr + 24 + 2 * 80 + 1) = b :=
      onesBut_self (addr + 185) b
    rw [hbyte] at hvar
    exact hvar
  · have hindex : addr + runsIndex c.runs 0 (c.reads - 1) =
        runsIndex c.runs addr (addr + (c.reads - 1)) := (runsIndex_shift c.runs addr 0 _).symm
    rw [Cfg.convert_apply hgtm, hindex, runsIndex_involutive, if_neg hgtm]
    exact onesBut_self (addr + (c.reads - 1)) b

/-- The item with the last ratio; its last byte comes first after the conversion. -/
theorem denoise_item (addr : Nat) (b : UInt8) :
    (runAccesses hton Cfg.DYNAMIC_DENOISE.accesses addr (onesBut (addr + 1239) b)).load
        (addr + 8 + 88 * 13) 88 =
      (List.range 88).map fun i => if i = 84 then b else 1 := by
  have hruns : Cfg.DYNAMIC_DENOISE.runs = [⟨4, 310⟩] := by decide
  have hindex : ∀ i < 88, runsIndex Cfg.DYNAMIC_DENOISE.runs 0 (1152 + i) = 1239 ↔ i = 84 := by
    intro i hi
    have hnumber : 288 + i / 4 < 310 := by omega
    rw [hruns, show 1152 + i = 0 + (4 * (288 + i / 4) + i % 4) by omega,
      runsIndex_single hnumber (Nat.mod_lt i (by decide))]
    omega
  apply List.map_congr_left
  intro i hi
  rw [List.mem_range] at hi
  have hshift : runsIndex Cfg.DYNAMIC_DENOISE.runs addr (addr + 8 + 88 * 13 + i) =
      addr + runsIndex Cfg.DYNAMIC_DENOISE.runs 0 (1152 + i) := by
    rw [← runsIndex_shift]
    congr 1
    omega
  rw [Cfg.convert_apply (by decide), hshift]
  simp only [onesBut, Nat.add_left_cancel_iff, hindex i hi]

theorem denoise_first (addr : Nat) (b : UInt8) :
    Cfg.DYNAMIC_DENOISE.prepare addr
        (runAccesses hton Cfg.DYNAMIC_DENOISE.accesses addr (onesBut (addr + 1239) b))
        (addr + 1152) =
      (scaleItem ((List.range 88).map fun i => if i = 84 then b else 1)).getD 0 0 := by
  rw [← denoise_item addr b, show addr + 1152 = addr + 8 + (88 * 13 + 0) by omega]
  exact Memory.mapElems_inside (fun bytes _ => length_scaleItem bytes)
    (by decide : 13 < ISP_DYNAMIC_GROUP_COUNT) (by decide : 0 < 88) _

/-- The last ratio scales the values of its item. -/
theorem setCfgs_last_ratio (front : List Cfg) (params : Params) (b : UInt8) :
    (setCfgs (front ++ [.DYNAMIC_DENOISE]) 0 (converted (front ++ [.DYNAMIC_DENOISE])
        (onesBut (total Cfg.size front + 1239) b)) params).1
        (.isp_dynamic_cfg 13 .denoise_cfg) (0 + 0) =
      (scaleItem ((List.range 88).map fun i => if i = 84 then b else 1)).getD 0 0 := by
  have hmembers : Cfg.DYNAMIC_DENOISE.members = Cfg.DYNAMIC_DENOISE.members.take 41 ++
      s32s 20 (.isp_dynamic_cfg 13 .denoise_cfg) ::
        [s32 (.isp_dynamic_cfg 13 .color_denoise), one] := rfl
  have hextent : extent ((Cfg.DYNAMIC_DENOISE.members.take 41).map Member.run) = 1152 := by decide
  rw [← denoise_first, ← Nat.add_zero 1152, ← Nat.add_assoc, ← hextent]
  apply setCfgs_last_byte hmembers
  · rfl
  · decide
  · decide
  · rw [hextent]
    decide

/-- The last byte of another struct is set as it is, or as a sign. -/
theorem setCfgs_last_value {c : Cfg} (h : c ≠ .DYNAMIC_DENOISE) (front : List Cfg)
    (params : Params) :
    ∃ q k, ∀ b, (setCfgs (front ++ [c]) 0 (converted (front ++ [c])
        (onesBut (total Cfg.size front + (c.reads - 1)) b)) params).1 q k =
      if c = .TUNING_GTM then (if 128 ≤ b then 255 else 0) else b := by
  obtain ⟨f, hlast, hparam, hlo, hhi, hsize⟩ := Cfg.last_member h
  have hmembers := (List.dropLast_append_getLast? f hlast).symm
  obtain ⟨q, hq⟩ := Option.isSome_iff_exists.mp hparam
  generalize hk : runsIndex c.runs 0 (c.reads - 1) -
    extent (c.members.dropLast.map Member.run) = k
  have hindex : extent (c.members.dropLast.map Member.run) + k =
      runsIndex c.runs 0 (c.reads - 1) := by omega
  refine ⟨q, f.pos + k, ?_⟩
  intro b
  rw [setCfgs_last_byte hmembers hq (by simp) (by omega) (by omega), Nat.add_assoc,
    Cfg.prepare_other h, hindex, Cfg.convert_last h]

/-- Two buffers that differ in the last byte that counts are not set alike. -/
theorem setCfgs_last_differs (front : List Cfg) (c : Cfg) (params : Params) :
    (setCfgs (front ++ [c]) 0 (converted (front ++ [c])
        (onesBut (total Cfg.size front + (c.reads - 1)) 1)) params).1 ≠
      (setCfgs (front ++ [c]) 0 (converted (front ++ [c])
        (onesBut (total Cfg.size front + (c.reads - 1)) 129)) params).1 := by
  intro h
  by_cases hdenoise : c = .DYNAMIC_DENOISE
  · -- the byte is the lowest one of a ratio, and ends up in the values of its item
    subst hdenoise
    have hreads : Cfg.DYNAMIC_DENOISE.reads - 1 = 1239 := by decide
    have hbyte := congrArg (fun params => params (.isp_dynamic_cfg 13 .denoise_cfg) (0 + 0)) h
    rw [hreads] at hbyte
    simp only [setCfgs_last_ratio] at hbyte
    revert hbyte
    decide
  · obtain ⟨q, k, hset⟩ := setCfgs_last_value hdenoise front params
    have hbyte := congrArg (fun params => params q k) h
    simp only [hset] at hbyte
    split at hbyte
    · exact absurd hbyte (by decide)
    · exact absurd hbyte (by decide)

/-! ## Two histories of the connection -/

/-- Whatever the connection was used for before, the same request to set configurations makes the same
parameters of the same ones. -/
def Isolated (group_id cfg_ids isp_sel : Nat) (data_length : Int) : Prop :=
  ∀ (s s' : Server) (history history' : List (Packet × Outcome)) (o : Outcome),
    (s.run history).params = (s'.run history').params →
    o.arrived.length = data_length.toNat →
    let packet : Packet := ⟨.SOCK_CMD_SET_CFG, group_id, cfg_ids, data_length, isp_sel⟩
    ((s.run history).handle packet o).1.params = ((s'.run history').handle packet o).1.params

theorem sameOn_store (m m' : Memory) (bytes : List UInt8) :
    SameOn 0 bytes.length (m.store 0 bytes) (m'.store 0 bytes) := by
  intro x _ hx
  have hbyte : m.store 0 bytes (0 + x) = bytes[x] := Memory.store_inside hx
  have hbyte' : m'.store 0 bytes (0 + x) = bytes[x] := Memory.store_inside hx
  rw [Nat.zero_add] at hbyte hbyte'
  rw [hbyte, hbyte']

/-- With enough bytes, or none that are read, the buffer before does not matter. -/
theorem setCfg_params_congr {s s' : Server} (hparams : s.params = s'.params) (packet : Packet)
    (h : packet.data_length < 0 ∨
      needed (selected packet.group_id packet.cfg_ids) ≤ packet.data_length) (o : Outcome) :
    (s.setCfg packet o).params = (s'.setCfg packet o).params := by
  unfold Server.setCfg
  split
  · dsimp only
    split
    · rename_i hread
      split
      · have hneeded : needed (selected packet.group_id packet.cfg_ids) ≤
            (o.arrived.take packet.data_length.toNat).length := by omega
        have hsame := (sameOn_store s.buffer s'.buffer
          (o.arrived.take packet.data_length.toNat)).mono (Nat.le_refl 0) hneeded
        rw [← Nat.zero_add (needed _)] at hsame
        have hset := setCfgs_congr (converted_same hsame) (s.params packet.isp_sel)
        rw [setCfg_eq, setCfg_eq, ← hparams]
        exact congrArg (Function.update s.params packet.isp_sel) hset
      · exact hparams
    · exact hparams
  · exact hparams

/-- A request with fewer bytes than are needed, all of them 1. -/
theorem handle_onesBut {group_id cfg_ids : Nat} {front : List Cfg} {c : Cfg}
    (hsel : selected group_id cfg_ids = front ++ [c]) (isp_sel : Nat) {z n : Nat} (hn : n ≤ z)
    (b : UInt8) :
    (Server.handle ⟨fun _ _ _ => 0, onesBut z b⟩
        ⟨.SOCK_CMD_SET_CFG, group_id, cfg_ids, n, isp_sel⟩ (.ok (List.replicate n 1))).1.params =
      Function.update (fun _ _ _ => 0) isp_sel
        (setCfgs (front ++ [c]) 0 (converted (front ++ [c]) (onesBut z b)) fun _ _ => 0).1 := by
  have hhandle := handle_set ⟨fun _ _ _ => 0, onesBut z b⟩ group_id cfg_ids isp_sel
    (List.replicate n 1)
  rw [List.length_replicate, store_onesBut hn, hsel] at hhandle
  exact hhandle

/-- A request is isolated if it brings all the bytes that its structs need. -/
theorem isolated_iff_needed (group_id cfg_ids isp_sel : Nat) (data_length : Int) :
    Isolated group_id cfg_ids isp_sel data_length ↔
      data_length < 0 ∨ needed (selected group_id cfg_ids) ≤ data_length := by
  constructor
  · intro h
    by_contra hshort
    obtain ⟨hnonneg, hlt⟩ := not_or.mp hshort
    rcases List.eq_nil_or_concat' (selected group_id cfg_ids) with hnil | ⟨front, c, hsel⟩
    · rw [hnil, needed] at hlt
      omega
    · rw [hsel, needed_append] at hlt
      obtain ⟨n, rfl⟩ := Int.eq_ofNat_of_zero_le (Int.not_lt.mp hnonneg)
      have hreads := c.reads_pos
      -- two buffers that differ in the last byte needed, which does not arrive
      have hn : n ≤ total Cfg.size front + (c.reads - 1) := by omega
      have hsame := h ⟨fun _ _ _ => 0, onesBut (total Cfg.size front + (c.reads - 1)) 1⟩
        ⟨fun _ _ _ => 0, onesBut (total Cfg.size front + (c.reads - 1)) 129⟩ [] []
        (.ok (List.replicate n 1)) rfl (by simp [Outcome.ok])
      have hset := fun b => handle_onesBut hsel isp_sel hn b
      have hparams := congrArg (fun params => params isp_sel)
        ((hset 1).symm.trans (hsame.trans (hset 129)))
      rw [Function.update_self, Function.update_self] at hparams
      exact setCfgs_last_differs front c _ hparams
  · intro h s s' history history' o hparams _
    show (Server.handle _ _ _).1.params = (Server.handle _ _ _).1.params
    generalize s.run history = t at hparams ⊢
    generalize s'.run history' = t' at hparams ⊢
    simp only [Server.handle]
    split
    · exact hparams
    · rename_i start hselect
      apply setCfg_params_congr
      · exact congrArg start hparams
      · exact h

/-- A request without a byte sets what an earlier, refused one has left: two connections that send
other bytes first end up with other parameters. -/
theorem not_isolated_without_bytes :
    let s : Server := ⟨fun _ _ _ => 0, fun _ => 0⟩
    let refused (bytes : List UInt8) : Packet × Outcome :=
      (⟨.SOCK_CMD_SET_CFG, 0, 0, bytes.length, 0⟩, .ok bytes)
    let packet : Packet := ⟨.SOCK_CMD_SET_CFG, 1, 16, 0, 0⟩
    (s.run [refused [0, 0, 0, 1]]).params = (s.run [refused [0, 0, 0, 2]]).params ∧
      ((s.run [refused [0, 0, 0, 1]]).handle packet (.ok [])).1.params ≠
        ((s.run [refused [0, 0, 0, 2]]).handle packet (.ok [])).1.params := by
  intro s refused packet
  have hrefused : ∀ bytes, (s.run [refused bytes]).params = s.params := by
    intro bytes
    have hset := handle_set s 0 0 0 bytes
    exact hset.trans (Function.update_eq_self 0 s.params)
  refine ⟨(hrefused _).trans (hrefused _).symm, ?_⟩
  intro h
  have hbyte := congrArg (fun params => params 0 (.isp_test_settings .ae_forced) 0) h
  revert hbyte
  decide

end AwHal.TuningApp

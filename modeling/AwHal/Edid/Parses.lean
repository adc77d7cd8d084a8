import AwHal.Edid.Walks

/-!
# Whole parses

When a parse returns, and when it stays inside the array and inside the blocks that it walks.  Block 0
is no matter: its fields have fixed places.  All depends on the extension blocks, block 1 and those
that its HF-EEODBs lead to.
-/

namespace AwHal.Edid

open AwHal.Lib Reading

variable (mem : Memory)

/-- Block 0 has the header and the right checksum. -/
def IsEdid : Prop :=
  run mem.cells (bytes ⟨0, 0⟩ 0 8) = edidHeader ∧ run mem.cells (do_checksum 0) = true

instance : Decidable (IsEdid mem) := inferInstanceAs (Decidable (_ ∧ _))

def HasCea : Prop := IsEdid mem ∧ mem.cells ⟨0, 0x7E⟩ ≠ 0 ∧ mem.cells ⟨1, 0⟩ = 0x2

instance : Decidable (HasCea mem) := inferInstanceAs (Decidable (_ ∧ _))

def namedBlocks : List Nat :=
  ((counts mem 1).filter fun k => Valid k).flatMap fun k => reached (counts mem) 254 2 k

theorem mem_namedBlocks (b : Nat) :
    b ∈ namedBlocks mem ↔ ∃ k ∈ counts mem 1, Valid k ∧ b ∈ reached (counts mem) 254 2 k := by
  simp [namedBlocks, and_assoc]

/-! ## Block 0 -/

theorem onlyReads_do_checksum (block : Nat) :
    OnlyReads mem.cells InBlock (do_checksum block) ↔ block < 8 := by
  simp [do_checksum, BLOCK_LENGTH]

theorem onlyReads_bytesUntilNul {x : Addr} {i n : Nat} (hblock : x.block < 8)
    (h : x.offset + (i + n) ≤ 128) : OnlyReads mem.cells InBlock (bytesUntilNul x i n) := by
  induction n generalizing i with
  | zero => simp [bytesUntilNul]
  | succ n ih =>
      have hrest := ih (i := i + 1) (by omega)
      simp only [bytesUntilNul, onlyReads_bind, onlyReads_ite, onlyReads_byte, onlyReads_pure,
        implies_true, true_and, and_true]
      exact ⟨⟨hblock, by omega⟩, fun _ => hrest⟩

theorem onlyReads_parseMonitorInfo (s : EdidParser) :
    OnlyReads mem.cells InBlock (parseMonitorInfo s) := by
  simp [parseMonitorInfo]

theorem onlyReads_parseStandardTiming (s : EdidParser) :
    OnlyReads mem.cells InBlock (parseStandardTiming s) := by
  simp [parseStandardTiming]

theorem onlyReads_parseDescriptorBlock (start : Nat) (h : start + 18 ≤ 128) (s : EdidParser) :
    OnlyReads mem.cells InBlock (parseDescriptorBlock start s) := by
  have hname : OnlyReads mem.cells InBlock (bytesUntilNul ⟨0, start⟩ 5 13) :=
    onlyReads_bytesUntilNul mem (show 0 < 8 by decide) h
  simp only [parseDescriptorBlock, onlyReads_bind, onlyReads_ite, onlyReads_byte, onlyReads_pure,
    implies_true, and_true, hname]
  omega

theorem onlyReads_andThen_pure {α β : Type} (p : Reader (Option α)) (g : α → β) :
    OnlyReads mem.cells InBlock (andThen p fun a => pure (some (g a))) ↔
      OnlyReads mem.cells InBlock p := by
  rw [andThen, onlyReads_bind]
  cases run mem.cells p <;> simp

def block0 (s : EdidParser) : Reader EdidParser := do
  let s ← parseMonitorInfo s
  let s ← parseStandardTiming s
  let s ← parseDescriptorBlock DESCRIPTOR1 s
  let s ← parseDescriptorBlock DESCRIPTOR2 s
  let s ← parseDescriptorBlock DESCRIPTOR3 s
  parseDescriptorBlock DESCRIPTOR4 s

theorem run_parse_of_isEdid (h : IsEdid mem) (depth : Nat) (s : EdidParser) :
    run mem.cells (parse depth s) =
      (run mem.cells (parseCeaExtensionBlock depth (run mem.cells (block0 s.clear)))).map
        fun s => (0, correctTmds (updateYCbCr420CapabilityVIC s)) := by
  obtain ⟨hheader, hsum⟩ := h
  simp only [parse, run_bind, hheader, hsum, ne_eq, not_true_eq_false, Bool.not_true,
    Bool.false_eq_true, if_false, run_andThen, run_pure, Option.map_eq_bind, block0]
  rfl

theorem parse_of_isEdid (h : IsEdid mem) (depth : Nat) (s : EdidParser) :
    ∃ s', run mem.cells (parse depth s) =
        (run mem.cells (parseCeaExtensionBlock depth s')).map
          (fun s => (0, correctTmds (updateYCbCr420CapabilityVIC s))) ∧
      (OnlyReads mem.cells InBlock (parse depth s) ↔
        OnlyReads mem.cells InBlock (parseCeaExtensionBlock depth s')) := by
  refine ⟨run mem.cells (block0 s.clear), run_parse_of_isEdid mem h depth s, ?_⟩
  obtain ⟨hheader, hsum⟩ := h
  have hchecksum := onlyReads_do_checksum mem 0
  have hdescriptor1 := onlyReads_parseDescriptorBlock mem DESCRIPTOR1 (by decide)
  have hdescriptor2 := onlyReads_parseDescriptorBlock mem DESCRIPTOR2 (by decide)
  have hdescriptor3 := onlyReads_parseDescriptorBlock mem DESCRIPTOR3 (by decide)
  have hdescriptor4 := onlyReads_parseDescriptorBlock mem DESCRIPTOR4 (by decide)
  simp only [parse, block0, onlyReads_bind, onlyReads_ite, run_bind, hheader, hsum,
    onlyReads_bytes, onlyReads_pure, onlyReads_andThen_pure, onlyReads_parseMonitorInfo,
    onlyReads_parseStandardTiming, hchecksum, hdescriptor1, hdescriptor2, hdescriptor3,
    hdescriptor4]
  simp

theorem parse_of_not_isEdid (h : ¬ IsEdid mem) (depth : Nat) (s : EdidParser) :
    (run mem.cells (parse depth s)).isSome ∧ OnlyReads mem.cells InBlock (parse depth s) := by
  by_cases hheader : run mem.cells (bytes ⟨0, 0⟩ 0 8) = edidHeader
  · have hsum : run mem.cells (do_checksum 0) = false := by
      simpa [IsEdid, hheader] using h
    simp [parse, hheader, hsum, onlyReads_do_checksum]
  · simp [parse, hheader]

variable {mem} in
/-- A parse that returns succeeds exactly when block 0 is sound. -/
theorem parse_succeeds_iff {depth : Nat} {s : EdidParser}
    (h : (run mem.cells (parse depth s)).isSome) :
    (∃ s', run mem.cells (parse depth s) = some (0, s')) ↔ IsEdid mem := by
  constructor
  · rintro ⟨s', hrun⟩
    by_contra hedid
    have hfails : run mem.cells (parse depth s) = some (-1, s.clear) := by
      by_cases hheader : run mem.cells (bytes ⟨0, 0⟩ 0 8) = edidHeader
      · have hsum : run mem.cells (do_checksum 0) = false := by
          simpa [IsEdid, hheader] using hedid
        simp [parse, hheader, hsum]
      · simp [parse, hheader]
    rw [hfails] at hrun
    cases hrun
  · intro hedid
    rw [run_parse_of_isEdid mem hedid, Option.isSome_map] at h
    obtain ⟨s', hcea⟩ := Option.isSome_iff_exists.mp h
    exact ⟨_, by rw [run_parse_of_isEdid mem hedid, hcea]; rfl⟩

/-! ## Block 1 -/

theorem count_ceaFormats (x3 : UInt8) (s : EdidParser) :
    (ceaFormats x3 s).mExtensionBlockCount = s.mExtensionBlockCount := by
  unfold ceaFormats
  dsimp only
  split <;> split <;> rfl

theorem matches_ceaTail (s : EdidParser) :
    Matches mem (ceaTail s) True (some (s.mExtensionBlockCount, [])) := by
  have hchecksum : OnlyReads mem.cells InBlock (do_checksum 1) :=
    (onlyReads_do_checksum mem 1).mpr (by decide)
  by_cases hversion : 2 ≤ mem.cells ((⟨1, 0⟩ : Addr).add 1)
  · refine ⟨ceaFormats (mem.cells ((⟨1, 0⟩ : Addr).add 3)) s, ?_, count_ceaFormats _ s, ?_⟩
    · simp [ceaTail, hversion]
    · simp [ceaTail, hchecksum, hversion]
  · exact ⟨s, by simp [ceaTail, hversion], rfl, by simp [ceaTail, hchecksum, hversion]⟩

theorem parseCeaExtensionBlock_other (h : ¬ (mem.cells ⟨0, 0x7E⟩ ≠ 0 ∧ mem.cells ⟨1, 0⟩ = 0x2))
    (depth : Nat) (s : EdidParser) :
    (run mem.cells (parseCeaExtensionBlock depth s)).isSome ∧
      OnlyReads mem.cells InBlock (parseCeaExtensionBlock depth s) := by
  by_cases hext : mem.cells ⟨0, 0x7E⟩ = 0
  · simp [parseCeaExtensionBlock, Addr.add, hext]
  · have htag : mem.cells ⟨1, 0⟩ ≠ 0x2 := fun htag => h ⟨hext, htag⟩
    simp [parseCeaExtensionBlock, Addr.add, hext, htag]

theorem matches_parseCeaExtensionBlock (hext : mem.cells ⟨0, 0x7E⟩ ≠ 0)
    (htag : mem.cells ⟨1, 0⟩ = 0x2) (depth : Nat) (s : EdidParser) :
    Matches mem (parseCeaExtensionBlock depth s) (BlockFits mem 1)
      (entries (follow (counts mem) depth) (counts mem 1) s.mExtensionBlockCount) := by
  let s₁ : EdidParser := { s with mExtensionBlock := (mem.cells ⟨0, 0x7E⟩).toNat }
  have hblock : Matches mem (extensionBlock (parseCeaDataBlocks depth) 1 s₁) (BlockFits mem 1)
      (entries (follow (counts mem) depth) (counts mem 1) s.mExtensionBlockCount) :=
    (follows_parseCeaDataBlocks depth).extensionBlock 1 s₁
  have hafter : Matches mem (andThen (extensionBlock (parseCeaDataBlocks depth) 1 s₁) ceaTail)
      (BlockFits mem 1)
      (entries (follow (counts mem) depth) (counts mem 1) s.mExtensionBlockCount) := by
    generalize entries _ _ _ = walk at hblock ⊢
    cases walk with
    | none => exact hblock.andThen_none ceaTail
    | some r =>
        have htail := hblock.andThen fun s' hs' => hs' ▸ matches_ceaTail mem s'
        rw [Option.map_some, List.append_nil] at htail
        exact htail.of_iff (and_iff_left trivial)
  have htagged : Matches mem
      (byte ⟨1, 0⟩ 0 >>= fun tag => if tag ≠ 0x2 then pure (some s₁)
        else andThen (extensionBlock (parseCeaDataBlocks depth) 1 s₁) ceaTail)
      (BlockFits mem 1)
      (entries (follow (counts mem) depth) (counts mem 1) s.mExtensionBlockCount) := by
    refine (Matches.byte_bind ?_).of_iff (and_iff_right (by decide))
    rw [if_neg (show ¬ mem.cells ((⟨1, 0⟩ : Addr).add 0) ≠ 0x2 from not_not_intro htag)]
    exact hafter
  refine (Matches.byte_bind ?_).of_iff (and_iff_right (by decide))
  dsimp only
  rw [if_neg (show mem.cells ((⟨0, 0x7E⟩ : Addr).add 0) ≠ 0 from hext)]
  exact htagged

/-! ## Whole parses -/

theorem parse_of_hasCea (h : HasCea mem) (depth : Nat) (s : EdidParser) :
    ∃ c, ((run mem.cells (parse depth s)).isSome =
        (entries (follow (counts mem) depth) (counts mem 1) c).isSome) ∧
      ∀ r, entries (follow (counts mem) depth) (counts mem 1) c = some r →
        (OnlyReads mem.cells InBlock (parse depth s) ↔
          BlockFits mem 1 ∧ ∀ b ∈ r.2, BlockFits mem b) := by
  obtain ⟨hedid, hext, htag⟩ := h
  obtain ⟨s', hrun, hreads⟩ := parse_of_isEdid mem hedid depth s
  have hcea := matches_parseCeaExtensionBlock mem hext htag depth s'
  refine ⟨s'.mExtensionBlockCount, ?_, ?_⟩
  · rw [hrun, Option.isSome_map]
    generalize entries _ _ _ = walk at hcea ⊢
    cases walk with
    | none =>
        rw [show run mem.cells _ = none from hcea]
        rfl
    | some r =>
        obtain ⟨s'', hrun', -⟩ := hcea
        rw [hrun']
        rfl
  · intro r hr
    rw [hr] at hcea
    obtain ⟨-, -, -, hreads'⟩ := hcea
    rw [hreads, hreads']

theorem parse_of_not_hasCea (h : ¬ HasCea mem) (depth : Nat) (s : EdidParser) :
    (run mem.cells (parse depth s)).isSome ∧ OnlyReads mem.cells InBlock (parse depth s) := by
  by_cases hedid : IsEdid mem
  · obtain ⟨s', hrun, hreads⟩ := parse_of_isEdid mem hedid depth s
    have hother := parseCeaExtensionBlock_other mem (fun hcea => h ⟨hedid, hcea⟩) depth s'
    rw [hrun, hreads, Option.isSome_map]
    exact hother
  · exact parse_of_not_isEdid mem hedid depth s

/-- A parse returns exactly when no HF-EEODB of a block that block 1 leads to leads to a block that has
an HF-EEODB again. -/
theorem parse_returns_iff (s : EdidParser) :
    (∃ depth, (run mem.cells (parse depth s)).isSome) ↔
      (HasCea mem → ∀ b ∈ namedBlocks mem, Tame (counts mem) b) := by
  constructor
  · rintro ⟨depth, hsome⟩ hcea b hb
    obtain ⟨c, hiff, -⟩ := parse_of_hasCea mem hcea depth s
    obtain ⟨k, hk, hvalid, hreached⟩ := (mem_namedBlocks mem b).mp hb
    exact (exists_entries_iff (counts mem 1) c).mp ⟨depth, hiff ▸ hsome⟩ k hk hvalid b hreached
  · intro htame
    by_cases hcea : HasCea mem
    · obtain ⟨c, hiff, -⟩ := parse_of_hasCea mem hcea 2 s
      obtain ⟨c', walked, hentries, -⟩ := entries_of_tame
        (fun k hk hvalid b hb =>
          htame hcea b ((mem_namedBlocks mem b).mpr ⟨k, hk, hvalid, hb⟩)) 0 c
      exact ⟨2, by rw [hiff, hentries]; rfl⟩
    · exact ⟨0, (parse_of_not_hasCea mem hcea 0 s).1⟩

def edidWith (other : List (Nat × UInt8)) : Memory := fun i =>
  (other.lookup i).getD (if 1 ≤ i ∧ i ≤ 6 then 0xFF else 0)

def circularEdid : Memory := edidWith
  [(0x7E, 2), (0x7F, 4),
    (0x80, 2), (0x81, 3), (0x82, 7), (0x84, 0xE2), (0x85, 0x78), (0x86, 2), (0xFF, 0x98),
    (0x100, 2), (0x101, 3), (0x102, 7), (0x104, 0xE2), (0x105, 0x78), (0x106, 2), (0x17F, 0x98)]

/-- The parser calls itself over and over for block 2. -/
theorem not_returns_circularEdid :
    ¬ ∀ (mem : Memory) (s : EdidParser), ∃ depth, (run mem.cells (parse depth s)).isSome := by
  intro hall
  obtain ⟨depth, hsome⟩ := hall circularEdid {}
  obtain ⟨c, hiff, -⟩ := parse_of_hasCea circularEdid (by decide +kernel) depth {}
  have hone : counts circularEdid 1 = [2] := by decide +kernel
  have htwo : counts circularEdid 2 = [2] := by decide +kernel
  have hloud : ¬ Quiet (counts circularEdid) 2 := by
    intro hquiet
    have hnil := hquiet 2 (Nat.le_refl 2) (Nat.le_refl 2)
    rw [htwo] at hnil
    cases hnil
  have hwild : ¬ Tame (counts circularEdid) 2 := by
    intro htame
    exact hloud (htame 2 (by rw [htwo]; exact List.mem_cons_self) (by decide))
  have hnone := follow_eq_none (show 2 ∈ reached (counts circularEdid) 254 2 2 from
    List.mem_cons_self) hwild depth 2 (by decide) hloud
  rw [hiff, hone, entries_eq_none List.mem_cons_self hnone c] at hsome
  cases hsome

/-- A parse that returns stays inside exactly when all data blocks of the blocks that it gets to do. -/
theorem parse_inBlock_iff {depth : Nat} {s : EdidParser}
    (h : (run mem.cells (parse depth s)).isSome) :
    (∀ a ∈ indices mem.cells (parse depth s), InBlock a) ↔
      (HasCea mem → ∀ b ∈ 1 :: namedBlocks mem, BlockFits mem b) := by
  by_cases hcea : HasCea mem
  · obtain ⟨c, hiff, hreads⟩ := parse_of_hasCea mem hcea depth s
    obtain ⟨r, hr⟩ := Option.isSome_iff_exists.mp (hiff ▸ h)
    rw [show (∀ a ∈ indices mem.cells (parse depth s), InBlock a) ↔ _ from hreads r hr,
      List.forall_mem_cons]
    simp only [hcea, true_implies, mem_namedBlocks, walked_iff hr]
  · exact iff_of_true (parse_of_not_hasCea mem hcea depth s).2 fun h' => absurd h' hcea

def overrunningEdid : Memory := edidWith
  [(0x7E, 7), (0x7F, 0xFF),
    (0x80, 2), (0x81, 3), (0x82, 7), (0x84, 0xE2), (0x85, 0x78), (0x86, 7), (0xFF, 0x93),
    (0x380, 2), (0x381, 3), (0x382, 0xFF), (0x3FF, 0xFC)]

/-- The parser reads byte 1150 of the array. -/
theorem not_inBlock_overrunningEdid :
    ¬ ∀ (mem : Memory) (depth : Nat) (s : EdidParser), (run mem.cells (parse depth s)).isSome →
      ∀ a ∈ indices mem.cells (parse depth s), InBlock a := by
  intro hall
  have hreads := hall overrunningEdid 1 {} (by decide +kernel) ⟨7, 254⟩ (by decide +kernel)
  exact absurd hreads (by decide)

def soundEdid : Memory := edidWith
  [(0x7E, 7), (0x7F, 0xFF),
    (0x80, 2), (0x81, 3), (0x82, 7), (0x84, 0xE2), (0x85, 0x78), (0x86, 7), (0xFF, 0x93),
    (0x380, 2), (0x381, 3), (0x382, 6), (0x384, 0x41), (0x385, 0x10), (0x3FF, 0xA4)]

theorem inBlock_soundEdid :
    (run soundEdid.cells (parse 1 {})).isSome ∧
      ∀ a ∈ indices soundEdid.cells (parse 1 {}), InBlock a := by
  have hreturns : (run soundEdid.cells (parse 1 {})).isSome := by decide +kernel
  refine ⟨hreturns, ?_⟩
  rw [parse_inBlock_iff soundEdid hreturns]
  decide +kernel

end AwHal.Edid

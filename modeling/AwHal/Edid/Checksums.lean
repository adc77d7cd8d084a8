import AwHal.Edid.Parses

/-!
# What the checksums protect

`parse` looks at the checksum of block 0 before it takes anything from it.  Of the extension blocks it
looks at that of block 1 only, afterwards, and goes on whatever it is.  To say which blocks a parse takes
data blocks from, a walk is followed by what it reads.
-/

namespace AwHal.Edid

open AwHal.Lib Reading

variable (mem : Memory)

def ParsedFrom (depth : Nat) (s : EdidParser) (b : Nat) : Prop :=
  1 ≤ b ∧ ∃ i ∈ dataBlocks mem b, ⟨b, i⟩ ∈ indices mem.cells (parse depth s)

def ChecksumRight (b : Nat) : Prop := run mem.cells (do_checksum b) = true

instance (b : Nat) : Decidable (ChecksumRight mem b) := inferInstanceAs (Decidable (_ = true))

/-- Every parse that succeeds has taken data from blocks with the right checksum only. -/
def TakesOnlySound (s : EdidParser) : Prop :=
  ∀ depth s', run mem.cells (parse depth s) = some (0, s') →
    IsEdid mem ∧ ∀ b, ParsedFrom mem depth s b → ChecksumRight mem b

/-! ## Data blocks -/

abbrev OnBlock (b : Nat) (a : Addr) : Prop := a.block = b

variable {mem}

@[simp] theorem onBlock_byte {x : Addr} {i b : Nat} :
    OnlyReads mem.cells (OnBlock b) (byte x i) ↔ x.block = b :=
  onlyReads_cell mem.cells (OnBlock b) (x.add i)

@[simp] theorem onBlock_bytes {x : Addr} {i n b : Nat} :
    OnlyReads mem.cells (OnBlock b) (bytes x i n) ↔ n = 0 ∨ x.block = b := by
  induction n generalizing i with
  | zero => simp [bytes]
  | succ n ih =>
      simp only [bytes, onlyReads_bind, onBlock_byte, onlyReads_pure, and_true, ih]
      omega

theorem onBlock_vendorSpecificDataBlock (x : Addr) (s : EdidParser) :
    OnlyReads mem.cells (OnBlock x.block) (vendorSpecificDataBlock x s) := by
  simp only [vendorSpecificDataBlock, hdmi1p4VSDB, hdmi2p0VSDB, hdmi4k2kVICParse, onlyReads_bind,
    onlyReads_ite, onBlock_byte, onBlock_bytes, onlyReads_pure, add_block, or_true, implies_true,
    and_true]

theorem onBlock_extendedDataBlock (hfEeodb : BlockParser) (x : Addr) (s : EdidParser)
    {extended : UInt8} (h : extended ≠ HF_EEODB_DATA_BLOCK) :
    OnlyReads mem.cells (OnBlock x.block) (extendedDataBlock hfEeodb x s extended) := by
  simp only [extendedDataBlock, h, colorimetryDataBlock, hdrStaticMetadataBlock,
    YCbCr420VideoDataBlock, ceaSvd, YCbCr420CapabilityMapDataBlock, vendorSpecificVideoDataBlock,
    onlyReads_bind, onlyReads_ite, onBlock_byte, onBlock_bytes, onlyReads_pure, add_block, or_true,
    implies_true, and_true, if_false]

theorem onBlock_dispatch {hfEeodb : BlockParser} {x : Addr} {s : EdidParser}
    (h : ¬ IsHfEeodb mem x) : OnlyReads mem.cells (OnBlock x.block) (dispatch hfEeodb x s) := by
  rw [dispatch, onlyReads_bind, run_byte, onBlock_byte]
  refine ⟨rfl, ?_⟩
  unfold taggedDataBlock
  split
  · simp only [videoDataBlock, ceaSvd, onlyReads_bind, onBlock_byte, onBlock_bytes, onlyReads_pure,
      add_block, or_true, and_true]
  · split
    · rw [onlyReads_bind]
      exact ⟨onBlock_vendorSpecificDataBlock x s, onlyReads_pure _ _ _⟩
    · split
      · rename_i htag
        rw [onlyReads_bind, onBlock_byte, run_byte]
        exact ⟨rfl, onBlock_extendedDataBlock hfEeodb x s fun hextended => h ⟨htag, hextended⟩⟩
      · exact onlyReads_pure _ _ _

theorem indices_dispatch_hfEeodb {hfEeodb : BlockParser} {x : Addr} {s : EdidParser}
    (h : IsHfEeodb mem x) :
    indices mem.cells (dispatch hfEeodb x s) =
      x.add 0 :: x.add 1 :: indices mem.cells (hfEeodb x s) := by
  obtain ⟨htag, hextended⟩ := h
  have hswitch : extendedDataBlock hfEeodb x s HF_EEODB_DATA_BLOCK = hfEeodb x s := rfl
  have htagged : taggedDataBlock hfEeodb x s EXTENDED_TAG =
      byte x 1 >>= extendedDataBlock hfEeodb x s := rfl
  rw [dispatch, indices_bind, run_byte, htag, htagged, indices_bind, run_byte, hextended, hswitch]
  rfl

theorem mem_indices_dispatch (hfEeodb : BlockParser) (x : Addr) (s : EdidParser) :
    x ∈ indices mem.cells (dispatch hfEeodb x s) := by
  rw [dispatch, indices_bind]
  exact List.mem_append_left _ List.mem_cons_self

/-! ## Walks -/

variable (mem)

/-- What is read is in the blocks `own` or in the walked ones, and of those all data blocks are
parsed. -/
structure Visits (p : Reader (Option EdidParser)) (own : Nat → Prop) (walked : List Nat) : Prop where
  inside : OnlyReads mem.cells (fun a => own a.block ∨ a.block ∈ walked) p
  headers : ∀ b ∈ walked, ∀ i ∈ dataBlocks mem b, ⟨b, i⟩ ∈ indices mem.cells p

def FollowsTo (parseDataBlock : BlockParser) (f : Nat → Option (Nat × List Nat)) : Prop :=
  ∀ x s r,
    (if IsHfEeodb mem x then f (hfCount mem x) else some (s.mExtensionBlockCount, [])) = some r →
      x ∈ indices mem.cells (parseDataBlock x s) ∧
        Visits mem (parseDataBlock x s) (· = x.block) r.2

variable {mem} {own own' : Nat → Prop} {walked walked' : List Nat} {p : Reader (Option EdidParser)}

theorem Visits.mono (h : Visits mem p own walked) (hown : ∀ b, own b → own' b) :
    Visits mem p own' walked where
  inside a ha := (h.inside a ha).imp_left (hown a.block)
  headers := h.headers

theorem visits_pure (a : Option EdidParser) : Visits mem (pure a) own [] where
  inside := onlyReads_pure _ _ _
  headers _ hb := nomatch hb

theorem indices_andThen {α β : Type} {p : Reader (Option α)} {q : α → Reader (Option β)} {a : α}
    (hrun : run mem.cells p = some a) :
    indices mem.cells (andThen p q) = indices mem.cells p ++ indices mem.cells (q a) := by
  rw [andThen, indices_bind, hrun]

theorem Visits.andThen {q : EdidParser → Reader (Option EdidParser)} {s : EdidParser}
    (hp : Visits mem p own walked) (hrun : run mem.cells p = some s)
    (hq : Visits mem (q s) own walked') : Visits mem (andThen p q) own (walked ++ walked') := by
  constructor
  case inside =>
    intro a ha
    rw [indices_andThen hrun, List.mem_append] at ha
    rw [List.mem_append]
    rcases ha with ha | ha
    · exact (hp.inside a ha).imp_right .inl
    · exact (hq.inside a ha).imp_right .inr
  case headers =>
    intro b hb i hi
    rw [indices_andThen hrun, List.mem_append]
    rcases List.mem_append.mp hb with hb | hb
    · exact .inl (hp.headers b hb i hi)
    · exact .inr (hq.headers b hb i hi)

theorem Visits.byte_bind {x : Addr} {i : Nat} {q : UInt8 → Reader (Option EdidParser)}
    (h : Visits mem (q (mem.cells (x.add i))) own walked) (hx : own x.block) :
    Visits mem (byte x i >>= q) own walked := by
  have hindices : indices mem.cells (byte x i >>= q) =
      x.add i :: indices mem.cells (q (mem.cells (x.add i))) := rfl
  constructor
  case inside =>
    intro a ha
    rw [hindices, List.mem_cons] at ha
    rcases ha with rfl | ha
    · exact .inl hx
    · exact h.inside a ha
  case headers =>
    intro b hb j hj
    rw [hindices]
    exact List.mem_cons_of_mem _ (h.headers b hb j hj)

/-- A block of its own, with all its data blocks parsed, is one of those walked. -/
theorem Visits.cons {b : Nat} (h : Visits mem p (· = b) walked)
    (hb : ∀ i ∈ dataBlocks mem b, ⟨b, i⟩ ∈ indices mem.cells p) :
    Visits mem p (fun _ => False) (b :: walked) := by
  constructor
  case inside =>
    intro a ha
    right
    rcases h.inside a ha with hown | hwalked
    · exact List.mem_cons.mpr (.inl hown)
    · exact List.mem_cons_of_mem b hwalked
  case headers =>
    intro b' hb' i hi
    rcases List.mem_cons.mp hb' with rfl | hb'
    · exact hb i hi
    · exact h.headers b' hb' i hi

section

variable {parseDataBlock : BlockParser} {f : Nat → Option (Nat × List Nat)}

theorem FollowsTo.walk (hvisits : FollowsTo mem parseDataBlock f)
    (hfollows : Follows mem parseDataBlock f) {block offset n i : Nat} {s : EdidParser}
    {r : Nat × List Nat}
    (hr : entries f (hfCounts mem block (positions mem block offset n i)) s.mExtensionBlockCount =
      some r) :
    (∀ j ∈ positions mem block offset n i,
        ⟨block, j⟩ ∈ indices mem.cells (walk parseDataBlock block offset n i s)) ∧
      Visits mem (walk parseDataBlock block offset n i s) (· = block) r.2 := by
  induction n generalizing i s r with
  | zero =>
      cases hr
      exact ⟨List.forall_mem_nil _, visits_pure _⟩
  | succ n ih =>
      rw [positions] at hr ⊢
      rw [Edid.walk]
      by_cases hi : i < offset
      · rw [if_pos hi] at hr ⊢
        rw [if_pos hi]
        rw [entries_hfCounts_cons, Option.bind_eq_some_iff] at hr
        obtain ⟨r₁, hr₁, hr⟩ := hr
        obtain ⟨r₂, hr₂, rfl⟩ := Option.map_eq_some_iff.mp hr
        obtain ⟨hheader, hblock⟩ := hvisits ⟨block, i⟩ s r₁ hr₁
        have hmatches := hfollows ⟨block, i⟩ s
        rw [hr₁] at hmatches
        obtain ⟨s', hrun, hcount, -⟩ := hmatches
        rw [← hcount] at hr₂
        obtain ⟨hheaders, hrest⟩ := ih hr₂
        constructor
        · intro j hj
          rw [indices_andThen hrun, List.mem_append]
          rcases List.mem_cons.mp hj with rfl | hj
          · exact .inl hheader
          · exact .inr (List.mem_cons_of_mem _ (hheaders j hj))
        · exact hblock.andThen hrun (hrest.byte_bind rfl)
      · rw [if_neg hi] at hr ⊢
        rw [if_neg hi]
        cases hr
        exact ⟨List.forall_mem_nil _, visits_pure _⟩

theorem FollowsTo.extensionBlock (hvisits : FollowsTo mem parseDataBlock f)
    (hfollows : Follows mem parseDataBlock f) {b : Nat} {s : EdidParser} {r : Nat × List Nat}
    (hr : entries f (counts mem b) s.mExtensionBlockCount = some r) :
    (∀ i ∈ dataBlocks mem b, ⟨b, i⟩ ∈ indices mem.cells (extensionBlock parseDataBlock b s)) ∧
      Visits mem (extensionBlock parseDataBlock b s) (· = b) r.2 := by
  have hwalk : (∀ i ∈ dataBlocks mem b, ⟨b, i⟩ ∈ indices mem.cells
        (if mem.cells ⟨b, 1⟩ = 3 then
          Edid.walk parseDataBlock b (mem.cells ⟨b, 2⟩).toNat (mem.cells ⟨b, 2⟩).toNat 4 s
        else pure (some s))) ∧
      Visits mem (if mem.cells ⟨b, 1⟩ = 3 then
          Edid.walk parseDataBlock b (mem.cells ⟨b, 2⟩).toNat (mem.cells ⟨b, 2⟩).toNat 4 s
        else pure (some s)) (· = b) r.2 := by
    unfold counts dataBlocks at hr
    unfold dataBlocks
    dsimp only at hr ⊢
    by_cases hversion : mem.cells ⟨b, 1⟩ = 3
    · rw [if_pos hversion] at hr ⊢
      rw [if_pos hversion]
      exact hvisits.walk hfollows hr
    · rw [if_neg hversion] at hr ⊢
      rw [if_neg hversion]
      cases hr
      exact ⟨List.forall_mem_nil _, visits_pure _⟩
  constructor
  · intro i hi
    exact List.mem_cons_of_mem _ (List.mem_cons_of_mem _ (hwalk.1 i hi))
  · exact Visits.byte_bind (i := 1) (Visits.byte_bind (i := 2) hwalk.2 rfl) rfl

theorem FollowsTo.extensionBlocks (hvisits : FollowsTo mem parseDataBlock f)
    (hfollows : Follows mem parseDataBlock f) {n b : Nat} {s : EdidParser} {r : Nat × List Nat}
    (hr : blocks (counts mem) f n b s.mExtensionBlockCount = some r) :
    Visits mem (extensionBlocks parseDataBlock n b s) (fun _ => False) r.2 := by
  induction n generalizing b s r with
  | zero =>
      cases hr
      exact visits_pure _
  | succ n ih =>
      rw [Edid.extensionBlocks]
      by_cases hb : b ≤ s.mExtensionBlockCount
      · rw [if_pos hb]
        obtain ⟨r₁, r₂, hr₁, hr₂, rfl⟩ := (blocks_succ_eq_some hb).mp hr
        obtain ⟨hheaders, hblock⟩ := hvisits.extensionBlock hfollows hr₁
        have hmatches := hfollows.extensionBlock b s
        rw [hr₁] at hmatches
        obtain ⟨s', hrun, hcount, -⟩ := hmatches
        rw [← hcount] at hr₂
        exact (hblock.cons hheaders).andThen hrun (ih hr₂)
      · rw [if_neg hb]
        rw [blocks, if_neg hb] at hr
        cases hr
        exact visits_pure _

theorem FollowsTo.HfEeodbDataBlock (hvisits : FollowsTo mem parseDataBlock f)
    (hfollows : Follows mem parseDataBlock f) {x : Addr} (s : EdidParser) {r : Nat × List Nat}
    (hr : (if Valid (hfCount mem x) then blocks (counts mem) f 254 2 (hfCount mem x)
      else some (hfCount mem x, [])) = some r) :
    Visits mem (HfEeodbDataBlock parseDataBlock x s) (· = x.block) r.2 := by
  let s' : EdidParser := { s with mExtensionBlockCount := hfCount mem x }
  have hwalk : Visits mem
      (if hfCount mem x < 2 ∨ EDID_MAX_BLOCK_COUNT ≤ hfCount mem x then pure (some s')
        else Edid.extensionBlocks parseDataBlock 254 2 s') (· = x.block) r.2 := by
    by_cases hvalid : Valid (hfCount mem x)
    · rw [if_pos hvalid] at hr
      rw [if_neg fun hstop => stops_iff_not_valid.mp hstop hvalid]
      exact (hvisits.extensionBlocks hfollows hr).mono fun _ h => h.elim
    · rw [if_neg hvalid] at hr
      rw [if_pos (stops_iff_not_valid.mpr hvalid)]
      cases hr
      exact visits_pure _
  exact Visits.byte_bind (i := 2) hwalk rfl

theorem followsTo_dispatch {hfEeodb : BlockParser}
    (h : ∀ x s r, f (hfCount mem x) = some r → Visits mem (hfEeodb x s) (· = x.block) r.2) :
    FollowsTo mem (dispatch hfEeodb) f := by
  intro x s r hr
  refine ⟨mem_indices_dispatch hfEeodb x s, ?_⟩
  by_cases hhf : IsHfEeodb mem x
  · rw [if_pos hhf] at hr
    have hcall := h x s r hr
    have hindices : indices mem.cells (dispatch hfEeodb x s) = _ := indices_dispatch_hfEeodb hhf
    constructor
    case inside =>
      intro a ha
      rw [hindices, List.mem_cons, List.mem_cons] at ha
      rcases ha with rfl | rfl | ha
      · exact .inl rfl
      · exact .inl rfl
      · exact hcall.inside a ha
    case headers =>
      intro b hb i hi
      rw [hindices]
      exact List.mem_cons_of_mem _ (List.mem_cons_of_mem _ (hcall.headers b hb i hi))
  · rw [if_neg hhf] at hr
    cases hr
    constructor
    case inside => exact fun a ha => .inl (onBlock_dispatch hhf a ha)
    case headers => exact List.forall_mem_nil _

end

theorem followsTo_parseCeaDataBlocks (depth : Nat) :
    FollowsTo mem (parseCeaDataBlocks depth) (follow (counts mem) depth) := by
  induction depth with
  | zero => exact followsTo_dispatch fun _ _ _ hr => nomatch hr
  | succ depth ih =>
      exact followsTo_dispatch fun x s r hr =>
        ih.HfEeodbDataBlock (follows_parseCeaDataBlocks depth) s hr

/-! ## Whole parses -/

theorem le_of_mem_positions {block offset n i j : Nat} (h : j ∈ positions mem block offset n i) :
    i ≤ j := by
  induction n generalizing i with
  | zero => cases h
  | succ n ih =>
      rw [positions] at h
      split at h
      · rcases List.mem_cons.mp h with rfl | h
        · exact Nat.le_refl j
        · have := ih h
          omega
      · cases h

theorem four_le_of_mem_dataBlocks {b i : Nat} (h : i ∈ dataBlocks mem b) : 4 ≤ i := by
  unfold dataBlocks at h
  dsimp only at h
  split at h
  · exact le_of_mem_positions h
  · cases h

theorem onBlock_do_checksum (b : Nat) : OnlyReads mem.cells (OnBlock b) (do_checksum b) := by
  simp only [do_checksum, onlyReads_bind, onBlock_bytes, onlyReads_pure, or_true, and_true]

theorem onBlock_bytesUntilNul {x : Addr} {i n : Nat} :
    OnlyReads mem.cells (OnBlock x.block) (bytesUntilNul x i n) := by
  induction n generalizing i with
  | zero => exact onlyReads_pure _ _ _
  | succ n ih =>
      simp only [bytesUntilNul, onlyReads_bind, onlyReads_ite, onBlock_byte, onlyReads_pure,
        implies_true, and_true, ih]

theorem onBlock_parseDescriptorBlock (start : Nat) (s : EdidParser) :
    OnlyReads mem.cells (OnBlock 0) (parseDescriptorBlock start s) := by
  have hname : OnlyReads mem.cells (OnBlock 0) (bytesUntilNul ⟨0, start⟩ 5 13) :=
    onBlock_bytesUntilNul (x := ⟨0, start⟩)
  simp only [parseDescriptorBlock, onlyReads_bind, onlyReads_ite, onBlock_byte, onlyReads_pure,
    implies_true, and_true, hname]

/-- Before the extension blocks a parse reads block 0. -/
theorem indices_parse_of_isEdid (h : IsEdid mem) (depth : Nat) (s : EdidParser) :
    ∃ before s', (∀ a ∈ before, OnBlock 0 a) ∧
      indices mem.cells (parse depth s) =
        before ++ indices mem.cells (parseCeaExtensionBlock depth s') ∧
      run mem.cells (parse depth s) = (run mem.cells (parseCeaExtensionBlock depth s')).map
        fun s => (0, correctTmds (updateYCbCr420CapabilityVIC s)) := by
  have hrun := run_parse_of_isEdid mem h depth s
  obtain ⟨hheader, hsum⟩ := h
  have hblock0 : OnlyReads mem.cells (OnBlock 0) (block0 s.clear) := by
    simp only [block0, parseMonitorInfo, parseStandardTiming, onlyReads_bind, onBlock_byte,
      onBlock_bytes, onlyReads_pure, onBlock_parseDescriptorBlock, or_true, and_true]
  have hafter : ∀ s : EdidParser, indices mem.cells
      (andThen (parseCeaExtensionBlock depth s) fun s =>
        pure (some ((0 : Int), correctTmds (updateYCbCr420CapabilityVIC s)))) =
      indices mem.cells (parseCeaExtensionBlock depth s) := by
    intro s
    rw [andThen, indices_bind]
    cases run mem.cells (parseCeaExtensionBlock depth s) with
    | none => simp
    | some s => simp
  refine ⟨indices mem.cells (bytes ⟨0, 0⟩ 0 8) ++ (indices mem.cells (do_checksum 0) ++
    indices mem.cells (block0 s.clear)), run mem.cells (block0 s.clear), ?_, ?_, hrun⟩
  · intro a ha
    rw [List.mem_append, List.mem_append] at ha
    rcases ha with ha | ha | ha
    · exact onBlock_bytes.mpr (.inr rfl) a ha
    · exact onBlock_do_checksum 0 a ha
    · exact hblock0 a ha
  · simp only [parse, indices_bind, run_bind, hheader, hsum, ne_eq, not_true_eq_false, Bool.not_true,
      Bool.false_eq_true, if_false, hafter, block0, List.append_assoc]

theorem visits_ceaTail (s : EdidParser) : Visits mem (ceaTail s) (· ≤ 1) [] := by
  have hreads : OnlyReads mem.cells (OnBlock 1) (ceaTail s) := by
    simp only [ceaTail, onlyReads_bind, onlyReads_ite, onBlock_byte, onBlock_do_checksum,
      onlyReads_pure, implies_true, and_true]
  constructor
  case inside => exact fun a ha => .inl (Nat.le_of_eq (hreads a ha))
  case headers => exact List.forall_mem_nil _

theorem visits_parseCeaExtensionBlock (hext : mem.cells ⟨0, 0x7E⟩ ≠ 0)
    (htag : mem.cells ⟨1, 0⟩ = 0x2) (depth : Nat) {s : EdidParser} {r : Nat × List Nat}
    (hr : entries (follow (counts mem) depth) (counts mem 1) s.mExtensionBlockCount = some r) :
    (∀ i ∈ dataBlocks mem 1, ⟨1, i⟩ ∈ indices mem.cells (parseCeaExtensionBlock depth s)) ∧
      Visits mem (parseCeaExtensionBlock depth s) (· ≤ 1) r.2 := by
  let s₁ : EdidParser := { s with mExtensionBlock := (mem.cells ⟨0, 0x7E⟩).toNat }
  have hfollows : Follows mem (parseCeaDataBlocks depth) (follow (counts mem) depth) :=
    follows_parseCeaDataBlocks depth
  obtain ⟨hheaders, hblock⟩ :=
    (followsTo_parseCeaDataBlocks depth).extensionBlock hfollows (s := s₁) hr
  have hmatches := hfollows.extensionBlock 1 s₁
  rw [show s₁.mExtensionBlockCount = s.mExtensionBlockCount from rfl, hr] at hmatches
  obtain ⟨s', hrun, -, -⟩ := hmatches
  have hafter := (hblock.mono fun b hb => Nat.le_of_eq hb).andThen hrun (visits_ceaTail s')
  rw [List.append_nil] at hafter
  have hindices : indices mem.cells (parseCeaExtensionBlock depth s) =
      ⟨0, 0x7E⟩ :: ⟨1, 0⟩ ::
        indices mem.cells (andThen (extensionBlock (parseCeaDataBlocks depth) 1 s₁) ceaTail) := by
    rw [parseCeaExtensionBlock, indices_bind, run_byte]
    dsimp only
    rw [if_neg (show mem.cells ((⟨0, 0x7E⟩ : Addr).add 0) ≠ 0 from hext), indices_bind, run_byte,
      if_neg (show ¬ mem.cells ((⟨1, 0⟩ : Addr).add 0) ≠ 0x2 from not_not_intro htag)]
    rfl
  constructor
  · intro i hi
    rw [hindices, indices_andThen hrun]
    exact List.mem_cons_of_mem _ (List.mem_cons_of_mem _ (List.mem_append_left _ (hheaders i hi)))
  · constructor
    case inside =>
      intro a ha
      rw [hindices, List.mem_cons, List.mem_cons] at ha
      rcases ha with rfl | rfl | ha
      · exact .inl (Nat.zero_le 1)
      · exact .inl (Nat.le_refl 1)
      · exact hafter.inside a ha
    case headers =>
      intro b hb i hi
      rw [hindices]
      exact List.mem_cons_of_mem _ (List.mem_cons_of_mem _ (hafter.headers b hb i hi))

/-- Without data blocks to walk through, a parse reads block 0 and at most the tag of block 1. -/
theorem reads_of_not_hasCea (h : ¬ HasCea mem) (depth : Nat) (s : EdidParser) :
    OnlyReads mem.cells (fun a => a.block = 0 ∨ a = ⟨1, 0⟩) (parse depth s) := by
  intro a ha
  by_cases hedid : IsEdid mem
  · obtain ⟨before, s', hbefore, hindices, -⟩ := indices_parse_of_isEdid hedid depth s
    rw [hindices, List.mem_append] at ha
    rcases ha with ha | ha
    · exact .inl (hbefore a ha)
    · rw [parseCeaExtensionBlock, indices_bind, run_byte] at ha
      rcases List.mem_append.mp ha with ha | ha
      · exact .inl (congrArg Addr.block (List.mem_singleton.mp ha))
      · dsimp only at ha
        by_cases hext : mem.cells ((⟨0, 0x7E⟩ : Addr).add 0) = 0
        · rw [if_pos hext] at ha
          cases ha
        · have htag : mem.cells ((⟨1, 0⟩ : Addr).add 0) ≠ 0x2 := fun htag => h ⟨hedid, hext, htag⟩
          rw [if_neg hext, indices_bind, run_byte, if_pos htag] at ha
          exact .inr (List.mem_singleton.mp ha)
  · have hblock0 : OnlyReads mem.cells (OnBlock 0) (parse depth s) := by
      by_cases hheader : run mem.cells (bytes ⟨0, 0⟩ 0 8) = edidHeader
      · have hsum : run mem.cells (do_checksum 0) = false := by
          simpa [IsEdid, hheader] using hedid
        simp [parse, hheader, hsum, onBlock_do_checksum]
      · simp [parse, hheader]
    exact .inl (hblock0 a ha)

/-- A parse that returns gets to the data blocks of block 1 and of the blocks that it names, and to no
others. -/
theorem reads_of_hasCea (hcea : HasCea mem) {depth : Nat} {s : EdidParser}
    (h : (run mem.cells (parse depth s)).isSome) :
    OnlyReads mem.cells (fun a => a.block ≤ 1 ∨ a.block ∈ namedBlocks mem) (parse depth s) ∧
      ∀ b ∈ 1 :: namedBlocks mem, ∀ i ∈ dataBlocks mem b,
        ⟨b, i⟩ ∈ indices mem.cells (parse depth s) := by
  obtain ⟨hedid, hext, htag⟩ := hcea
  obtain ⟨before, s', hbefore, hindices, hrun⟩ := indices_parse_of_isEdid hedid depth s
  rw [hrun, Option.isSome_map] at h
  have hmatches := matches_parseCeaExtensionBlock mem hext htag depth s'
  cases hr : entries (follow (counts mem) depth) (counts mem 1) s'.mExtensionBlockCount with
  | none =>
      rw [hr] at hmatches
      rw [show run mem.cells (parseCeaExtensionBlock depth s') = none from hmatches] at h
      cases h
  | some r =>
      have hwalked : ∀ b, b ∈ r.2 ↔ b ∈ namedBlocks mem := fun b =>
        (walked_iff hr b).trans (mem_namedBlocks mem b).symm
      obtain ⟨hheaders, hvisits⟩ := visits_parseCeaExtensionBlock hext htag depth hr
      constructor
      · intro a ha
        rw [hindices, List.mem_append] at ha
        rcases ha with ha | ha
        · exact .inl ((hbefore a ha).le.trans (Nat.zero_le 1))
        · exact (hvisits.inside a ha).imp_right (hwalked a.block).mp
      · intro b hb i hi
        rw [hindices, List.mem_append]
        right
        rcases List.mem_cons.mp hb with rfl | hb
        · exact hheaders i hi
        · exact hvisits.headers b ((hwalked b).mpr hb) i hi

theorem one_le_of_mem_namedBlocks {b : Nat} (h : b ∈ 1 :: namedBlocks mem) : 1 ≤ b := by
  rcases List.mem_cons.mp h with rfl | h
  · exact Nat.le_refl 1
  · obtain ⟨k, -, -, hreached⟩ := (mem_namedBlocks mem b).mp h
    exact Nat.le_of_succ_le (mem_reached hreached)

theorem parsedFrom_iff {depth : Nat} {s : EdidParser}
    (h : (run mem.cells (parse depth s)).isSome) (b : Nat) :
    ParsedFrom mem depth s b ↔
      HasCea mem ∧ b ∈ 1 :: namedBlocks mem ∧ dataBlocks mem b ≠ [] := by
  constructor
  · rintro ⟨hone, i, hi, hread⟩
    have hfour := four_le_of_mem_dataBlocks hi
    have hcea : HasCea mem := by
      by_contra hno
      rcases reads_of_not_hasCea hno depth s _ hread with hzero | htag
      · exact absurd hzero (Nat.ne_of_gt hone)
      · cases htag
        omega
    rcases (reads_of_hasCea hcea h).1 _ hread with hle | hnamed
    · have heq : b = 1 := Nat.le_antisymm hle hone
      exact ⟨hcea, List.mem_cons.mpr (.inl heq), List.ne_nil_of_mem hi⟩
    · exact ⟨hcea, List.mem_cons_of_mem 1 hnamed, List.ne_nil_of_mem hi⟩
  · rintro ⟨hcea, hb, hne⟩
    obtain ⟨i, hi⟩ := List.exists_mem_of_ne_nil _ hne
    exact ⟨one_le_of_mem_namedBlocks hb, i, hi, (reads_of_hasCea hcea h).2 b hb i hi⟩

/-! ## Checksums -/

/-- Nothing is taken from a block with a wrong checksum exactly when no block with data blocks that a
parse gets to has one. -/
theorem takesOnlySound_iff (mem : Memory) (s : EdidParser) :
    TakesOnlySound mem s ↔
      (HasCea mem → (∀ b ∈ namedBlocks mem, Tame (counts mem) b) →
        ∀ b ∈ 1 :: namedBlocks mem, dataBlocks mem b ≠ [] → ChecksumRight mem b) := by
  constructor
  · intro hsound hcea htame b hb hne
    obtain ⟨depth, hsome⟩ := (parse_returns_iff mem s).mpr fun _ => htame
    obtain ⟨s', hrun⟩ := (parse_succeeds_iff hsome).mpr hcea.1
    exact (hsound depth s' hrun).2 b ((parsedFrom_iff hsome b).mpr ⟨hcea, hb, hne⟩)
  · intro hright depth s' hrun
    have hsome : (run mem.cells (parse depth s)).isSome := by
      rw [hrun]
      rfl
    refine ⟨(parse_succeeds_iff hsome).mp ⟨s', hrun⟩, ?_⟩
    intro b hparsed
    obtain ⟨hcea, hb, hne⟩ := (parsedFrom_iff hsome b).mp hparsed
    exact hright hcea ((parse_returns_iff mem s).mp ⟨depth, hsome⟩ hcea) b hb hne

def corruptedEdid : Memory := edidWith
  [(0x7E, 1), (0x7F, 5),
    (0x80, 2), (0x81, 3), (0x82, 6), (0x84, 0x41), (0x85, 0x10), (0xFF, 0xFF)]

/-- The mode of the corrupted block is taken. -/
theorem not_takesOnlySound : ¬ ∀ (mem : Memory) (s : EdidParser), TakesOnlySound mem s := by
  intro hall
  have hsome : (run corruptedEdid.cells (parse 0 {})).isSome := by decide +kernel
  obtain ⟨s', hrun⟩ := (parse_succeeds_iff hsome).mpr (by decide +kernel)
  have hparsed : ParsedFrom corruptedEdid 0 {} 1 :=
    (parsedFrom_iff hsome 1).mpr ⟨by decide +kernel, List.mem_cons_self, by decide +kernel⟩
  exact absurd ((hall corruptedEdid {} 0 s' hrun).2 1 hparsed) (by decide +kernel)

end AwHal.Edid

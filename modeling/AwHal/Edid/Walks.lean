import AwHal.Edid.Extensions
import AwHal.Edid.DataBlocks

/-!
# Parses and walks

A parse follows the HF-EEODBs of the extension blocks as `entries`, `blocks` and `follow` say: it has
a result when they do, it leaves the same count, and it reads the blocks that they list.  What it
does with the other data blocks plays no part.
-/

namespace AwHal.Edid

open AwHal.Lib Reading

variable (mem : Memory)

/-! ## The data blocks of an extension block -/

def positions (block offset : Nat) : Nat → Nat → List Nat
  | 0, _ => []
  | n + 1, i =>
      if i < offset then i :: positions block offset n (i + (payload mem ⟨block, i⟩ + 1)) else []

def dataBlocks (block : Nat) : List Nat :=
  let offset := (mem.cells ⟨block, 2⟩).toNat
  if mem.cells ⟨block, 1⟩ = 3 then positions mem block offset offset 4 else []

def hfCount (x : Addr) : Nat := (mem.cells (x.add 2)).toNat

def hfCounts (block : Nat) (is : List Nat) : List Nat :=
  (is.filter fun i => IsHfEeodb mem ⟨block, i⟩).map fun i => hfCount mem ⟨block, i⟩

def counts (block : Nat) : List Nat := hfCounts mem block (dataBlocks mem block)

/-- All data blocks of an extension block fit into it, and it is in the array. -/
def BlockFits (b : Nat) : Prop := b < 8 ∧ ∀ i ∈ dataBlocks mem b, Fits mem ⟨b, i⟩

instance (b : Nat) : Decidable (BlockFits mem b) := inferInstanceAs (Decidable (_ ∧ _))

/-! ## What it means to match -/

/-- The program has a result when the walk has, with the same count; it then reads what it reads on
its own account and the blocks that the walk lists. -/
def Matches (p : Reader (Option EdidParser)) (own : Prop) : Option (Nat × List Nat) → Prop
  | none => run mem.cells p = none
  | some (c, walked) => ∃ s, run mem.cells p = some s ∧ s.mExtensionBlockCount = c ∧
      (OnlyReads mem.cells InBlock p ↔ own ∧ ∀ b ∈ walked, BlockFits mem b)

variable {mem}

theorem Matches.of_iff {p : Reader (Option EdidParser)} {own own' : Prop}
    {walk : Option (Nat × List Nat)} (h : Matches mem p own walk) (hown : own ↔ own') :
    Matches mem p own' walk := by
  rw [← propext hown]
  exact h

theorem run_andThen {α β : Type} (p : Reader (Option α)) (q : α → Reader (Option β)) :
    run mem.cells (andThen p q) = (run mem.cells p).bind fun a => run mem.cells (q a) := by
  rw [andThen, run_bind]
  cases run mem.cells p <;> rfl

theorem onlyReads_andThen {α β : Type} {p : Reader (Option α)} (q : α → Reader (Option β)) {a : α}
    (h : run mem.cells p = some a) :
    OnlyReads mem.cells InBlock (andThen p q) ↔
      OnlyReads mem.cells InBlock p ∧ OnlyReads mem.cells InBlock (q a) := by
  rw [andThen, onlyReads_bind, h]

theorem Matches.andThen {p : Reader (Option EdidParser)}
    {q : EdidParser → Reader (Option EdidParser)} {own own' : Prop} {c : Nat} {walked : List Nat}
    {next : Option (Nat × List Nat)} (hp : Matches mem p own (some (c, walked)))
    (hq : ∀ s, s.mExtensionBlockCount = c → Matches mem (q s) own' next) :
    Matches mem (andThen p q) (own ∧ own') (next.map fun r => (r.1, walked ++ r.2)) := by
  obtain ⟨s, hrun, hcount, hreads⟩ := hp
  have hnext := hq s hcount
  cases next with
  | none =>
      show run mem.cells (Edid.andThen p q) = none
      rw [run_andThen, hrun]
      exact hnext
  | some next =>
      obtain ⟨s', hrun', hcount', hreads'⟩ := hnext
      refine ⟨s', ?_, hcount', ?_⟩
      · rw [run_andThen, hrun]
        exact hrun'
      · rw [onlyReads_andThen q hrun, hreads, hreads', List.forall_mem_append]
        tauto

theorem Matches.andThen_none {p : Reader (Option EdidParser)} {own own' : Prop}
    (q : EdidParser → Reader (Option EdidParser)) (hp : Matches mem p own none) :
    Matches mem (Edid.andThen p q) own' none := by
  show run mem.cells (Edid.andThen p q) = none
  rw [run_andThen, show run mem.cells p = none from hp]
  rfl

theorem Matches.byte_bind {x : Addr} {i : Nat} {q : UInt8 → Reader (Option EdidParser)} {own : Prop}
    {walk : Option (Nat × List Nat)} (h : Matches mem (q (mem.cells (x.add i))) own walk) :
    Matches mem (byte x i >>= q) ((x.block < 8 ∧ x.offset + i < 128) ∧ own) walk := by
  cases walk with
  | none =>
      show run mem.cells (byte x i >>= q) = none
      rw [run_bind, run_byte]
      exact h
  | some next =>
      obtain ⟨s, hrun, hcount, hreads⟩ := h
      refine ⟨s, by rw [run_bind, run_byte, hrun], hcount, ?_⟩
      rw [onlyReads_bind, onlyReads_byte, run_byte, hreads]
      exact and_assoc.symm

/-! ## Data blocks -/

/-- The parser of data blocks reads what the data block takes, and does with an HF-EEODB what `f` does
with its count. -/
def Follows (mem : Memory) (parseDataBlock : BlockParser) (f : Nat → Option (Nat × List Nat)) :
    Prop :=
  ∀ x s, Matches mem (parseDataBlock x s) (Fits mem x)
    (if IsHfEeodb mem x then f (hfCount mem x) else some (s.mExtensionBlockCount, []))

theorem entries_hfCounts_cons (f : Nat → Option (Nat × List Nat)) (block i : Nat) (is : List Nat)
    (c : Nat) :
    entries f (hfCounts mem block (i :: is)) c =
      (if IsHfEeodb mem ⟨block, i⟩ then f (hfCount mem ⟨block, i⟩) else some (c, [])).bind
        fun r => (entries f (hfCounts mem block is) r.1).map fun r' => (r'.1, r.2 ++ r'.2) := by
  by_cases h : IsHfEeodb mem ⟨block, i⟩
  · have hcons : hfCounts mem block (i :: is) =
        hfCount mem ⟨block, i⟩ :: hfCounts mem block is := by simp [hfCounts, h]
    rw [hcons, entries, if_pos h]
    cases f (hfCount mem ⟨block, i⟩) with
    | none => rfl
    | some r =>
        simp only [Option.bind_some]
        cases entries f (hfCounts mem block is) r.1 <;> rfl
  · have hcons : hfCounts mem block (i :: is) = hfCounts mem block is := by simp [hfCounts, h]
    rw [hcons, if_neg h]
    simp

variable {parseDataBlock : BlockParser} {f : Nat → Option (Nat × List Nat)}

theorem Follows.walk (hP : Follows mem parseDataBlock f) (block offset n i : Nat)
    (s : EdidParser) :
    Matches mem (walk parseDataBlock block offset n i s)
      (∀ j ∈ positions mem block offset n i, Fits mem ⟨block, j⟩)
      (entries f (hfCounts mem block (positions mem block offset n i)) s.mExtensionBlockCount) := by
  induction n generalizing i s with
  | zero => exact ⟨s, rfl, rfl, by simp [positions, Edid.walk]⟩
  | succ n ih =>
      rw [Edid.walk, positions]
      split
      · rw [entries_hfCounts_cons]
        have hblock := hP ⟨block, i⟩ s
        generalize (if IsHfEeodb mem ⟨block, i⟩ then _ else _) = next at hblock ⊢
        cases next with
        | none => exact hblock.andThen_none _
        | some next =>
            have hrest (s' : EdidParser) (hs' : s'.mExtensionBlockCount = next.1) :=
              Matches.byte_bind (x := ⟨block, i⟩) (i := 0)
                (q := fun header => Edid.walk parseDataBlock block offset n
                  (i + ((header &&& 0x1F).toNat + 1)) s')
                (hs' ▸ ih (i + (payload mem ⟨block, i⟩ + 1)) s')
            refine (hblock.andThen hrest).of_iff ?_
            rw [List.forall_mem_cons]
            constructor
            · rintro ⟨hfits, -, htail⟩
              exact ⟨hfits, htail⟩
            · rintro ⟨hfits, htail⟩
              exact ⟨hfits, ⟨hfits.1, Nat.lt_of_le_of_lt (Nat.le_add_right _ _) hfits.2⟩, htail⟩
      · exact ⟨s, rfl, rfl, by simp⟩

/-! ## Extension blocks -/

theorem Follows.extensionBlock (hP : Follows mem parseDataBlock f) (b : Nat) (s : EdidParser) :
    Matches mem (extensionBlock parseDataBlock b s) (BlockFits mem b)
      (entries f (counts mem b) s.mExtensionBlockCount) := by
  have hwalk : Matches mem
      (if mem.cells ⟨b, 1⟩ = 3 then
        Edid.walk parseDataBlock b (mem.cells ⟨b, 2⟩).toNat (mem.cells ⟨b, 2⟩).toNat 4 s
      else pure (some s))
      (∀ i ∈ dataBlocks mem b, Fits mem ⟨b, i⟩)
      (entries f (counts mem b) s.mExtensionBlockCount) := by
    unfold counts dataBlocks
    dsimp only
    split
    · exact hP.walk b _ _ 4 s
    · exact ⟨s, rfl, rfl, by simp⟩
  refine (Matches.byte_bind (x := ⟨b, 0⟩) (i := 1) (Matches.byte_bind (i := 2) hwalk)).of_iff ?_
  unfold BlockFits
  simp

theorem Matches.cons {p : Reader (Option EdidParser)} {own : Prop} {b : Nat}
    {walk : Option (Nat × List Nat)} (h : Matches mem p (BlockFits mem b ∧ own) walk) :
    Matches mem p own (walk.map fun r => (r.1, b :: r.2)) := by
  cases walk with
  | none => exact h
  | some next =>
      obtain ⟨s, hrun, hcount, hreads⟩ := h
      refine ⟨s, hrun, hcount, ?_⟩
      rw [hreads, List.forall_mem_cons]
      tauto

theorem Follows.extensionBlocks (hP : Follows mem parseDataBlock f) (n b : Nat) (s : EdidParser) :
    Matches mem (extensionBlocks parseDataBlock n b s) True
      (blocks (counts mem) f n b s.mExtensionBlockCount) := by
  induction n generalizing b s with
  | zero => exact ⟨s, rfl, rfl, by simp [Edid.extensionBlocks]⟩
  | succ n ih =>
      rw [Edid.extensionBlocks, blocks]
      split
      · have hblock := hP.extensionBlock b s
        generalize entries f (counts mem b) s.mExtensionBlockCount = next at hblock ⊢
        cases next with
        | none => exact hblock.andThen_none _
        | some next =>
            have hrest := (hblock.andThen fun s' hs' => hs' ▸ ih (b + 1) s').cons
            dsimp only
            cases hblocks : blocks (counts mem) f n (b + 1) next.1 with
            | none =>
                rw [hblocks] at hrest
                exact hrest
            | some r =>
                rw [hblocks] at hrest
                exact hrest
      · exact ⟨s, rfl, rfl, by simp⟩

/-- `HfEeodbDataBlock` stops at a count that does not make it walk. -/
theorem stops_iff_not_valid {k : Nat} : (k < 2 ∨ EDID_MAX_BLOCK_COUNT ≤ k) ↔ ¬ Valid k := by
  unfold Valid EDID_MAX_BLOCK_COUNT
  omega

theorem Follows.HfEeodbDataBlock (hP : Follows mem parseDataBlock f) (x : Addr) (s : EdidParser) :
    Matches mem (HfEeodbDataBlock parseDataBlock x s) (x.block < 8 ∧ x.offset + 2 < 128)
      (if Valid (hfCount mem x) then blocks (counts mem) f 254 2 (hfCount mem x)
        else some (hfCount mem x, [])) := by
  let s' : EdidParser := { s with mExtensionBlockCount := hfCount mem x }
  have hwalk : Matches mem
      (if hfCount mem x < 2 ∨ EDID_MAX_BLOCK_COUNT ≤ hfCount mem x then pure (some s')
        else Edid.extensionBlocks parseDataBlock 254 2 s') True
      (if Valid (hfCount mem x) then blocks (counts mem) f 254 2 (hfCount mem x)
        else some (hfCount mem x, [])) := by
    by_cases hvalid : Valid (hfCount mem x)
    · rw [if_pos hvalid, if_neg fun hstop => stops_iff_not_valid.mp hstop hvalid]
      exact hP.extensionBlocks 254 2 s'
    · rw [if_neg hvalid, if_pos (stops_iff_not_valid.mpr hvalid)]
      exact ⟨s', rfl, rfl, by simp⟩
  exact (Matches.byte_bind (i := 2) hwalk).of_iff (by simp)

/-! ## The dispatcher -/

theorem fits_hfEeodb {x : Addr} (h : IsHfEeodb mem x) :
    Fits mem x ↔ x.block < 8 ∧ x.offset + 2 < 128 := by
  have hextent : extent mem x = 2 := by
    rw [extent, h.1]
    show extendedExtent mem x (mem.cells (x.add 1)) = 2
    rw [h.2]
    rfl
  rw [Fits, hextent]

theorem Follows.dispatch {hfEeodb : BlockParser}
    (h : ∀ x s, Matches mem (hfEeodb x s) (x.block < 8 ∧ x.offset + 2 < 128) (f (hfCount mem x))) :
    Follows mem (dispatch hfEeodb) f := by
  intro x s
  by_cases hhf : IsHfEeodb mem x
  · obtain ⟨hrun, hreads⟩ := dispatch_hfEeodb mem hfEeodb s hhf
    rw [if_pos hhf]
    have hcall := h x s
    generalize f (hfCount mem x) = next at hcall ⊢
    cases next with
    | none => exact hrun.trans hcall
    | some next =>
        obtain ⟨s', hrun', hcount, hreads'⟩ := hcall
        refine ⟨s', hrun.trans hrun', hcount, ?_⟩
        rw [hreads, hreads', fits_hfEeodb hhf]
        constructor
        · rintro ⟨-, h⟩
          exact h
        · rintro ⟨h2, h⟩
          exact ⟨by omega, h2, h⟩
  · obtain ⟨⟨s', hrun, hcount⟩, hreads⟩ := dispatch_other mem hfEeodb s hhf
    rw [if_neg hhf]
    exact ⟨s', hrun, hcount, by simp [hreads]⟩

theorem follows_parseCeaDataBlocks (depth : Nat) :
    Follows mem (parseCeaDataBlocks depth) (follow (counts mem) depth) := by
  induction depth with
  | zero => exact Follows.dispatch fun _ _ => rfl
  | succ depth ih => exact Follows.dispatch fun x s => ih.HfEeodbDataBlock x s

end AwHal.Edid

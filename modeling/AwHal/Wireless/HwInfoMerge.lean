import AwHal.Wireless.HwInfo

/-!
# What the merged table holds

The list of the built-in entries and the one of the file are built node by node, joined, and cleared
of every entry that a later one of the same device id follows.  Bus types are not looked at while the
list is cleared, but they are when a module is looked up.
-/

namespace AwHal.Wireless

open AwHal.Lib

variable {heap heap' heap₀ : Heap WifiHardwareInfo} {head cur p : Option Nat}
  {l K R : List (Nat × WifiHardwareInfo)}

/-! ## The entries of a file -/

def readEntry (entries : List WifiHardwareInfo) : Line → List WifiHardwareInfo
  | .session => entries ++ [.zero]
  | .setting node (some conf) =>
      entries.dropLast ++ (entries.getLast?.map fun info => node.set conf info).toList
  | _ => entries

def fileLines : Option (List Char) → List Line
  | none => []
  | some text => (lines text).map parseLine

def fileEntries (file : Option (List Char)) : List WifiHardwareInfo :=
  (fileLines file).foldl readEntry []

/-- A field is set in an entry that was `started`, to a value whose text can be copied. -/
def lineReadable (started : Bool) : Line → Bool
  | .setting _ conf => started && conf.isSome
  | _ => true

/-- No field is set before the first `[module]`, and the text of each value can be copied. -/
def readable : Bool → List Line → Bool
  | _, [] => true
  | started, line :: rest =>
      lineReadable started line && readable (started || decide (line = .session)) rest

/-- The list at `head` is being built, its last entry is at `cur`, and what was on the heap before has
not changed. -/
structure Loading (heap₀ heap : Heap WifiHardwareInfo) (head cur : Option Nat)
    (l : List (Nat × WifiHardwareInfo)) : Prop where
  list : heap.IsList head l
  cur_eq : cur = l.getLast?.map Prod.fst
  new : ∀ a ∈ l.map Prod.fst, heap₀.fresh ≤ a
  old : ∀ a < heap₀.fresh, heap.node a = heap₀.node a
  fresh_le : heap₀.fresh ≤ heap.fresh

theorem Loading.start (heap₀ : Heap WifiHardwareInfo) : Loading heap₀ heap₀ none none [] :=
  ⟨Heap.IsList.nil, rfl, by simp, fun _ _ => rfl, Nat.le_refl _⟩

theorem Loading.pushBack (h : Loading heap₀ heap head cur l) (info : WifiHardwareInfo) :
    ∃ heap' head', heap.pushBack info head = some (heap', head') ∧
      Loading heap₀ heap' head' (some heap.fresh) (l ++ [(heap.fresh, info)]) := by
  obtain ⟨heap', head', heq, hlist, hfresh, hframe⟩ := h.list.pushBack info
  have hle := h.fresh_le
  refine ⟨heap', head', heq, hlist, by simp, ?_, ?_, by omega⟩
  · intro a ha
    rw [List.map_append, List.mem_append] at ha
    rcases ha with ha | ha
    · exact h.new a ha
    · simp at ha
      omega
  · intro a ha
    rw [hframe a _ (by omega), h.old a ha]
    intro hmem
    have := h.new a hmem
    omega

theorem Loading.setItem {a : Nat} {info : WifiHardwareInfo}
    (h : Loading heap₀ heap head cur (l ++ [(a, info)])) (f : WifiHardwareInfo → WifiHardwareInfo) :
    ∃ heap', heap.setItem a f = some heap' ∧
      Loading heap₀ heap' head cur (l ++ [(a, f info)]) := by
  obtain ⟨q, _, hlast⟩ := Heap.seg_append.mp h.list.seg
  rw [Heap.seg_singleton] at hlast
  have haddr : (l ++ [(a, f info)]).map Prod.fst = (l ++ [(a, info)]).map Prod.fst := by simp
  have hnot : a ∉ l.map Prod.fst := h.list.last_not_mem
  refine ⟨heap.put a ⟨f info, none⟩, by simp [Heap.setItem, hlast.2], ?_, ?_, ?_, ?_, h.fresh_le⟩
  · refine ⟨h.list.seg.put_last hnot _ none, ?_, ?_⟩
    · rw [haddr]
      exact h.list.nodup
    · rw [haddr]
      exact h.list.lt
  · rw [h.cur_eq]
    simp
  · rw [haddr]
    exact h.new
  · intro b hb
    rw [Heap.node_put_of_ne, h.old b hb]
    have := h.new a (by simp)
    omega

theorem loadLine_setting {a : Nat} {node : MatchNode} {conf : List Char}
    (h : heap.setItem a (fun info => node.set conf info) = some heap') :
    loadLine ((heap, head), some a) (.setting node (some conf)) = some ((heap', head), some a) := by
  simp [loadLine, h]

theorem Loading.readLine (h : Loading heap₀ heap head cur l) {line : Line}
    (hread : lineReadable (decide (l ≠ [])) line = true) :
    ∃ heap' head' cur' l', loadLine ((heap, head), cur) line = some ((heap', head'), cur') ∧
      Loading heap₀ heap' head' cur' l' ∧ l'.map Prod.snd = readEntry (l.map Prod.snd) line ∧
      decide (l' ≠ []) = (decide (l ≠ []) || decide (line = .session)) := by
  cases line with
  | session =>
      obtain ⟨heap', head', heq, hnew⟩ := h.pushBack .zero
      refine ⟨heap', head', _, _, ?_, hnew, by simp [readEntry], by simp⟩
      simp [loadLine, heq]
  | setting node conf =>
      simp only [lineReadable, Bool.and_eq_true, decide_eq_true_eq] at hread
      obtain ⟨conf, rfl⟩ := Option.isSome_iff_exists.mp hread.2
      obtain ⟨l, y, rfl⟩ := (List.eq_nil_or_concat l).resolve_left hread.1
      rw [List.concat_eq_append] at *
      obtain ⟨heap', heq, hnew⟩ := h.setItem fun info => node.set conf info
      have hcur : cur = some y.1 := by
        rw [h.cur_eq]
        simp
      refine ⟨heap', head, cur, _, ?_, hnew, by simp [readEntry], by simp⟩
      rw [hcur]
      exact loadLine_setting heq
  | other => exact ⟨heap, head, cur, l, rfl, h, rfl, by simp⟩

/-- A field set without an entry, or a value that does not fit, stops the load. -/
theorem Loading.readLine_eq_none (h : Loading heap₀ heap head cur l) {line : Line}
    (hread : lineReadable (decide (l ≠ [])) line = false) :
    loadLine ((heap, head), cur) line = none := by
  cases line with
  | session => cases hread
  | other => cases hread
  | setting node conf =>
      cases conf with
      | none => rfl
      | some conf =>
          have hl : l = [] := by simpa [lineReadable] using hread
          have hcur : cur = none := by
            rw [h.cur_eq, hl]
            rfl
          simp [loadLine, hcur]

theorem Loading.readLines (h : Loading heap₀ heap head cur l) {lines : List Line}
    (hread : readable (decide (l ≠ [])) lines = true) :
    ∃ heap' head' cur' l', lines.foldlM loadLine ((heap, head), cur) = some ((heap', head'), cur') ∧
      Loading heap₀ heap' head' cur' l' ∧
      l'.map Prod.snd = lines.foldl readEntry (l.map Prod.snd) := by
  induction lines generalizing heap head cur l with
  | nil => exact ⟨heap, head, cur, l, rfl, h, rfl⟩
  | cons line rest ih =>
      rw [readable, Bool.and_eq_true] at hread
      obtain ⟨heap', head', cur', l', heq, hnew, hitems, hstarted⟩ := h.readLine hread.1
      rw [← hstarted] at hread
      obtain ⟨heap'', head'', cur'', l'', heq', hnew', hitems'⟩ := ih hnew hread.2
      refine ⟨heap'', head'', cur'', l'', ?_, hnew', ?_⟩
      · rw [List.foldlM_cons, heq]
        exact heq'
      · rw [hitems', hitems]
        rfl

theorem Loading.readLines_eq_none (h : Loading heap₀ heap head cur l) {lines : List Line}
    (hread : readable (decide (l ≠ [])) lines = false) :
    lines.foldlM loadLine ((heap, head), cur) = none := by
  induction lines generalizing heap head cur l with
  | nil => cases hread
  | cons line rest ih =>
      rw [readable, Bool.and_eq_false_iff] at hread
      rw [List.foldlM_cons]
      cases hline : lineReadable (decide (l ≠ [])) line with
      | false =>
          rw [h.readLine_eq_none hline]
          rfl
      | true =>
          obtain ⟨heap', head', cur', l', heq, hnew, _, hstarted⟩ := h.readLine hline
          rw [← hstarted, hline] at hread
          rw [heq]
          exact ih hnew (hread.resolve_left Bool.noConfusion)

theorem load_config_from_file_of_readable (heap : Heap WifiHardwareInfo)
    {file : Option (List Char)} (hread : readable false (fileLines file) = true) :
    ∃ heap' h2 cur l, load_config_from_file heap file = some (heap', h2) ∧
      Loading heap heap' h2 cur l ∧ l.map Prod.snd = fileEntries file := by
  cases file with
  | none => exact ⟨heap, none, none, [], rfl, Loading.start heap, rfl⟩
  | some text =>
      obtain ⟨heap', h2, cur, l, heq, hnew, hitems⟩ := (Loading.start heap).readLines hread
      refine ⟨heap', h2, cur, l, ?_, hnew, hitems⟩
      rw [fileLines] at heq
      simp [load_config_from_file, heq]

theorem load_config_from_file_eq_none (heap : Heap WifiHardwareInfo) {file : Option (List Char)}
    (hread : readable false (fileLines file) = false) : load_config_from_file heap file = none := by
  cases file with
  | none => cases hread
  | some text =>
      have hnone := (Loading.start heap).readLines_eq_none hread
      rw [fileLines] at hnone
      simp [load_config_from_file, hnone]

/-! ## The two lists in one -/

theorem Loading.load_config_from_local (h : Loading heap₀ heap head cur l)
    (list : List WifiHardwareInfo) :
    ∃ heap' head' cur' l', load_config_from_local list (heap, head) = some (heap', head') ∧
      Loading heap₀ heap' head' cur' l' ∧ l'.map Prod.snd = l.map Prod.snd ++ list := by
  induction list generalizing heap head cur l with
  | nil => exact ⟨heap, head, cur, l, rfl, h, by simp⟩
  | cons info list ih =>
      obtain ⟨heap', head', heq, hnew⟩ := h.pushBack info
      obtain ⟨heap'', head'', cur'', l'', heq', hnew', hitems⟩ := ih hnew
      refine ⟨heap'', head'', cur'', l'', ?_, hnew', ?_⟩
      · unfold Wireless.load_config_from_local at heq' ⊢
        rw [List.foldlM_cons, heq]
        exact heq'
      · rw [hitems]
        simp

theorem joinLists_spec {h1 h2 : Option Nat} {L F : List (Nat × WifiHardwareInfo)}
    (hL : heap.IsList h1 L) (hF : heap.IsList h2 F)
    (hdisj : List.Disjoint (L.map Prod.fst) (F.map Prod.fst)) :
    ∃ heap' head', joinLists heap h1 h2 = some (heap', head') ∧ heap'.IsList head' (L ++ F) := by
  have hnodup : ((L ++ F).map Prod.fst).Nodup := by
    rw [List.map_append]
    exact List.Nodup.append hL.nodup hF.nodup hdisj
  have hlt : ∀ a ∈ (L ++ F).map Prod.fst, a < heap.fresh := by
    intro a ha
    rw [List.map_append, List.mem_append] at ha
    exact ha.elim (hL.lt a) (hF.lt a)
  rcases List.eq_nil_or_concat L with rfl | ⟨L, y, rfl⟩
  · have hnull : h1 = none := hL.seg
    subst hnull
    exact ⟨heap, h2, rfl, hF⟩
  · rw [List.concat_eq_append] at *
    obtain ⟨a, rfl⟩ := hL.head_eq_some (by simp)
    have hlast : heap.last heap.fresh a = some y.1 := by
      have hlength := hL.length_le
      apply hL.seg.last_eq
      rw [List.length_append, List.length_singleton] at hlength
      omega
    obtain ⟨next, hnode⟩ := hL.seg.node_eq (List.mem_append_right L (List.mem_singleton_self (y.1, y.2)))
    refine ⟨heap.put y.1 ⟨y.2, h2⟩, some a, ?_, ⟨?_, hnodup, hlt⟩⟩
    · simp [joinLists, hlast, Heap.setNext_eq hnode]
    · rw [Heap.seg_append]
      refine ⟨h2, hL.seg.put_last hL.last_not_mem y.2 h2, ?_⟩
      apply hF.seg.put
      exact fun hmem => hdisj (by simp) hmem

/-! ## The merge -/

def DiffersFrom (x y : WifiHardwareInfo) : Prop := x.device_id ≠ y.device_id

instance : DecidableRel DiffersFrom := fun x y => inferInstanceAs (Decidable (x.device_id ≠ y.device_id))

/-- The entries that no later one of the same device id follows. -/
def lastOfEach (entries : List WifiHardwareInfo) : List WifiHardwareInfo :=
  entries.pwFilter DiffersFrom

theorem forall_mem_lastOfEach (x : WifiHardwareInfo) (entries : List WifiHardwareInfo) :
    (∀ y ∈ lastOfEach entries, DiffersFrom x y) ↔ ∀ y ∈ entries, DiffersFrom x y := by
  apply List.forall_mem_pwFilter
  intro x y z hxz
  by_cases hxy : x.device_id = y.device_id
  · exact .inr fun hyz => hxz (hxy.trans hyz)
  · exact .inl hxy

theorem lastOfEach_cons_of_differs {x : WifiHardwareInfo} {entries : List WifiHardwareInfo}
    (h : ∀ y ∈ entries, DiffersFrom x y) : lastOfEach (x :: entries) = x :: lastOfEach entries :=
  List.pwFilter_cons_of_pos ((forall_mem_lastOfEach x entries).mpr h)

theorem lastOfEach_cons_of_repeated {x y : WifiHardwareInfo} {entries : List WifiHardwareInfo}
    (hy : y ∈ entries) (hid : x.device_id = y.device_id) :
    lastOfEach (x :: entries) = lastOfEach entries := by
  apply List.pwFilter_cons_of_neg
  intro h
  exact (forall_mem_lastOfEach x entries).mp h y hy hid

/-- Before a pass, the nodes of `K` have been kept and those of `R` are still to be looked at. -/
structure Merging (c : Cursors) (K R : List (Nat × WifiHardwareInfo)) : Prop where
  kept : c.heap.Seg c.head K c.p1
  rest : c.heap.Seg c.p1 R none
  same : c.h2 = c.p1
  trailing : ∀ K' y, K = K' ++ [y] → c.h1 = some y.1
  nodup : ((K ++ R).map Prod.fst).Nodup
  lt : ∀ a ∈ (K ++ R).map Prod.fst, a < c.heap.fresh

variable {c : Cursors} {x : Nat × WifiHardwareInfo} {next : Option Nat}

theorem Merging.isList (h : Merging c K R) : c.heap.IsList c.head (K ++ R) :=
  ⟨Heap.seg_append.mpr ⟨c.p1, h.kept, h.rest⟩, h.nodup, h.lt⟩

theorem Merging.not_mem (h : Merging c K (x :: R)) :
    x.1 ∉ K.map Prod.fst ∧ x.1 ∉ R.map Prod.fst := by
  have hnodup := h.nodup
  rw [List.map_append, List.map_cons] at hnodup
  constructor
  · intro hmem
    exact (List.disjoint_of_nodup_append hnodup) hmem List.mem_cons_self
  · exact (List.nodup_cons.mp (List.nodup_append.mp hnodup).2.1).1

/-- The pass goes on behind a node that stays. -/
theorem Merging.keep (h : Merging c K (x :: R)) (hnode : c.heap.node x.1 = some ⟨x.2, next⟩)
    (hrest : c.heap.Seg next R none) :
    Merging { c with p1 := next, h1 := c.h2, h2 := next } (K ++ [x]) R := by
  have hp1 : c.p1 = some x.1 := h.rest.1
  refine ⟨?_, hrest, rfl, ?_, ?_, ?_⟩
  · rw [Heap.seg_append]
    exact ⟨c.p1, h.kept, Heap.seg_singleton.mpr ⟨hp1, hnode⟩⟩
  · intro K' y heq
    obtain ⟨_, hy⟩ := List.append_inj' heq rfl
    cases hy
    show c.h2 = some x.1
    rw [h.same, hp1]
  · rw [List.append_assoc]
    exact h.nodup
  · rw [List.append_assoc]
    exact h.lt

theorem Merging.without (h : Merging c K (x :: R)) :
    ((K ++ R).map Prod.fst).Nodup ∧ ∀ a ∈ (K ++ R).map Prod.fst, a < c.heap.fresh := by
  have hsub : ((K ++ R).map Prod.fst).Sublist ((K ++ x :: R).map Prod.fst) :=
    (List.Sublist.append_left (List.sublist_cons_self x R) K).map Prod.fst
  exact ⟨h.nodup.sublist hsub, fun a ha => h.lt a (hsub.subset ha)⟩

theorem Merging.delete_head (h : Merging c [] (x :: R)) (hrest : c.heap.Seg next R none)
    (hnode : c.heap.node x.1 = some ⟨x.2, next⟩) :
    ∃ c', deleteNode c next = some c' ∧ Merging c' [] R := by
  have hp1 : c.p1 = some x.1 := h.rest.1
  have hh2 : c.h2 = some x.1 := h.same.trans hp1
  have hhead : c.head = some x.1 := (show c.head = c.p1 from h.kept).trans hp1
  obtain ⟨hnodup, hlt⟩ := h.without
  have hdelete : deleteNode c next = some ⟨c.heap.clear x.1, next, next, next, next⟩ := by
    simp [deleteNode, hh2, hhead, Heap.free_eq hnode]
  refine ⟨_, hdelete, rfl, hrest.clear h.not_mem.2, rfl, ?_, hnodup, hlt⟩
  intro K' y heq
  cases K' <;> cases heq

theorem Merging.delete_next {y : Nat × WifiHardwareInfo} (h : Merging c (K ++ [y]) (x :: R))
    (hrest : c.heap.Seg next R none) (hnode : c.heap.node x.1 = some ⟨x.2, next⟩) :
    ∃ c', deleteNode c next = some c' ∧ Merging c' (K ++ [y]) R := by
  have hp1 : c.p1 = some x.1 := h.rest.1
  have hh2 : c.h2 = some x.1 := h.same.trans hp1
  have hh1 : c.h1 = some y.1 := h.trailing K y rfl
  have hx := h.not_mem
  have hdisj : List.Disjoint ((K ++ [y]).map Prod.fst) ((x :: R).map Prod.fst) := by
    have hnodup := h.nodup
    rw [List.map_append] at hnodup
    exact List.disjoint_of_nodup_append hnodup
  have hy : y.1 ∉ K.map Prod.fst := by
    have hnodup := h.nodup
    rw [List.map_append, List.map_append] at hnodup
    exact fun hmem => (List.disjoint_of_nodup_append (List.nodup_append.mp hnodup).1) hmem (by simp)
  have hyR : y.1 ∉ (x :: R).map Prod.fst := fun hmem => hdisj (by simp) hmem
  have hxy : x.1 ≠ y.1 := fun heq => hyR (by simp [heq])
  have hne : some x.1 ≠ c.head := by
    intro heq
    have hkept := h.kept
    rw [← heq] at hkept
    cases K with
    | nil => exact hxy (Option.some.inj hkept.1)
    | cons z K => exact hx.1 (by simp [Option.some.inj hkept.1])
  obtain ⟨q, hynode⟩ := h.kept.node_eq (List.mem_append_right K (List.mem_singleton_self (y.1, y.2)))
  -- the list without `x`, which is still on the heap
  let heap₁ := c.heap.put y.1 ⟨y.2, next⟩
  have hnode₁ : heap₁.node x.1 = some ⟨x.2, next⟩ := (Heap.node_put_of_ne hxy _).trans hnode
  have hkept₁ : heap₁.Seg c.head (K ++ [y]) next := h.kept.put_last hy y.2 next
  have hrest₁ : heap₁.Seg next R none :=
    hrest.put (fun hmem => hyR (List.mem_cons_of_mem _ hmem)) _
  have hdelete : deleteNode c next = some ⟨heap₁.clear x.1, c.head, next, c.h1, next⟩ := by
    have hfree := Heap.free_eq hnode₁
    simp [deleteNode, hh2, hh1, hne, Heap.setNext_eq hynode next, heap₁, hfree]
  obtain ⟨hnodup, hlt⟩ := h.without
  exact ⟨_, hdelete, hkept₁.clear hx.1, hrest₁.clear hx.2, rfl, h.trailing, hnodup, hlt⟩

theorem Merging.delete (h : Merging c K (x :: R)) (hrest : c.heap.Seg next R none)
    (hnode : c.heap.node x.1 = some ⟨x.2, next⟩) :
    ∃ c', deleteNode c next = some c' ∧ Merging c' K R := by
  rcases List.eq_nil_or_concat K with rfl | ⟨K, y, rfl⟩
  · exact h.delete_head hrest hnode
  · rw [List.concat_eq_append] at *
    exact h.delete_next hrest hnode

theorem differsFrom_of_find? {x : Nat × WifiHardwareInfo}
    (hfind : R.find? (fun y => x.2.device_id == y.2.device_id) = none) :
    ∀ y ∈ R.map Prod.snd, DiffersFrom x.2 y := by
  intro y hy
  obtain ⟨z, hz, rfl⟩ := List.mem_map.mp hy
  show x.2.device_id ≠ z.2.device_id
  simpa using List.find?_eq_none.mp hfind z hz

/-- The loop ends, and keeps the last entry of each device id, in order. -/
theorem Merging.loop (h : Merging c K R) {fuel : Nat} (hfuel : R.length < fuel) :
    ∃ heap' head' l, mergeLoop fuel c = some (heap', head') ∧ heap'.IsList head' l ∧
      l.map Prod.snd = K.map Prod.snd ++ lastOfEach (R.map Prod.snd) := by
  induction R generalizing c K fuel with
  | nil =>
      obtain ⟨fuel, rfl⟩ : ∃ n, fuel = n + 1 := ⟨fuel - 1, by simp at hfuel; omega⟩
      have hp1 : c.p1 = none := h.rest
      refine ⟨c.heap, c.head, K ++ [], ?_, h.isList, by simp [lastOfEach]⟩
      simp [mergeLoop, hp1]
  | cons x R ih =>
      obtain ⟨fuel, rfl⟩ : ∃ n, fuel = n + 1 := ⟨fuel - 1, by omega⟩
      rw [List.length_cons] at hfuel
      obtain ⟨hp1, next, hnode, hrest⟩ := h.rest
      cases next with
      | none =>
          -- the last node of the list
          have hR : R = [] := by
            cases R with
            | nil => rfl
            | cons y R => cases hrest.1
          subst hR
          have hone : lastOfEach [x.2] = [x.2] := lastOfEach_cons_of_differs (by simp)
          refine ⟨c.heap, c.head, K ++ [x], ?_, h.isList, by simp [hone]⟩
          simp [mergeLoop, hp1, hnode]
      | some b =>
          have hlength : R.length ≤ c.heap.fresh := by
            have hle := h.isList.length_le
            rw [List.length_append, List.length_cons] at hle
            omega
          have hsearch := hrest.search_eq (P := fun info => x.2.device_id == info.device_id) hlength
          cases hfind : R.find? fun y => x.2.device_id == y.2.device_id with
          | some y =>
              have hy := List.mem_of_find?_eq_some hfind
              have hid : x.2.device_id = y.2.device_id := by simpa using List.find?_some hfind
              obtain ⟨c', hdelete, hmerging⟩ := h.delete hrest hnode
              obtain ⟨heap', head', l, hloop, hlist, hitems⟩ := ih hmerging (by omega : _ < fuel)
              refine ⟨heap', head', l, ?_, hlist, ?_⟩
              · simp [mergeLoop, hp1, hnode, hsearch, hfind, hdelete, hloop]
              · rw [hitems, List.map_cons,
                  lastOfEach_cons_of_repeated (List.mem_map_of_mem hy) hid]
          | none =>
              have hmerging := h.keep hnode hrest
              obtain ⟨heap', head', l, hloop, hlist, hitems⟩ := ih hmerging (by omega : _ < fuel)
              refine ⟨heap', head', l, ?_, hlist, ?_⟩
              · simp [mergeLoop, hp1, hnode, hsearch, hfind, hloop]
              · rw [hitems, List.map_cons,
                  lastOfEach_cons_of_differs (differsFrom_of_find? hfind)]
                simp

theorem mergeLists_spec (h : heap.IsList head l) :
    ∃ heap' head' l', mergeLists heap head = some (heap', head') ∧ heap'.IsList head' l' ∧
      l'.map Prod.snd = lastOfEach (l.map Prod.snd) := by
  have hmerging : Merging ⟨heap, head, head, head, head⟩ [] l := by
    refine ⟨rfl, h.seg, rfl, ?_, h.nodup, h.lt⟩
    intro K' y heq
    cases K' <;> cases heq
  have hlength := h.length_le
  exact hmerging.loop (by omega)

/-! ## Looking a module up -/

def Matches (bus_type device_id : Nat) (info : WifiHardwareInfo) : Bool :=
  info.bus_type == bus_type && info.device_id == device_id

def lastEntry (entries : List WifiHardwareInfo) (bus_type device_id : Nat) :
    Option WifiHardwareInfo :=
  entries.reverse.find? (Matches bus_type device_id)

theorem lastEntry_cons (x : WifiHardwareInfo) (entries : List WifiHardwareInfo)
    (bus_type device_id : Nat) :
    lastEntry (x :: entries) bus_type device_id =
      (lastEntry entries bus_type device_id).or
        (if Matches bus_type device_id x then some x else none) := by
  simp only [lastEntry, List.reverse_cons, List.find?_append, List.find?_singleton]

theorem get_hardware_info_by_device_id_eq (h : heap.IsList head l) (bus_type device_id : Nat) :
    get_hardware_info_by_device_id (heap, head) bus_type device_id =
      some ((l.map Prod.snd).find? (Matches bus_type device_id)) := by
  have hsearch := h.seg.search_eq (P := Matches bus_type device_id) h.length_le
  have hsearch : heap.search (fun info => info.bus_type == bus_type && info.device_id == device_id)
    heap.fresh head = _ := hsearch
  unfold get_hardware_info_by_device_id
  rw [hsearch, List.find?_map]
  change _ = some (Option.map Prod.snd (l.find? fun x => Matches bus_type device_id x.2))
  cases hfind : l.find? fun x => Matches bus_type device_id x.2 with
  | none => rfl
  | some x =>
      obtain ⟨next, hnode⟩ := h.seg.node_eq (List.mem_of_find?_eq_some hfind)
      simp [hnode]

/-- A device id has one bus type. -/
def OneBus (entries : List WifiHardwareInfo) : Prop :=
  ∀ x ∈ entries, ∀ y ∈ entries, x.device_id = y.device_id → x.bus_type = y.bus_type

theorem lastEntry_of_differs {entries : List WifiHardwareInfo} {x : WifiHardwareInfo}
    {bus_type device_id : Nat} (hdiffers : ∀ y ∈ entries, DiffersFrom x y)
    (hmatch : Matches bus_type device_id x = true) : lastEntry entries bus_type device_id = none := by
  simp only [lastEntry, List.find?_eq_none, List.mem_reverse]
  intro y hy hy'
  simp only [Matches, Bool.and_eq_true, beq_iff_eq] at hmatch hy'
  exact hdiffers y hy (hmatch.2.trans hy'.2.symm)

theorem lastEntry_of_repeated {entries : List WifiHardwareInfo} {x y : WifiHardwareInfo}
    {bus_type device_id : Nat} (hy : y ∈ entries) (hid : x.device_id = y.device_id)
    (hbus : x.bus_type = y.bus_type) (hmatch : Matches bus_type device_id x = true) :
    ∃ z, lastEntry entries bus_type device_id = some z := by
  apply Option.isSome_iff_exists.mp
  simp only [lastEntry, List.find?_isSome, List.mem_reverse]
  refine ⟨y, hy, ?_⟩
  simp only [Matches, Bool.and_eq_true, beq_iff_eq] at hmatch ⊢
  exact ⟨hbus.symm.trans hmatch.1, hid.symm.trans hmatch.2⟩

theorem find?_lastOfEach {entries : List WifiHardwareInfo} (h : OneBus entries)
    (bus_type device_id : Nat) :
    (lastOfEach entries).find? (Matches bus_type device_id) =
      lastEntry entries bus_type device_id := by
  induction entries with
  | nil => rfl
  | cons x entries ih =>
      have hrest : OneBus entries := fun y hy z hz =>
        h y (List.mem_cons_of_mem _ hy) z (List.mem_cons_of_mem _ hz)
      rw [lastEntry_cons]
      by_cases hdiffers : ∀ y ∈ entries, DiffersFrom x y
      · rw [lastOfEach_cons_of_differs hdiffers, List.find?_cons]
        cases hmatch : Matches bus_type device_id x with
        | false => simp [ih hrest]
        | true => simp [lastEntry_of_differs hdiffers hmatch]
      · simp only [not_forall] at hdiffers
        obtain ⟨y, hy, hid⟩ := hdiffers
        have hid : x.device_id = y.device_id := not_not.mp hid
        rw [lastOfEach_cons_of_repeated hy hid, ih hrest]
        cases hmatch : Matches bus_type device_id x with
        | false => simp
        | true =>
            -- the later entry has the bus type of `x` too
            have hbus := h x List.mem_cons_self y (List.mem_cons_of_mem _ hy) hid
            obtain ⟨z, hz⟩ := lastEntry_of_repeated hy hid hbus hmatch
            simp [hz]

theorem mem_lastOfEach {entries : List WifiHardwareInfo} {x y : WifiHardwareInfo}
    (hx : x ∈ lastOfEach entries) (hy : y ∈ lastOfEach entries) (hid : x.device_id = y.device_id) :
    x = y := by
  have hpairwise := List.pairwise_pwFilter (R := DiffersFrom) entries
  by_contra hne
  have hsymm : Std.Symm DiffersFrom := ⟨fun _ _ h heq => h heq.symm⟩
  exact hpairwise.forall hx hy hne hid

/-- The bus types that the lookups find are those of the entries that stay. -/
theorem oneBus_of_find? {entries : List WifiHardwareInfo}
    (h : ∀ bus_type device_id, (lastOfEach entries).find? (Matches bus_type device_id) =
      lastEntry entries bus_type device_id) : OneBus entries := by
  -- every entry's own lookup is answered by an entry that stays
  have hkept : ∀ x ∈ entries, ∃ z ∈ lastOfEach entries,
      z.bus_type = x.bus_type ∧ z.device_id = x.device_id := by
    intro x hx
    have hsome : (lastEntry entries x.bus_type x.device_id).isSome := by
      simp only [lastEntry, List.find?_isSome, List.mem_reverse]
      exact ⟨x, hx, by simp [Matches]⟩
    rw [← h, List.find?_isSome] at hsome
    obtain ⟨z, hz, hmatch⟩ := hsome
    simp only [Matches, Bool.and_eq_true, beq_iff_eq] at hmatch
    exact ⟨z, hz, hmatch⟩
  intro x hx y hy hid
  obtain ⟨z, hz, hzbus, hzid⟩ := hkept x hx
  obtain ⟨w, hw, hwbus, hwid⟩ := hkept y hy
  have heq : z = w := mem_lastOfEach hz hw (by rw [hzid, hwid, hid])
  rw [← hzbus, heq, hwbus]

/-! ## The whole table -/

def sequence (WIFI_USE_RTL8723BS_VQ0 : Bool) (file : Option (List Char)) :
    List WifiHardwareInfo :=
  wifi_list WIFI_USE_RTL8723BS_VQ0 ++ fileEntries file

theorem load_merged_config_of_readable (vq0 : Bool) {file : Option (List Char)}
    (hread : readable false (fileLines file) = true) :
    ∃ heap head l, load_merged_config vq0 file = some (heap, head) ∧ heap.IsList head l ∧
      l.map Prod.snd = lastOfEach (sequence vq0 file) := by
  obtain ⟨heap₁, h1, _, L, hlocal, hL, hLitems⟩ :=
    (Loading.start Heap.empty).load_config_from_local (wifi_list vq0)
  obtain ⟨heap₂, h2, _, F, hfile, hF, hFitems⟩ := load_config_from_file_of_readable heap₁ hread
  have hdisj : List.Disjoint (L.map Prod.fst) (F.map Prod.fst) := by
    intro a haL haF
    have hlt := hL.list.lt a haL
    have hge := hF.new a haF
    omega
  have hL₂ : heap₂.IsList h1 L := by
    refine ⟨hL.list.seg.congr ?_, hL.list.nodup, ?_⟩
    · intro a ha
      exact hF.old a (hL.list.lt a ha)
    · intro a ha
      exact Nat.lt_of_lt_of_le (hL.list.lt a ha) hF.fresh_le
  obtain ⟨heap₃, head, hjoin, hlist⟩ := joinLists_spec hL₂ hF.list hdisj
  obtain ⟨heap', head', l, hmerge, hlist', hitems⟩ := mergeLists_spec hlist
  refine ⟨heap', head', l, ?_, hlist', ?_⟩
  · simp [load_merged_config, hlocal, hfile, hjoin, hmerge]
  · rw [hitems, List.map_append, hLitems, hFitems]
    rfl

theorem load_merged_config_eq_none (vq0 : Bool) {file : Option (List Char)}
    (hread : readable false (fileLines file) = false) : load_merged_config vq0 file = none := by
  obtain ⟨heap₁, h1, _, L, hlocal, _⟩ :=
    (Loading.start Heap.empty).load_config_from_local (wifi_list vq0)
  simp [load_merged_config, hlocal, load_config_from_file_eq_none heap₁ hread]

/-- The merge ends with a list of nodes none of which was freed, and every lookup in it answers with
the last entry of that bus type and device id. -/
def Merged (vq0 : Bool) (file : Option (List Char)) : Prop :=
  ∃ table, load_merged_config vq0 file = some table ∧ (∃ l, table.1.IsList table.2 l) ∧
    ∀ bus_type device_id, get_hardware_info_by_device_id table bus_type device_id =
      some (lastEntry (sequence vq0 file) bus_type device_id)

theorem merged_iff_of_readable (vq0 : Bool) {file : Option (List Char)}
    (hread : readable false (fileLines file) = true) :
    Merged vq0 file ↔ OneBus (sequence vq0 file) := by
  obtain ⟨heap, head, l, hload, hlist, hitems⟩ := load_merged_config_of_readable vq0 hread
  have hlookup := get_hardware_info_by_device_id_eq hlist
  rw [hitems] at hlookup
  constructor
  · rintro ⟨table, hload', _, hall⟩
    cases hload.symm.trans hload'
    apply oneBus_of_find?
    intro bus_type device_id
    exact Option.some.inj ((hlookup bus_type device_id).symm.trans (hall bus_type device_id))
  · intro hone
    refine ⟨(heap, head), hload, ⟨l, hlist⟩, ?_⟩
    intro bus_type device_id
    rw [hlookup, find?_lastOfEach hone]

/-- The table is as it should be exactly when the file can be read and no device id, of the built-in
entries and those of the file, has two bus types. -/
theorem merged_iff (WIFI_USE_RTL8723BS_VQ0 : Bool) (file : Option (List Char)) :
    Merged WIFI_USE_RTL8723BS_VQ0 file ↔
      readable false (fileLines file) = true ∧ OneBus (sequence WIFI_USE_RTL8723BS_VQ0 file) := by
  cases hread : readable false (fileLines file) with
  | true => simp [merged_iff_of_readable WIFI_USE_RTL8723BS_VQ0 hread]
  | false =>
      simp only [Bool.false_eq_true, false_and, iff_false]
      rintro ⟨table, hload, _⟩
      rw [load_merged_config_eq_none WIFI_USE_RTL8723BS_VQ0 hread] at hload
      cases hload

def usbTwin : Option (List Char) :=
  some "[module]\nbus_type = 0x0\ndevice_id = 0x024c8179\n".toList

/-- With that file the built-in module is not found any more. -/
theorem not_merged_usbTwin : ¬ ∀ file, Merged false file := by
  intro h
  have hread : readable false (fileLines usbTwin) = true := by decide +kernel
  have hone := (merged_iff_of_readable false hread).mp (h usbTwin)
  have hbus := hone (wifi 0x1 0x024c8179 "rtl8189es" "8189es" "8189es" "realtek" 0)
    (by decide +kernel) { WifiHardwareInfo.zero with device_id := 0x024c8179 } (by decide +kernel) rfl
  revert hbus
  decide

end AwHal.Wireless

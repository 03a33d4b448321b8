import H265Dec.PictureData

/-!
# The reference set resolver

The two loops of `gst_h265_dec_start_picture` that fill the reference part of the picture
data.

* `fillRefPics`, the reference-frame loop, puts each DPB picture marked reference into the
  next slot of `RefPics` / `PicOrderCntVal` / `IsLongTerm`, and fails on a seventeenth.
  **`fillRefPics_run`**: from a table holding `done`, it fails exactly when `done` and the
  references of the DPB do not fit in 16 slots, and otherwise leaves the table holding
  `done` followed by the references in scan order, with the later slots untouched.
* A classification pass runs `i` over the table's slots; at each it scans the list forward
  past null entries (`nextRefPic`), and writes `RefPicSet<kind>[i] = k` for the first slot
  `k` with the picture's POC (`findSlot`). `classifyWrites` lists those writes, and
  **`classifyWrites_eq`** gives them in closed form: write `i` belongs to the `i`-th
  non-null entry, for `i` below the number of slots, when its POC is in the table.

**Where the writes land.** Nothing bounds `i` by 8, the length of the `int8_t` arrays. The
struct lays the three arrays out back to back, so index `i` of the array of `kind` is byte
`kind.base + i` of the 24 bytes they span, and the bytes after them are `ProfileLevel` and
the one-byte fields that follow it (`storeRefPicSet`). A pass that runs past its array
writes into the next one, and the last pass into `ProfileLevel` and after.

**Abstract model.** `resolveSpec` is the resolver stated over lists: the table is the DPB's
references, and position `j` of a list names the first reference with the POC of the list's
`j`-th picture (`resolvedSlot`). **`resolveReferences_refines`**: from a zeroed literal, the
loops succeed exactly when `resolveSpec` does, and their picture data then presents its
resolution through the layout: each position holds what the last pass to write its byte
wrote there (`Resolution.lastAt`), which is the list's own slot whenever no list resolves a
position past its array (`Resolution.Fits`).
-/

namespace H265Dec

/-! ## The reference-frame loop -/

/-- The reference-frame loop: returns the flow, the picture data and `num_ref_pic`. -/
def fillRefPics (h265 : VkParserHevcPictureData) (num_ref_pic : Nat) :
    List GstH265Picture → GstFlowReturn × VkParserHevcPictureData × Nat
  | [] => (.ok, h265, num_ref_pic)
  | other :: rest =>
    if !other.ref then fillRefPics h265 num_ref_pic rest
    else if h : num_ref_pic < 16 then
      fillRefPics { h265 with
        RefPics := Function.update h265.RefPics ⟨num_ref_pic, h⟩ other.pic
        PicOrderCntVal := Function.update h265.PicOrderCntVal ⟨num_ref_pic, h⟩ other.pic_order_cnt
        IsLongTerm := Function.update h265.IsLongTerm ⟨num_ref_pic, h⟩ other.long_term }
        (num_ref_pic + 1) rest
    else (.error, h265, num_ref_pic)

/-- The first `l.length` slots of the table hold the pictures of `l`, in order. -/
def HoldsRefs (h265 : VkParserHevcPictureData) (l : List GstH265Picture) : Prop :=
  ∀ (k : Fin 16) (hk : k.val < l.length), h265.RefPics k = l[k.val].pic ∧
    h265.PicOrderCntVal k = l[k.val].pic_order_cnt ∧ h265.IsLongTerm k = l[k.val].long_term

/-- The slots from `n` on are those of `h265`. -/
def SlotsFrom (n : Nat) (h265 h265' : VkParserHevcPictureData) : Prop :=
  ∀ k : Fin 16, n ≤ k.val → h265'.RefPics k = h265.RefPics k ∧
    h265'.PicOrderCntVal k = h265.PicOrderCntVal k ∧ h265'.IsLongTerm k = h265.IsLongTerm k

theorem holdsRefs_push {h265 : VkParserHevcPictureData} {done : List GstH265Picture}
    (hd : HoldsRefs h265 done) (p : GstH265Picture) (h : done.length < 16) :
    HoldsRefs { h265 with
      RefPics := Function.update h265.RefPics ⟨done.length, h⟩ p.pic
      PicOrderCntVal := Function.update h265.PicOrderCntVal ⟨done.length, h⟩ p.pic_order_cnt
      IsLongTerm := Function.update h265.IsLongTerm ⟨done.length, h⟩ p.long_term }
      (done ++ [p]) := by
  intro k hk
  simp only [List.length_append, List.length_singleton] at hk
  rcases Nat.lt_or_ge k.val done.length with hlt | hge
  · have hne : k ≠ ⟨done.length, h⟩ := fun e => by simp [e] at hlt
    simp only [Function.update_noteq hne, List.getElem_append_left hlt]
    exact hd k hlt
  · have he : k = ⟨done.length, h⟩ := Fin.ext (by simp; omega)
    subst he
    simp

/-- **The reference-frame loop.** From a table holding `done`, the loop fails exactly when
the references of the DPB do not fit after `done`; otherwise it leaves `num_ref_pic` at the
total, the table holding `done` and then the references in scan order, and the slots
after them as they were. -/
theorem fillRefPics_run (dpb : List GstH265Picture) :
    ∀ (h265 : VkParserHevcPictureData) (done : List GstH265Picture), done.length ≤ 16 →
      HoldsRefs h265 done →
      ((fillRefPics h265 done.length dpb).1 = .error ↔
        16 < done.length + (dpb.filter (·.ref)).length) ∧
      ((fillRefPics h265 done.length dpb).1 = .ok →
        (fillRefPics h265 done.length dpb).2.2 = done.length + (dpb.filter (·.ref)).length ∧
        HoldsRefs (fillRefPics h265 done.length dpb).2.1 (done ++ dpb.filter (·.ref)) ∧
        SlotsFrom (fillRefPics h265 done.length dpb).2.2 h265
          (fillRefPics h265 done.length dpb).2.1) := by
  induction dpb with
  | nil =>
    intro h265 done hle hd
    simp only [fillRefPics, List.filter_nil, List.length_nil, Nat.add_zero, List.append_nil]
    exact ⟨by simp; omega, fun _ => ⟨trivial, hd, fun _ _ => ⟨rfl, rfl, rfl⟩⟩⟩
  | cons p dpb ih =>
    intro h265 done hle hd
    by_cases hr : p.ref = true
    · rcases Nat.lt_or_ge done.length 16 with hlt | hge
      · have := ih _ (done ++ [p]) (by simp; omega) (holdsRefs_push hd p hlt)
        simp only [List.length_append, List.length_singleton, List.append_assoc,
          List.singleton_append] at this
        simp only [fillRefPics, hr, Bool.not_true, Bool.false_eq_true, ↓reduceIte, hlt,
          ↓reduceDIte, List.filter_cons, List.length_cons]
        refine ⟨by rw [this.1]; omega, fun hok => ?_⟩
        obtain ⟨h1, h2, h3⟩ := this.2 hok
        refine ⟨by omega, h2, fun k hk => ?_⟩
        have hne : k ≠ ⟨done.length, hlt⟩ := fun e => by simp [e] at hk; omega
        obtain ⟨e1, e2, e3⟩ := h3 k hk
        simp only [e1, e2, e3, Function.update_noteq hne, and_self]
      · have he : done.length = 16 := by omega
        simp only [fillRefPics, hr, Bool.not_true, Bool.false_eq_true, ↓reduceIte, he,
          Nat.lt_irrefl, ↓reduceDIte, List.filter_cons, List.length_cons]
        exact ⟨by simp, by simp⟩
    · have := ih h265 done hle hd
      simp only [fillRefPics, hr, Bool.not_false, ↓reduceIte, List.filter_cons]
      simpa using this

/-! ## The classification passes -/

/-- The inner `while` of a pass: skip null entries and take the next picture, leaving the
scan after it. -/
def nextRefPic : List (Option GstH265Picture) → Option GstH265Picture × List (Option GstH265Picture)
  | [] => (none, [])
  | none :: rest => nextRefPic rest
  | some p :: rest => (some p, rest)

/-- The POC search: the first slot below `num_ref_pic` whose POC is `poc`. -/
def findSlot (PicOrderCntVal : Fin 16 → Int) (num_ref_pic : Nat) (poc : Int) : Option (Fin 16) :=
  ((List.finRange 16).take num_ref_pic).find? fun k => PicOrderCntVal k == poc

/-- The writes `out[i] = k` of a pass, from index `i` on with `n` iterations left; `rest`
is the part of the list the scan has not consumed. -/
def classifyWrites (PicOrderCntVal : Fin 16 → Int) (num_ref_pic : Nat) :
    Nat → Nat → List (Option GstH265Picture) → List (Nat × Fin 16)
  | _, 0, _ => []
  | i, n + 1, rest =>
    let (other, rest) := nextRefPic rest
    let w := match other with
      | none => []
      | some p => ((findSlot PicOrderCntVal num_ref_pic p.pic_order_cnt).map (i, ·)).toList
    w ++ classifyWrites PicOrderCntVal num_ref_pic (i + 1) n rest

theorem nextRefPic_spec (rest : List (Option GstH265Picture)) :
    (nextRefPic rest).1 = (rest.filterMap id).head? ∧
      (nextRefPic rest).2.filterMap id = (rest.filterMap id).tail := by
  induction rest with
  | nil => simp [nextRefPic]
  | cons o rest ih => cases o <;> simp [nextRefPic, ih]

/-- The writes of a pass in closed form: the `i`-th non-null entry, for `i` below the
iterations, writes its slot at index `i` when the POC search finds one. -/
theorem classifyWrites_eq (pocs : Fin 16 → Int) (N : Nat) :
    ∀ (n i : Nat) (rest : List (Option GstH265Picture)), classifyWrites pocs N i n rest =
      (((rest.filterMap id).take n).enumFrom i).filterMap fun ip =>
        (findSlot pocs N ip.2.pic_order_cnt).map (ip.1, ·) := by
  intro n
  induction n with
  | zero => intro i rest; simp [classifyWrites]
  | succ n ih =>
    intro i rest
    obtain ⟨h1, h2⟩ := nextRefPic_spec rest
    simp only [classifyWrites, ih, h2]
    cases hf : rest.filterMap id with
    | nil => simp [h1, hf]
    | cons p ps =>
      rw [hf] at h1
      simp only [h1, List.head?_cons, List.take_succ_cons, List.enumFrom_cons, List.tail_cons]
      cases hs : findSlot pocs N p.pic_order_cnt <;> simp [List.filterMap_cons, hs]

theorem mem_take_finRange {N : Nat} {k : Fin 16} :
    k ∈ (List.finRange 16).take N ↔ k.val < N := by
  simp only [List.mem_take_iff_getElem, List.getElem_finRange, List.length_finRange]
  constructor
  · rintro ⟨i, hi, rfl⟩
    exact lt_of_lt_of_le hi (min_le_left _ _)
  · exact fun h => ⟨k, lt_min h k.2, Fin.ext rfl⟩

/-- What the POC search finds is a slot below `num_ref_pic` with that POC. -/
theorem findSlot_sound {pocs : Fin 16 → Int} {N : Nat} {poc : Int} {k : Fin 16}
    (h : findSlot pocs N poc = some k) : k.val < N ∧ pocs k = poc :=
  ⟨mem_take_finRange.1 (List.mem_of_find?_eq_some h),
    beq_iff_eq.1 (List.find?_some (p := fun k => pocs k == poc) h)⟩

/-- The POC search finds a slot whenever one below `num_ref_pic` has that POC. -/
theorem findSlot_isSome {pocs : Fin 16 → Int} {N : Nat} {k : Fin 16} (hk : k.val < N) :
    (findSlot pocs N (pocs k)).isSome :=
  List.find?_isSome.2 ⟨k, mem_take_finRange.2 hk, beq_self_eq_true _⟩

/-- The POC search finds the first slot with the POC. -/
theorem findSlot_first {pocs : Fin 16 → Int} {N : Nat} {poc : Int} {k : Fin 16}
    (h : findSlot pocs N poc = some k) (j : Fin 16) (hj : j.val < k.val) : pocs j ≠ poc := by
  obtain ⟨-, i, hi, hk, hmin⟩ := List.find?_eq_some_iff_getElem.1 h
  simp only [List.getElem_take, List.getElem_finRange] at hk hmin
  subst hk
  simpa using hmin j hj

theorem pairwise_enumFrom_fst {α : Type} (L : List α) :
    ∀ i, (L.enumFrom i).Pairwise (·.1 < ·.1) := by
  induction L with
  | nil => intro i; exact .nil
  | cons a L ih =>
    intro i
    refine List.pairwise_cons.2 ⟨fun b hb => ?_, ih (i + 1)⟩
    have := (List.mem_enumFrom (x := b.2) (i := b.1) hb).1
    exact this

/-- The writes of a pass one by one: `(i, k)` is written exactly when the `i`-th non-null
entry within the iterations has its POC first in slot `k`. -/
theorem mem_classifyWrites (pocs : Fin 16 → Int) (N n : Nat)
    (rest : List (Option GstH265Picture)) (i : Nat) (k : Fin 16) :
    (i, k) ∈ classifyWrites pocs N 0 n rest ↔
      ((rest.filterMap id).take n)[i]?.bind (fun p => findSlot pocs N p.pic_order_cnt) = some k := by
  rw [classifyWrites_eq]
  simp only [List.mem_filterMap, Option.map_eq_some', Prod.mk.injEq]
  constructor
  · rintro ⟨⟨i', p⟩, hm, k', hk, rfl, rfl⟩
    rw [← List.enum, List.mem_enum_iff_getElem?] at hm
    simp [hm, hk]
  · intro h
    obtain ⟨p, hp, hk⟩ := Option.bind_eq_some.1 h
    exact ⟨(i, p), by rw [← List.enum, List.mem_enum_iff_getElem?]; exact hp, k, hk, rfl, rfl⟩

/-- A pass writes each index at most once. -/
theorem pairwise_classifyWrites (pocs : Fin 16 → Int) (N n : Nat)
    (rest : List (Option GstH265Picture)) :
    (classifyWrites pocs N 0 n rest).Pairwise (·.1 ≠ ·.1) := by
  rw [classifyWrites_eq]
  refine (pairwise_enumFrom_fst _ 0).filterMap _ fun a a' h b hb b' hb' => ?_
  simp only [Option.mem_def, Option.map_eq_some'] at hb hb'
  obtain ⟨_, _, rfl⟩ := hb
  obtain ⟨_, _, rfl⟩ := hb'
  exact Nat.ne_of_lt h


/-! ## Where the writes land -/

/-- The three classification lists. -/
inductive RefPicSetKind
  | StCurrBefore
  | StCurrAfter
  | LtCurr
  deriving DecidableEq

/-- The base decoder's list of a kind. -/
def RefPicSets.get (rps : RefPicSets) : RefPicSetKind → RefPicSetList
  | .StCurrBefore => rps.StCurrBefore
  | .StCurrAfter => rps.StCurrAfter
  | .LtCurr => rps.LtCurr

/-- The output index array of a kind. -/
def VkParserHevcPictureData.refPicSet (h265 : VkParserHevcPictureData) : RefPicSetKind → Fin 8 → Int8
  | .StCurrBefore => h265.RefPicSetStCurrBefore
  | .StCurrAfter => h265.RefPicSetStCurrAfter
  | .LtCurr => h265.RefPicSetLtCurr

/-- The byte of `RefPicSet<kind>[0]` from `RefPicSetStCurrBefore[0]`. -/
def RefPicSetKind.base : RefPicSetKind → Nat
  | .StCurrBefore => 0
  | .StCurrAfter => 8
  | .LtCurr => 16

/-- A store of `b` at byte `n` from `RefPicSetStCurrBefore[0]`: bytes 0 to 23 are the three
arrays, bytes 24 to 31 the one-byte fields from `ProfileLevel` to `NumDirectRefLayers`, which
read the byte as unsigned. No pass writes past byte 31, as its index stays below 16. -/
def VkParserHevcPictureData.storeRefPicSet (h265 : VkParserHevcPictureData) (n : Nat)
    (b : Int8) : VkParserHevcPictureData :=
  let array (kind : RefPicSetKind) (i : Fin 8) :=
    if kind.base + i.val = n then b else h265.refPicSet kind i
  let byte (m old : Nat) := if m = n then b.toUInt8.toNat else old
  { h265 with
    RefPicSetStCurrBefore := array .StCurrBefore
    RefPicSetStCurrAfter := array .StCurrAfter
    RefPicSetLtCurr := array .LtCurr
    ProfileLevel := byte 24 h265.ProfileLevel
    ColorPrimaries := byte 25 h265.ColorPrimaries
    bit_depth_luma_minus8 := byte 26 h265.bit_depth_luma_minus8
    bit_depth_chroma_minus8 := byte 27 h265.bit_depth_chroma_minus8
    mv_hevc_enable := byte 28 h265.mv_hevc_enable
    nuh_layer_id := byte 29 h265.nuh_layer_id
    default_ref_layers_active_flag := byte 30 h265.default_ref_layers_active_flag
    NumDirectRefLayers := byte 31 h265.NumDirectRefLayers }

@[simp] theorem refPicSet_storeRefPicSet (h265 : VkParserHevcPictureData) (n : Nat) (b : Int8)
    (kind : RefPicSetKind) (i : Fin 8) :
    (h265.storeRefPicSet n b).refPicSet kind i =
      if kind.base + i.val = n then b else h265.refPicSet kind i := by
  cases kind <;> rfl

/-- The writes `h265->RefPicSet<kind>[i] = k` of a pass, one per `(i, k)`, in order. -/
def storeWrites (kind : RefPicSetKind) :
    VkParserHevcPictureData → List (Nat × Fin 16) → VkParserHevcPictureData
  | h265, [] => h265
  | h265, w :: ws => storeWrites kind (h265.storeRefPicSet (kind.base + w.1) (Int8.ofNat w.2)) ws

/-- A field no single write changes, no pass changes. -/
theorem storeWrites_frame {α : Type} (f : VkParserHevcPictureData → α)
    (hf : ∀ h n b, f (h.storeRefPicSet n b) = f h) (kind : RefPicSetKind) :
    ∀ (ws : List (Nat × Fin 16)) (h265 : VkParserHevcPictureData),
      f (storeWrites kind h265 ws) = f h265
  | [], _ => rfl
  | _ :: ws, h265 => by rw [storeWrites, storeWrites_frame f hf kind ws, hf]

theorem refPicSet_storeWrites_of_not_mem (kind kind' : RefPicSetKind) (i : Fin 8) :
    ∀ (ws : List (Nat × Fin 16)) (h265 : VkParserHevcPictureData),
      (∀ w ∈ ws, kind.base + w.1 ≠ kind'.base + i.val) →
      (storeWrites kind h265 ws).refPicSet kind' i = h265.refPicSet kind' i
  | [], _, _ => rfl
  | w :: ws, h265, h => by
    rw [storeWrites, refPicSet_storeWrites_of_not_mem kind kind' i ws _
      fun w' hw' => h w' (.tail _ hw'), refPicSet_storeRefPicSet,
      if_neg fun e => h w (.head _) e.symm]

theorem refPicSet_storeWrites_of_mem (kind kind' : RefPicSetKind) (i : Fin 8) (j : Nat)
    (k : Fin 16) (hj : kind.base + j = kind'.base + i.val) :
    ∀ (ws : List (Nat × Fin 16)) (h265 : VkParserHevcPictureData), ws.Pairwise (·.1 ≠ ·.1) →
      (j, k) ∈ ws → (storeWrites kind h265 ws).refPicSet kind' i = Int8.ofNat k
  | [], _, _, hm => absurd hm (List.not_mem_nil _)
  | w :: ws, h265, hp, hm => by
    rw [List.pairwise_cons] at hp
    rw [storeWrites]
    rcases List.mem_cons.1 hm with rfl | hm
    · rw [refPicSet_storeWrites_of_not_mem kind kind' i ws _ fun w' hw' e =>
        hp.1 w' hw' (by dsimp only; omega), refPicSet_storeRefPicSet, if_pos hj.symm]
    · exact refPicSet_storeWrites_of_mem kind kind' i j k hj ws _ hp.2 hm

/-- The slot the pass of `kind` over `l` writes at byte `n`, for POCs `pocs` and `N` slots:
that of its write `(n - kind.base, k)`, if it issues one. -/
def passStore (pocs : Fin 16 → Int) (N : Nat) (l : RefPicSetList) (kind : RefPicSetKind)
    (n : Nat) : Option (Fin 16) :=
  if kind.base ≤ n then
    ((l.entries.filterMap id).take N)[n - kind.base]?.bind fun p => findSlot pocs N p.pic_order_cnt
  else none

/-- One classification pass, over the list `l` into the array of `kind`, for `num_ref_pic`
slots. -/
def classifyPass (kind : RefPicSetKind) (num_ref_pic : Nat) (h265 : VkParserHevcPictureData)
    (l : RefPicSetList) : VkParserHevcPictureData :=
  storeWrites kind h265 (classifyWrites h265.PicOrderCntVal num_ref_pic 0 num_ref_pic l.entries)

/-- **One pass, byte by byte.** After the pass of `kind`, a position of any array holds the
slot the pass wrote at its byte, and what it held before where the pass wrote nothing. -/
theorem classifyPass_apply (kind : RefPicSetKind) (N : Nat) (h265 : VkParserHevcPictureData)
    (l : RefPicSetList) (kind' : RefPicSetKind) (i : Fin 8) :
    (classifyPass kind N h265 l).refPicSet kind' i =
      (((passStore h265.PicOrderCntVal N l kind (kind'.base + i.val)).map Fin.val).map
        Int8.ofNat).getD (h265.refPicSet kind' i) := by
  unfold classifyPass
  cases hs : passStore h265.PicOrderCntVal N l kind (kind'.base + i.val) with
  | some k =>
    unfold passStore at hs
    split at hs
    · exact refPicSet_storeWrites_of_mem kind kind' i _ k (by omega) _ _
        (pairwise_classifyWrites _ _ _ _) ((mem_classifyWrites _ _ _ _ _ _).2 hs)
    · cases hs
  | none =>
    refine refPicSet_storeWrites_of_not_mem kind kind' i _ _ fun w hw e => ?_
    have hm := (mem_classifyWrites _ _ _ _ w.1 w.2).1 hw
    unfold passStore at hs
    rw [if_pos (by omega), show kind'.base + i.val - kind.base = w.1 by omega, hm] at hs
    cases hs

/-- A field no single write changes, a pass leaves. -/
theorem classifyPass_frame {α : Type} (f : VkParserHevcPictureData → α)
    (hf : ∀ h n b, f (h.storeRefPicSet n b) = f h) (kind : RefPicSetKind) (N : Nat)
    (h265 : VkParserHevcPictureData) (l : RefPicSetList) :
    f (classifyPass kind N h265 l) = f h265 :=
  storeWrites_frame f hf kind _ h265

@[simp] theorem classifyPass_PicOrderCntVal (kind : RefPicSetKind) (N : Nat)
    (h265 : VkParserHevcPictureData) (l : RefPicSetList) :
    (classifyPass kind N h265 l).PicOrderCntVal = h265.PicOrderCntVal :=
  classifyPass_frame (·.PicOrderCntVal) (fun _ _ _ => rfl) kind N h265 l

/-! ## The reference part of `start_picture` -/

/-- The reference-frame loop and then the three classification passes, each over the
table the loop built; a failing loop ends `start_picture` before any pass. -/
def resolveReferences (h265 : VkParserHevcPictureData) (dpb : List GstH265Picture)
    (rps : RefPicSets) : GstFlowReturn × VkParserHevcPictureData :=
  match fillRefPics h265 0 dpb with
  | (.error, h265, _) => (.error, h265)
  | (.ok, h265, num_ref_pic) =>
    let pass (kind : RefPicSetKind) (h : VkParserHevcPictureData) :=
      classifyPass kind num_ref_pic h (rps.get kind)
    (.ok, pass .LtCurr (pass .StCurrAfter (pass .StCurrBefore h265)))

/-- The writes the pass over the list of `kind` issues. -/
def resolveWrites (h265 : VkParserHevcPictureData) (dpb : List GstH265Picture)
    (rps : RefPicSets) (kind : RefPicSetKind) : List (Nat × Fin 16) :=
  match fillRefPics h265 0 dpb with
  | (.error, _, _) => []
  | (.ok, h265, num_ref_pic) =>
    classifyWrites h265.PicOrderCntVal num_ref_pic 0 num_ref_pic (rps.get kind).entries

theorem resolveWrites_of_ok {h265 : VkParserHevcPictureData} {dpb : List GstH265Picture}
    (rps : RefPicSets) (hok : (fillRefPics h265 0 dpb).1 = .ok) (kind : RefPicSetKind) :
    resolveWrites h265 dpb rps kind =
      classifyWrites (fillRefPics h265 0 dpb).2.1.PicOrderCntVal (fillRefPics h265 0 dpb).2.2 0
        (fillRefPics h265 0 dpb).2.2 (rps.get kind).entries := by
  unfold resolveWrites
  rcases hr : fillRefPics h265 0 dpb with ⟨_ | _, r, n⟩
  · rfl
  · simp [hr] at hok

/-- The reference-frame loop writes the reference table and nothing else. -/
theorem fillRefPics_frame (dpb : List GstH265Picture) :
    ∀ (h265 : VkParserHevcPictureData) (n : Nat), ∃ R P L,
      (fillRefPics h265 n dpb).2.1 = { h265 with RefPics := R, PicOrderCntVal := P, IsLongTerm := L } := by
  induction dpb with
  | nil => intro h265 n; exact ⟨_, _, _, rfl⟩
  | cons p dpb ih =>
    intro h265 n
    unfold fillRefPics
    split
    · exact ih h265 n
    · split
      · obtain ⟨R, P, L, e⟩ := ih _ (n + 1)
        exact ⟨R, P, L, e⟩
      · exact ⟨_, _, _, rfl⟩

/-- A field no single write changes is, after the resolver, what the loop left. -/
theorem resolveReferences_frame {α : Type} (f : VkParserHevcPictureData → α)
    (hf : ∀ h n b, f (h.storeRefPicSet n b) = f h) (h265 : VkParserHevcPictureData)
    (dpb : List GstH265Picture) (rps : RefPicSets) :
    f (resolveReferences h265 dpb rps).2 = f (fillRefPics h265 0 dpb).2.1 := by
  unfold resolveReferences
  split <;> next heq => simp only [heq, classifyPass_frame f hf]

/-- The reference-frame loop writes only the reference table. -/
@[simp] theorem fillRefPics_refPicSet (dpb : List GstH265Picture) :
    ∀ (h265 : VkParserHevcPictureData) (n : Nat) (kind : RefPicSetKind),
      (fillRefPics h265 n dpb).2.1.refPicSet kind = h265.refPicSet kind := by
  intro h265 n kind
  obtain ⟨R, P, L, e⟩ := fillRefPics_frame dpb h265 n
  rw [e]
  cases kind <;> rfl

theorem resolveReferences_flow (h265 : VkParserHevcPictureData) (dpb : List GstH265Picture)
    (rps : RefPicSets) : (resolveReferences h265 dpb rps).1 = (fillRefPics h265 0 dpb).1 := by
  unfold resolveReferences
  split <;> simp_all

/-- The passes leave the reference table as the loop built it. -/
theorem resolveReferences_table (h265 : VkParserHevcPictureData) (dpb : List GstH265Picture)
    (rps : RefPicSets) :
    (resolveReferences h265 dpb rps).2.RefPics = (fillRefPics h265 0 dpb).2.1.RefPics ∧
    (resolveReferences h265 dpb rps).2.PicOrderCntVal = (fillRefPics h265 0 dpb).2.1.PicOrderCntVal ∧
    (resolveReferences h265 dpb rps).2.IsLongTerm = (fillRefPics h265 0 dpb).2.1.IsLongTerm :=
  ⟨resolveReferences_frame (·.RefPics) (fun _ _ _ => rfl) h265 dpb rps,
    resolveReferences_frame (·.PicOrderCntVal) (fun _ _ _ => rfl) h265 dpb rps,
    resolveReferences_frame (·.IsLongTerm) (fun _ _ _ => rfl) h265 dpb rps⟩

/-! ## The reference table -/

theorem holdsRefs_nil (h265 : VkParserHevcPictureData) : HoldsRefs h265 [] :=
  fun _ hk => absurd hk (Nat.not_lt_zero _)

/-- The reference-frame loop from an empty table. -/
theorem fillRefPics_spec (h265 : VkParserHevcPictureData) (dpb : List GstH265Picture) :
    ((fillRefPics h265 0 dpb).1 = .error ↔ 16 < (dpb.filter (·.ref)).length) ∧
    ((fillRefPics h265 0 dpb).1 = .ok →
      (fillRefPics h265 0 dpb).2.2 = (dpb.filter (·.ref)).length ∧
      HoldsRefs (fillRefPics h265 0 dpb).2.1 (dpb.filter (·.ref)) ∧
      SlotsFrom (fillRefPics h265 0 dpb).2.2 h265 (fillRefPics h265 0 dpb).2.1) := by
  simpa using fillRefPics_run dpb h265 [] (Nat.zero_le _) (holdsRefs_nil h265)

/-- A loop that succeeds has found at most 16 references. -/
theorem length_refs_le_of_ok {h265 : VkParserHevcPictureData} {dpb : List GstH265Picture}
    (hok : (fillRefPics h265 0 dpb).1 = .ok) : (dpb.filter (·.ref)).length ≤ 16 :=
  Nat.le_of_not_lt fun h => nomatch hok.symm.trans ((fillRefPics_spec h265 dpb).1.2 h)

/-- **The reference table.** The resolver fails exactly when more than 16 pictures of the
DPB are references; otherwise its loop counts them, its table holds them in scan order, and
the slots after them are those of the literal. -/
theorem resolveReferences_reference_table (h265 : VkParserHevcPictureData)
    (dpb : List GstH265Picture) (rps : RefPicSets) :
    ((resolveReferences h265 dpb rps).1 = .error ↔ 16 < (dpb.filter (·.ref)).length) ∧
    ((resolveReferences h265 dpb rps).1 = .ok →
      (fillRefPics h265 0 dpb).2.2 = (dpb.filter (·.ref)).length ∧
      HoldsRefs (resolveReferences h265 dpb rps).2 (dpb.filter (·.ref)) ∧
      SlotsFrom (dpb.filter (·.ref)).length h265 (resolveReferences h265 dpb rps).2) := by
  obtain ⟨hR, hP, hL⟩ := resolveReferences_table h265 dpb rps
  have hspec := fillRefPics_spec h265 dpb
  rw [resolveReferences_flow]
  refine ⟨hspec.1, fun hok => ?_⟩
  obtain ⟨hn, hh, hs⟩ := hspec.2 hok
  unfold HoldsRefs SlotsFrom at *
  rw [hR, hP, hL]
  exact ⟨hn, hh, fun k hk => hs k (hn ▸ hk)⟩

/-- With pairwise distinct POCs, the POC search finds each reference at its own slot. -/
theorem findSlot_of_mem {h265 : VkParserHevcPictureData} {refs : List GstH265Picture}
    (hh : HoldsRefs h265 refs) (hpoc : (refs.map (·.pic_order_cnt)).Nodup)
    (hlen : refs.length ≤ 16) {p : GstH265Picture} (hp : p ∈ refs) :
    ∃ (k : Fin 16) (hk : k.val < refs.length),
      findSlot h265.PicOrderCntVal refs.length p.pic_order_cnt = some k ∧ refs[k.val] = p := by
  obtain ⟨j, hj, rfl⟩ := List.getElem_of_mem hp
  have hsome : (findSlot h265.PicOrderCntVal refs.length refs[j].pic_order_cnt).isSome := by
    rw [← (hh ⟨j, by omega⟩ hj).2.1]
    exact findSlot_isSome hj
  obtain ⟨k, hk⟩ := Option.isSome_iff_exists.1 hsome
  obtain ⟨hkn, hkp⟩ := findSlot_sound hk
  have hkm : k.val < (refs.map (·.pic_order_cnt)).length := by simpa using hkn
  have hjm : j < (refs.map (·.pic_order_cnt)).length := by simpa using hj
  have e : (refs.map (·.pic_order_cnt))[k.val] = (refs.map (·.pic_order_cnt))[j] := by
    simp only [List.getElem_map]
    rw [← (hh k hkn).2.1, hkp]
  have hkj : k.val = j := hpoc.getElem_inj_iff.1 e
  exact ⟨k, hkn, hk, by simp only [hkj]⟩

/-- Over a table holding `refs`, the POC search finds the POC of every reference. -/
theorem findSlot_isSome_of_holdsRefs {h265 : VkParserHevcPictureData}
    {refs : List GstH265Picture} (hh : HoldsRefs h265 refs) (hlen : refs.length ≤ 16) {j : Nat}
    (hj : j < refs.length) :
    (findSlot h265.PicOrderCntVal refs.length refs[j].pic_order_cnt).isSome := by
  have hs := @findSlot_isSome h265.PicOrderCntVal refs.length ⟨j, by omega⟩ hj
  rwa [(hh ⟨j, by omega⟩ hj).2.1] at hs

/-- Over a table holding `refs`, the POC search is `findIdx?` over `refs`. -/
theorem map_val_findSlot {h265 : VkParserHevcPictureData} {refs : List GstH265Picture}
    (hh : HoldsRefs h265 refs) (hlen : refs.length ≤ 16) (poc : Int) :
    (findSlot h265.PicOrderCntVal refs.length poc).map Fin.val =
      refs.findIdx? (·.pic_order_cnt == poc) := by
  cases hf : findSlot h265.PicOrderCntVal refs.length poc with
  | some k =>
    obtain ⟨hk, hkp⟩ := findSlot_sound hf
    refine (List.findIdx?_eq_some_iff_getElem.2 ⟨hk, ?_, fun j hj => ?_⟩).symm
    · simp [← (hh k hk).2.1, hkp]
    · have := findSlot_first hf ⟨j, by omega⟩ hj
      rw [(hh ⟨j, by omega⟩ (Nat.lt_trans hj hk)).2.1] at this
      simpa using this
  | none =>
    refine (List.findIdx?_eq_none_iff.2 fun p hp => Bool.eq_false_iff.2 fun he => ?_).symm
    obtain ⟨j, hj, rfl⟩ := List.getElem_of_mem hp
    have hs := findSlot_isSome_of_holdsRefs hh hlen hj
    simp only [beq_iff_eq.1 he, hf] at hs
    exact Bool.false_ne_true hs

/-! ## The list-level resolver -/

/-- The slot position `j` of a list should name: the first reference whose POC is that of
the list's `j`-th picture, looking at as many pictures as there are references. -/
def resolvedSlot (refs : List GstH265Picture) (entries : List (Option GstH265Picture))
    (j : Nat) : Option Nat :=
  ((entries.filterMap id).take refs.length)[j]?.bind fun p =>
    refs.findIdx? (·.pic_order_cnt == p.pic_order_cnt)

/-- A resolution, over lists: the reference table, and the slot each position of each
list names. -/
structure Resolution where
  refs : List GstH265Picture
  slot : RefPicSetKind → Nat → Option Nat

/-- The resolution of a DPB's references and the three lists. -/
def resolution (dpb : List GstH265Picture) (rps : RefPicSets) : Resolution :=
  ⟨dpb.filter (·.ref), fun kind j => resolvedSlot (dpb.filter (·.ref)) (rps.get kind).entries j⟩

/-- The reference resolver as its purpose states it: fail when more than 16 DPB pictures
are references, and resolve otherwise. -/
def resolveSpec (dpb : List GstH265Picture) (rps : RefPicSets) : Option Resolution :=
  if 16 < (dpb.filter (·.ref)).length then none else some (resolution dpb rps)

namespace Resolution

/-- The slot the pass of `kind` writes at byte `n` of the arrays. -/
def storedAt (r : Resolution) (kind : RefPicSetKind) (n : Nat) : Option Nat :=
  if kind.base ≤ n then r.slot kind (n - kind.base) else none

/-- What the passes before the one of `kind` leave at byte `n`; the later pass wins. -/
def earlierAt (r : Resolution) : RefPicSetKind → Nat → Option Nat
  | .StCurrBefore, _ => none
  | .StCurrAfter, n => r.storedAt .StCurrBefore n
  | .LtCurr, n => (r.storedAt .StCurrAfter n).or (r.storedAt .StCurrBefore n)

/-- What the three passes leave at byte `n`. -/
def lastAt (r : Resolution) (n : Nat) : Option Nat :=
  (r.storedAt .LtCurr n).or (r.earlierAt .LtCurr n)

/-- At a position of its own array, the pass of `kind` writes last: the passes after it
write only at higher bytes. -/
theorem lastAt_own (r : Resolution) (kind : RefPicSetKind) (i : Fin 8) :
    r.lastAt (kind.base + i.val) = (r.slot kind i).or (r.earlierAt kind (kind.base + i.val)) := by
  have hi := i.isLt
  cases kind <;>
    simp only [lastAt, earlierAt, storedAt, RefPicSetKind.base, Nat.zero_add, Nat.add_sub_cancel_left,
      Nat.le_refl, Nat.le_add_right, ↓reduceIte, Nat.sub_zero, Nat.zero_le] <;>
    simp only [show ¬16 ≤ i.val by omega, show ¬8 ≤ i.val by omega, show ¬16 ≤ 8 + i.val by omega,
      ↓reduceIte, Option.none_or, Option.or_none]

/-- Every position a list resolves lies inside its 8-entry array. -/
def Fits (r : Resolution) : Prop := ∀ kind j, 8 ≤ j → r.slot kind j = none

/-- When the resolution fits, no pass writes into another's array. -/
theorem earlierAt_of_fits {r : Resolution} (hf : r.Fits) (kind : RefPicSetKind) (i : Fin 8) :
    r.earlierAt kind (kind.base + i.val) = none := by
  cases kind <;> simp only [earlierAt, storedAt, RefPicSetKind.base, Nat.zero_le, ↓reduceIte,
    Nat.le_add_right, Nat.add_sub_cancel, Option.or_eq_none] <;>
    simp only [show 8 ≤ 8 + i.val by omega, show 8 ≤ 16 + i.val by omega,
      show 16 + i.val - 8 = 8 + i.val by omega, ↓reduceIte, Nat.sub_zero] <;>
    first | exact hf _ _ (by omega) | exact ⟨hf _ _ (by omega), hf _ _ (by omega)⟩

/-- The H.265 data presents a resolution: the table holds its references, the later slots
are zero, and each position of each array holds what the last pass to write its byte wrote
there, 0 where none did. -/
def Presents (r : Resolution) (h265 : VkParserHevcPictureData) : Prop :=
  HoldsRefs h265 r.refs ∧ SlotsFrom r.refs.length default h265 ∧
    ∀ kind (j : Fin 8), h265.refPicSet kind j = ((r.lastAt (kind.base + j.val)).map Int8.ofNat).getD 0

/-- Presenting a resolution that fits, each array names its own list's slots, 0 where there
is none. -/
theorem Presents.refPicSet_of_fits {r : Resolution} {h265 : VkParserHevcPictureData}
    (hp : r.Presents h265) (hf : r.Fits) (kind : RefPicSetKind) (j : Fin 8) :
    h265.refPicSet kind j = ((r.slot kind j).map Int8.ofNat).getD 0 := by
  rw [hp.2.2, lastAt_own, earlierAt_of_fits hf, Option.or_none]

end Resolution

/-! ## The passes refine the list-level resolver -/

/-- Over a table holding the references, a pass writes what the resolution's pass writes. -/
theorem map_val_passStore {h265 : VkParserHevcPictureData} {dpb : List GstH265Picture}
    (hh : HoldsRefs h265 (dpb.filter (·.ref))) (hlen : (dpb.filter (·.ref)).length ≤ 16)
    (rps : RefPicSets) (kind : RefPicSetKind) (n : Nat) :
    (passStore h265.PicOrderCntVal (dpb.filter (·.ref)).length (rps.get kind) kind n).map
      Fin.val = (resolution dpb rps).storedAt kind n := by
  unfold passStore Resolution.storedAt
  split
  · dsimp only [resolution, resolvedSlot]
    cases (((rps.get kind).entries.filterMap id).take (dpb.filter (·.ref)).length)[n - kind.base]? with
    | none => rfl
    | some p => exact map_val_findSlot hh hlen _
  · rfl

theorem getD_map_or {α β : Type} (f : α → β) (a b : Option α) (c : β) :
    ((a.or b).map f).getD c = (a.map f).getD ((b.map f).getD c) := by
  cases a <;> rfl

/-- **The arrays after the passes.** After a loop that succeeds, each position of each
array holds what the last pass to write its byte wrote there, and what the literal held
where none did. -/
theorem resolveReferences_lastAt (h265 : VkParserHevcPictureData) (dpb : List GstH265Picture)
    (rps : RefPicSets) (hok : (fillRefPics h265 0 dpb).1 = .ok) (kind : RefPicSetKind)
    (i : Fin 8) :
    (resolveReferences h265 dpb rps).2.refPicSet kind i =
      (((resolution dpb rps).lastAt (kind.base + i.val)).map Int8.ofNat).getD
        (h265.refPicSet kind i) := by
  obtain ⟨hn, hh, -⟩ := (fillRefPics_spec h265 dpb).2 hok
  have hst := map_val_passStore hh (length_refs_le_of_ok hok) rps
  rw [← hn] at hst
  rw [← fillRefPics_refPicSet dpb h265 0 kind]
  unfold resolveReferences
  rcases hr : fillRefPics h265 0 dpb with ⟨_ | _, T, N⟩
  · rw [hr] at hst
    simp only [classifyPass_apply, classifyPass_PicOrderCntVal, hst, Resolution.lastAt,
      Resolution.earlierAt, getD_map_or]
  · rw [hr] at hok; cases hok

/-- **Classification.** With the references' POCs pairwise distinct and a list whose
non-null entries are distinct references, the `i`-th non-null entry is classified at
position `i` of the array, by the slot that holds it. -/
theorem resolveReferences_classified (h265 : VkParserHevcPictureData) (dpb : List GstH265Picture)
    (rps : RefPicSets) (kind : RefPicSetKind) (hok : (resolveReferences h265 dpb rps).1 = .ok)
    (hpoc : ((dpb.filter (·.ref)).map (·.pic_order_cnt)).Nodup)
    (hnd : ((rps.get kind).entries.filterMap id).Nodup)
    (hsub : ∀ p ∈ (rps.get kind).entries.filterMap id, p ∈ dpb.filter (·.ref))
    (i : Fin 8) (p : GstH265Picture)
    (hi : ((rps.get kind).entries.filterMap id)[i.val]? = some p) :
    ∃ k : Fin 16, k.val < (dpb.filter (·.ref)).length ∧
      (resolveReferences h265 dpb rps).2.refPicSet kind i = Int8.ofNat k ∧
      (resolveReferences h265 dpb rps).2.RefPics k = p.pic ∧
      (resolveReferences h265 dpb rps).2.PicOrderCntVal k = p.pic_order_cnt ∧
      (resolveReferences h265 dpb rps).2.IsLongTerm k = p.long_term := by
  rw [resolveReferences_flow] at hok
  obtain ⟨-, hh, -⟩ := (fillRefPics_spec h265 dpb).2 hok
  have hle := length_refs_le_of_ok hok
  have hlen := (List.subperm_of_subset hnd hsub).length_le
  obtain ⟨k, hk, hfind, hkp⟩ :=
    findSlot_of_mem hh hpoc hle (hsub p (List.mem_iff_getElem?.2 ⟨_, hi⟩))
  have hslot : (resolution dpb rps).slot kind i = some k.val := by
    simp only [resolution, resolvedSlot, List.take_of_length_le hlen, hi, Option.some_bind,
      ← map_val_findSlot hh hle, hfind, Option.map_some']
  obtain ⟨hR, hP, hL⟩ := resolveReferences_table h265 dpb rps
  obtain ⟨e1, e2, e3⟩ := hh k hk
  rw [resolveReferences_lastAt _ _ _ hok, Resolution.lastAt_own, hslot]
  exact ⟨k, hk, rfl, by rw [hR, e1, hkp], by rw [hP, e2, hkp], by rw [hL, e3, hkp]⟩

/-- **Unresolved positions.** A position whose entry is missing, or whose POC no slot of
the table holds, holds what the passes before its own wrote at its byte, and otherwise what
the literal put there. -/
theorem resolveReferences_unresolved (h265 : VkParserHevcPictureData) (dpb : List GstH265Picture)
    (rps : RefPicSets) (kind : RefPicSetKind) (hok : (resolveReferences h265 dpb rps).1 = .ok)
    (j : Fin 8)
    (hun : ∀ p, ((rps.get kind).entries.filterMap id)[j.val]? = some p →
      ∀ k : Fin 16, k.val < (dpb.filter (·.ref)).length →
        (resolveReferences h265 dpb rps).2.PicOrderCntVal k ≠ p.pic_order_cnt) :
    (resolveReferences h265 dpb rps).2.refPicSet kind j =
      (((resolution dpb rps).earlierAt kind (kind.base + j.val)).map Int8.ofNat).getD
        (h265.refPicSet kind j) := by
  rw [resolveReferences_flow] at hok
  obtain ⟨-, hh, -⟩ := (fillRefPics_spec h265 dpb).2 hok
  have hle := length_refs_le_of_ok hok
  have hslot : (resolution dpb rps).slot kind j = none := by
    refine Option.bind_eq_none'.2 fun _ p hp hk => ?_
    rw [← map_val_findSlot hh hle, Option.mem_def, Option.map_eq_some'] at hk
    obtain ⟨k, hf, -⟩ := hk
    obtain ⟨hkn, hkp⟩ := findSlot_sound hf
    rw [Option.mem_def, List.getElem?_take] at hp
    split_ifs at hp
    exact hun p hp k hkn (by rw [(resolveReferences_table h265 dpb rps).2.1, hkp])
  rw [resolveReferences_lastAt _ _ _ hok, Resolution.lastAt_own, hslot, Option.none_or]

theorem SlotsFrom.trans {m n : Nat} {a b c : VkParserHevcPictureData} (h₁ : SlotsFrom m a b)
    (h₂ : SlotsFrom n b c) (hmn : m ≤ n) : SlotsFrom n a c := fun k hk => by
  obtain ⟨e1, e2, e3⟩ := h₂ k hk
  obtain ⟨d1, d2, d3⟩ := h₁ k (hmn.trans hk)
  exact ⟨e1.trans d1, e2.trans d2, e3.trans d3⟩

/-- **The resolver refines `resolveSpec`.** From a literal whose table and arrays are zero,
the resolver succeeds exactly when `resolveSpec` does, and its picture data then presents
`resolveSpec`'s resolution. -/
theorem resolveReferences_refines (h265 : VkParserHevcPictureData) (dpb : List GstH265Picture)
    (rps : RefPicSets) (hz : SlotsFrom 0 default h265)
    (hz' : ∀ kind j, h265.refPicSet kind j = 0) :
    ((resolveReferences h265 dpb rps).1 = .ok ↔ (resolveSpec dpb rps).isSome) ∧
      ∀ r, resolveSpec dpb rps = some r → r.Presents (resolveReferences h265 dpb rps).2 := by
  obtain ⟨herr, hok⟩ := resolveReferences_reference_table h265 dpb rps
  have hok_iff : (resolveReferences h265 dpb rps).1 = .ok ↔
      ¬16 < (dpb.filter (·.ref)).length := by
    rw [← herr]
    cases (resolveReferences h265 dpb rps).1 <;> simp
  refine ⟨?_, fun r hr => ?_⟩
  · rw [hok_iff]
    unfold resolveSpec
    split <;> simp [*]
  · unfold resolveSpec at hr
    split at hr
    · cases hr
    · next h =>
      cases hr
      have hok' := hok_iff.2 h
      obtain ⟨-, hh, hs⟩ := hok hok'
      refine ⟨hh, hz.trans hs (Nat.zero_le _), fun kind j => ?_⟩
      rw [resolveReferences_lastAt _ _ _ (resolveReferences_flow h265 dpb rps ▸ hok'), hz']

end H265Dec

import H265Dec.Bitstream
import H265Dec.RefSet

/-!
# The picture callbacks

`gst_h265_dec_new_sequence`, `gst_h265_dec_new_picture`, `gst_h265_dec_start_picture` and
`gst_h265_dec_output_picture`; `decode_slice` and `end_picture` are in `Bitstream.lean`,
the reference part of `start_picture` in `RefSet.lean`.

`start_picture` points the picture data's descriptors at the picture's own `VkH265Picture`,
filled from the slice's PPS and SPS, unless out-of-band parameters are on and an SPS has
been published: then they point at the element's shared one (`ownParams`, `vkpLoc`). It
dereferences the SPS's VPS; the model returns `none` when that pointer is null.

Main results, each from the resolver's theorem of the same subject:
* **`startPicture_reference_table`**: the loop fails iff more than 16 DPB pictures are
  references; otherwise slots `0 .. n-1` hold them in scan order and the rest are zero.
* **`startPicture_classified`**: with distinct POCs and a list of distinct references, the
  `i`-th non-null entry is classified at position `i` by the slot holding it.
* **`startPicture_lastAt`**: each reference array entry is what the last pass to store at
  its byte of the struct stored there, or 0: a pass that runs past its 8-entry array
  stores into the next array, or into the fields after the last one.
* **`startPicture_unresolved`**: a position its own pass does not resolve holds what an
  earlier pass stored at its byte, or 0.
* **`startPicture_refines_resolveSpec`**: all of the above at once and without hypotheses,
  as a refinement of the list-level resolver `resolveSpec`.
* **`startPictureWrites_past_array`**: when exactly a pass writes past its 8-entry array.
* **`picture_session_data`**: a whole picture, from `new_picture` to the data
  `end_picture` hands over, carries its slices' payloads behind start codes at the offsets,
  and, below `2^32` bytes, those offsets increase (`decodeSlices_offsets_increase`).
-/

namespace H265Dec

/-! ## NAL unit types -/

def GST_H265_NAL_SLICE_BLA_W_LP : Nat := 16
def GST_H265_NAL_SLICE_IDR_W_RADL : Nat := 19
def GST_H265_NAL_SLICE_IDR_N_LP : Nat := 20
def RESERVED_IRAP_NAL_TYPE_MAX : Nat := 23

/-- `GST_H265_IS_NAL_TYPE_IRAP`. -/
def GST_H265_IS_NAL_TYPE_IRAP (type : Nat) : Bool :=
  GST_H265_NAL_SLICE_BLA_W_LP ≤ type && type ≤ RESERVED_IRAP_NAL_TYPE_MAX

/-- `GST_H265_IS_NAL_TYPE_IDR`. -/
def GST_H265_IS_NAL_TYPE_IDR (type : Nat) : Bool :=
  type == GST_H265_NAL_SLICE_IDR_W_RADL || type == GST_H265_NAL_SLICE_IDR_N_LP

/-! ## `new_sequence` -/

/-- `VkParserSequenceInfo`, with the fields `new_sequence` computes from the SPS. -/
structure VkParserSequenceInfo where
  isSVC : Bool
  frameRate : Nat
  bProgSeq : Bool
  nCodedWidth : Int
  nCodedHeight : Int
  nMaxWidth : Int
  nMaxHeight : Int
  nChromaFormat : Nat
  uBitDepthLumaMinus8 : Nat
  uBitDepthChromaMinus8 : Nat
  cbSequenceHeader : Nat
  nMinNumDecodeSurfaces : Int
  nDisplayWidth : Int
  nDisplayHeight : Int
  uVideoFullRange : Bool
  lVideoFormat : Nat
  lColorPrimaries : Nat
  lTransferCharacteristics : Nat
  lMatrixCoefficients : Nat
  lBitrate : Nat
  deriving Inhabited

/-- The sequence info of `new_sequence`. `isSVC` and `frameRate` come from the input caps. -/
def sequenceInfo (sps : GstH265SPS) (max_dpb_size : Int) (isSVC : Bool) (frameRate : Nat) :
    VkParserSequenceInfo :=
  let seqInfo : VkParserSequenceInfo := { (default : VkParserSequenceInfo) with
    isSVC, frameRate
    bProgSeq := true
    nCodedWidth := sps.width
    nCodedHeight := sps.height
    nMaxWidth := 0
    nMaxHeight := 0
    nChromaFormat := sps.chroma_format_idc
    uBitDepthLumaMinus8 := sps.bit_depth_luma_minus8
    uBitDepthChromaMinus8 := sps.bit_depth_chroma_minus8
    cbSequenceHeader := 0
    nMinNumDecodeSurfaces := min (max_dpb_size + 1) 8 }
  let seqInfo :=
    if sps.vui_parameters_present_flag && sps.vui_params.field_seq_flag then
      { seqInfo with bProgSeq := false }
    else if sps.profile_tier_level.progressive_source_flag &&
        !sps.profile_tier_level.interlaced_source_flag then
      { seqInfo with bProgSeq := true }
    else { seqInfo with bProgSeq := true }
  let seqInfo :=
    if sps.conformance_window_flag then
      { seqInfo with nDisplayWidth := sps.crop_rect_width, nDisplayHeight := sps.crop_rect_height }
    else { seqInfo with nDisplayWidth := sps.width, nDisplayHeight := sps.height }
  if sps.vui_parameters_present_flag then
    { seqInfo with
      uVideoFullRange := sps.vui_params.video_full_range_flag
      lVideoFormat := sps.vui_params.video_format
      lColorPrimaries := sps.vui_params.colour_primaries
      lTransferCharacteristics := sps.vui_params.transfer_characteristics
      lMatrixCoefficients := sps.vui_params.matrix_coefficients
      lBitrate := sps.vui_params.hrd_params.bit_rate_scale }
  else match sps.vps with
    | some vps => { seqInfo with lBitrate := vps.hrd_params.bit_rate_scale }
    | none => seqInfo

/-- `gst_h265_dec_new_sequence`: with a client, `BeginSequence` gets the sequence info and
its answer `reply` becomes `max_dpb_size`. -/
def newSequence (self : GstH265Dec) (sps : GstH265SPS) (max_dpb_size : Int) (isSVC : Bool)
    (frameRate : Nat) (reply : Int) : GstH265Dec × VkParserSequenceInfo :=
  (if self.client then { self with max_dpb_size := reply } else self,
    sequenceInfo sps max_dpb_size isSVC frameRate)

/-! ## `new_picture` and `output_picture` -/

/-- `gst_h265_dec_new_picture`: with a client, `AllocPictureBuffer` answers `alloc`, its
success and the handle it allocated; the picture gets a fresh `VkPic`. -/
def newPicture (self : GstH265Dec) (alloc : Bool × Option Nat) : GstFlowReturn × Option VkPic :=
  if self.client then
    if !alloc.1 then (.error, none) else (.ok, some (vkPicNew alloc.2))
  else (.ok, some (vkPicNew none))

/-- `gst_h265_dec_output_picture`: with a client, `DisplayPicture` gets the picture's
handle and the `guint64` timestamp `system_frame_number * duration / 100`, and answers
`reply`; `finish` is what `gst_video_decoder_finish_frame` returns. The second component
is the `DisplayPicture` call. -/
def outputPicture (self : GstH265Dec) (vkpic : VkPic) (picture : GstH265Picture)
    (duration : Nat) (reply : Bool) (finish : GstFlowReturn) :
    GstFlowReturn × Option (Option Nat × Nat) :=
  if self.client then
    (if reply then finish else .error,
      some (vkpic.pic, picture.system_frame_number * duration % 2 ^ 64 / 100))
  else (finish, none)

/-! ## `start_picture` -/

/-- `start_picture` fills and points at the picture's own descriptors unless out-of-band
parameters are on and an SPS has been published. The source tests `sps_update_count`
twice. -/
def ownParams (self : GstH265Dec) : Bool :=
  !self.oob_pic_params || (self.sps_update_count == 0 && self.sps_update_count == 0)

/-- Where `vkp` points in `start_picture`. -/
def vkpLoc (self : GstH265Dec) : VkpLoc :=
  if ownParams self then .picture else .decoder

/-- The `VkParserPictureData` compound literal of `start_picture`. -/
def pictureDataLiteral (vkpic : VkPic) (picture : GstH265Picture) (sps : GstH265SPS) :
    VkParserPictureData :=
  { (default : VkParserPictureData) with
    PicWidthInMbs := sps.width.tdiv 16
    FrameHeightInMbs := sps.height.tdiv 16
    pCurrPic := vkpic.pic
    field_pic_flag := if sps.vui_parameters_present_flag then sps.vui_params.field_seq_flag else false
    bottom_field_flag := picture.buffer_flags.BOTTOM_FIELD
    progressive_frame := !picture.buffer_flags.INTERLACED
    top_field_first := picture.buffer_flags.TFF
    repeat_first_field := 0
    ref_pic_flag := picture.ref
    intra_pic_flag := picture.IntraPicFlag
    chroma_format := sps.chroma_format_idc
    picture_order_count := picture.pic_order_cnt }

/-- The `VkParserHevcPictureData` compound literal of `start_picture`, with its descriptor
pointers at `loc`. -/
def hevcLiteral (self : GstH265Dec) (loc : VkpLoc) (slice : GstH265Slice) (rps : RefPicSets)
    (picture : GstH265Picture) (vps : GstH265VPS) : VkParserHevcPictureData :=
  let pps := slice.header.pps
  let sps := pps.sps
  { (default : VkParserHevcPictureData) with
    pStdVps := loc
    pVpsClientObject := self.vpsclient
    pStdSps := loc
    pSpsClientObject := self.spsclient
    pStdPps := loc
    pPpsClientObject := self.ppsclient
    pic_parameter_set_id := toUInt8 pps.id
    seq_parameter_set_id := toUInt8 sps.id
    vps_video_parameter_set_id := toUInt8 vps.id
    IrapPicFlag := GST_H265_IS_NAL_TYPE_IRAP slice.nalu.type
    IdrPicFlag := GST_H265_IS_NAL_TYPE_IDR slice.nalu.type
    NumBitsForShortTermRPSInSlice := toInt32 slice.header.short_term_ref_pic_set_size
    NumDeltaPocsOfRefRpsIdx := slice.header.NumDeltaPocsOfRefRpsIdx
    NumPocTotalCurr := slice.header.NumPocTotalCurr
    NumPocStCurrBefore := rps.StCurrBefore.num
    NumPocStCurrAfter := rps.StCurrAfter.num
    NumPocLtCurr := rps.LtCurr.num
    CurrPicOrderCntVal := picture.pic_order_cnt
    ProfileLevel := vps.profile_tier_level.profile_idc
    ColorPrimaries := if sps.vui_parameters_present_flag then sps.vui_params.colour_primaries else 0
    bit_depth_luma_minus8 := if pps.pps_scc_extension_flag then
      pps.pps_scc_extension_params.luma_bit_depth_entry_minus8 else 0
    bit_depth_chroma_minus8 := toUInt8 (if pps.pps_scc_extension_flag then
      pps.pps_scc_extension_params.chroma_bit_depth_entry_minus8 else 0) }

/-- The literal's reference arrays are zero. -/
@[simp] theorem hevcLiteral_refPicSet (self : GstH265Dec) (loc : VkpLoc) (slice : GstH265Slice)
    (rps : RefPicSets) (picture : GstH265Picture) (vps : GstH265VPS) (kind : RefPicSetKind)
    (i : Fin 8) : (hevcLiteral self loc slice rps picture vps).refPicSet kind i = 0 := by
  cases kind <;> rfl

/-- `gst_h265_dec_start_picture` on the picture's `VkPic`, the slice, the DPB's pictures in
scan order and the base decoder's reference picture set lists. -/
def startPicture (self : GstH265Dec) (vkpic : VkPic) (picture : GstH265Picture)
    (slice : GstH265Slice) (dpb : List GstH265Picture) (rps : RefPicSets) :
    Option (GstFlowReturn × VkPic) :=
  let pps := slice.header.pps
  let sps := pps.sps
  sps.vps.map fun vps =>
    let vkpic := if ownParams self then { vkpic with vkp := fillPps pps (fillSps sps vkpic.vkp) }
      else vkpic
    let (flow, h265) := resolveReferences (hevcLiteral self (vkpLoc self) slice rps picture vps) dpb rps
    (flow, { vkpic with data := { pictureDataLiteral vkpic picture sps with CodecSpecific := ⟨h265⟩ } })

/-- The writes the pass over the list of `kind` issues in `start_picture`. -/
def startPictureWrites (self : GstH265Dec) (picture : GstH265Picture) (slice : GstH265Slice)
    (dpb : List GstH265Picture) (rps : RefPicSets) (kind : RefPicSetKind) : List (Nat × Fin 16) :=
  match slice.header.pps.sps.vps with
  | none => []
  | some vps => resolveWrites (hevcLiteral self (vkpLoc self) slice rps picture vps) dpb rps kind

/-! ## Inputs for the runs below -/

/-- A reference picture with POC and backend handle `poc`. -/
def refPictureAt (poc : Nat) : GstH265Picture :=
  { (default : GstH265Picture) with pic_order_cnt := poc, ref := true, pic := some poc }

/-- A slice with the NAL unit `26 01 af`, whose PPS's SPS refers to a VPS. -/
def sliceWithVps : GstH265Slice where
  header :=
    { pps := { (default : GstH265PPS) with sps := { (default : GstH265SPS) with vps := some default } }
      short_term_ref_pic_set_size := 0
      NumDeltaPocsOfRefRpsIdx := 0
      NumPocTotalCurr := 0 }
  nalu := ⟨1, [0x26, 0x01, 0xaf], 0, 3, by decide⟩

/-- Slices of `sliceWithVps`'s header with five and seven payload bytes. -/
def sliceOfFive : GstH265Slice :=
  { sliceWithVps with nalu := ⟨1, [0x26, 0x01, 0xaf, 0x06, 0x30], 0, 5, by decide⟩ }

def sliceOfSeven : GstH265Slice :=
  { sliceWithVps with nalu := ⟨1, [0x26, 0x01, 0xaf, 0x06, 0x30, 0x11, 0x22], 0, 7, by decide⟩ }

/-- The list whose entries are `l`, with nulls after them. -/
def RefPicSetList.ofList (l : List (Option GstH265Picture)) (h : l.length ≤ 16) : RefPicSetList :=
  ⟨fun i => l.getD i none, l.length, h⟩

@[simp] theorem RefPicSetList.ofList_entries (l : List (Option GstH265Picture)) (h : l.length ≤ 16) :
    (RefPicSetList.ofList l h).entries = l := by
  apply List.ext_getElem
  · simp only [RefPicSetList.entries, RefPicSetList.ofList, List.length_take, List.length_ofFn]
    omega
  · intro i _ h2
    simp only [RefPicSetList.entries, RefPicSetList.ofList, List.getElem_take, List.getElem_ofFn,
      List.getD_eq_getElem?_getD, List.getElem?_eq_getElem h2, Option.getD_some]

/-- Reference picture set lists with `before` as the short-term-before list and the other
two empty. -/
def beforeOnly (before : List (Option GstH265Picture)) (h : before.length ≤ 16) : RefPicSets :=
  ⟨.ofList before h, .ofList [] (by decide), .ofList [] (by decide)⟩

/-! ## What `start_picture` leaves -/

/-- `start_picture` goes through exactly when the SPS's VPS pointer is set. -/
theorem startPicture_isSome (self : GstH265Dec) (vkpic : VkPic) (picture : GstH265Picture)
    (slice : GstH265Slice) (dpb : List GstH265Picture) (rps : RefPicSets) :
    (startPicture self vkpic picture slice dpb rps).isSome = slice.header.pps.sps.vps.isSome := by
  simp [startPicture]

/-- `start_picture` in one piece: the picture's own descriptors filled when it uses them,
its handle, buffer and offset table untouched, its data the literal with the resolver's
H.265 part. -/
theorem startPicture_eq {self : GstH265Dec} {vkpic : VkPic} {picture : GstH265Picture}
    {slice : GstH265Slice} {dpb : List GstH265Picture} {rps : RefPicSets} {vps : GstH265VPS}
    (hvps : slice.header.pps.sps.vps = some vps) :
    startPicture self vkpic picture slice dpb rps = some
      ((resolveReferences (hevcLiteral self (vkpLoc self) slice rps picture vps) dpb rps).1,
        { vkpic with
          vkp := if ownParams self then
              fillPps slice.header.pps (fillSps slice.header.pps.sps vkpic.vkp)
            else vkpic.vkp
          data := { pictureDataLiteral vkpic picture slice.header.pps.sps with
            CodecSpecific :=
              ⟨(resolveReferences (hevcLiteral self (vkpLoc self) slice rps picture vps) dpb rps).2⟩ } }) := by
  simp only [startPicture, hvps, Option.map_some']
  split <;> rfl

/-- `start_picture` succeeds when the VPS pointer is set and the reference-frame loop
does. -/
theorem startPicture_of_ok (self : GstH265Dec) (vkpic : VkPic) (picture : GstH265Picture)
    (slice : GstH265Slice) (dpb : List GstH265Picture) (rps : RefPicSets) {vps : GstH265VPS}
    (hvps : slice.header.pps.sps.vps = some vps)
    (hok : (fillRefPics (hevcLiteral self (vkpLoc self) slice rps picture vps) 0 dpb).1 = .ok) :
    ∃ v, startPicture self vkpic picture slice dpb rps = some (.ok, v) := by
  rw [← resolveReferences_flow _ dpb rps] at hok
  exact ⟨_, hok ▸ startPicture_eq hvps⟩

theorem startPicture_some {self : GstH265Dec} {vkpic : VkPic} {picture : GstH265Picture}
    {slice : GstH265Slice} {dpb : List GstH265Picture} {rps : RefPicSets}
    {flow : GstFlowReturn} {v : VkPic}
    (h : startPicture self vkpic picture slice dpb rps = some (flow, v)) :
    ∃ vps, slice.header.pps.sps.vps = some vps ∧
      (flow, v.data.CodecSpecific.hevc) =
        resolveReferences (hevcLiteral self (vkpLoc self) slice rps picture vps) dpb rps := by
  cases hv : slice.header.pps.sps.vps with
  | none => simp [startPicture, hv] at h
  | some vps =>
    rw [startPicture_eq hv, Option.some_inj, Prod.mk.injEq] at h
    obtain ⟨rfl, rfl⟩ := h
    exact ⟨vps, rfl, rfl⟩

/-- `start_picture` keeps the picture's handle, buffer and offset table, and zeroes its
slice count. -/
theorem startPicture_frame {self : GstH265Dec} {vkpic : VkPic} {picture : GstH265Picture}
    {slice : GstH265Slice} {dpb : List GstH265Picture} {rps : RefPicSets}
    {flow : GstFlowReturn} {v : VkPic}
    (h : startPicture self vkpic picture slice dpb rps = some (flow, v)) :
    v.pic = vkpic.pic ∧ v.bitstream = vkpic.bitstream ∧ v.slice_offsets = vkpic.slice_offsets ∧
      v.data.nNumSlices = 0 := by
  cases hv : slice.header.pps.sps.vps with
  | none => simp [startPicture, hv] at h
  | some vps =>
    rw [startPicture_eq hv, Option.some_inj, Prod.mk.injEq] at h
    obtain ⟨-, rfl⟩ := h
    exact ⟨rfl, rfl, rfl, rfl⟩

/-- The arrays `start_picture` leaves: each position holds what the last pass to write its
byte wrote there, 0 where none did. -/
theorem startPicture_lastAt {self : GstH265Dec} {vkpic : VkPic} {picture : GstH265Picture}
    {slice : GstH265Slice} {dpb : List GstH265Picture} {rps : RefPicSets} {v : VkPic}
    (hok : startPicture self vkpic picture slice dpb rps = some (.ok, v)) (kind : RefPicSetKind)
    (i : Fin 8) :
    v.data.CodecSpecific.hevc.refPicSet kind i =
      (((resolution dpb rps).lastAt (kind.base + i.val)).map Int8.ofNat).getD 0 := by
  obtain ⟨vps, -, he⟩ := startPicture_some hok
  have hv : v.data.CodecSpecific.hevc = _ := congrArg Prod.snd he
  rw [hv, resolveReferences_lastAt _ _ _
    ((resolveReferences_flow _ dpb rps).symm.trans (congrArg Prod.fst he).symm),
    hevcLiteral_refPicSet]

/-- A successful `new_picture` gives a picture with an empty buffer and the offset table
`[0]`. -/
theorem newPicture_fresh {self : GstH265Dec} {alloc : Bool × Option Nat} {vkpic : VkPic}
    (h : newPicture self alloc = (.ok, some vkpic)) :
    vkpic.bitstream = [] ∧ vkpic.slice_offsets = [0] := by
  unfold newPicture at h
  split_ifs at h <;> simp only [Prod.mk.injEq, Option.some.injEq, reduceCtorEq, false_and] at h <;>
    obtain ⟨-, rfl⟩ := h <;> exact ⟨rfl, rfl⟩

/-! ## The reference table and the classification -/

/-- **The reference table of a picture.** `start_picture` fails in its reference-frame
loop exactly when more than 16 DPB pictures are references; otherwise the loop counts the
`n` references, slots `0 .. n-1` hold their handles, POCs and long-term flags in scan order,
and the other slots stay zero. -/
theorem startPicture_reference_table (self : GstH265Dec) (vkpic : VkPic)
    (picture : GstH265Picture) (slice : GstH265Slice) (dpb : List GstH265Picture)
    (rps : RefPicSets) {vps : GstH265VPS} (hvps : slice.header.pps.sps.vps = some vps) :
    ∃ flow v, startPicture self vkpic picture slice dpb rps = some (flow, v) ∧
      (flow = .error ↔ 16 < (dpb.filter (·.ref)).length) ∧
      (flow = .ok →
        (fillRefPics (hevcLiteral self (vkpLoc self) slice rps picture vps) 0 dpb).2.2 =
          (dpb.filter (·.ref)).length ∧
        HoldsRefs v.data.CodecSpecific.hevc (dpb.filter (·.ref)) ∧
        SlotsFrom (dpb.filter (·.ref)).length default v.data.CodecSpecific.hevc) :=
  ⟨_, _, startPicture_eq hvps, resolveReferences_reference_table _ dpb rps⟩

theorem reference_table_skips_non_reference :
    sliceWithVps.header.pps.sps.vps = some default ∧
    ∃ flow v, startPicture default (vkPicNew none) default sliceWithVps
        [refPictureAt 10, default, refPictureAt 20] (beforeOnly [] (by decide)) = some (flow, v) ∧
      (flow = .error ↔ 16 < ([refPictureAt 10, default, refPictureAt 20].filter (·.ref)).length) ∧
      (flow = .ok →
        (fillRefPics (hevcLiteral default (vkpLoc default) sliceWithVps (beforeOnly [] (by decide))
          default default) 0 [refPictureAt 10, default, refPictureAt 20]).2.2 =
          ([refPictureAt 10, default, refPictureAt 20].filter (·.ref)).length ∧
        HoldsRefs v.data.CodecSpecific.hevc ([refPictureAt 10, default, refPictureAt 20].filter (·.ref)) ∧
        SlotsFrom ([refPictureAt 10, default, refPictureAt 20].filter (·.ref)).length default
          v.data.CodecSpecific.hevc) :=
  ⟨rfl, startPicture_reference_table _ _ _ _ _ _ rfl⟩

/-- **Classification.** When `start_picture` succeeds on a DPB whose references have
pairwise distinct POCs, for a list whose non-null entries are distinct references, its
`i`-th non-null entry (`i < 8`) is classified at position `i` by a slot below
`num_ref_pic` that holds that picture's handle, POC and long-term flag. -/
theorem startPicture_classified (self : GstH265Dec) (vkpic : VkPic) (picture : GstH265Picture)
    (slice : GstH265Slice) (dpb : List GstH265Picture) (rps : RefPicSets) (v : VkPic)
    (hok : startPicture self vkpic picture slice dpb rps = some (.ok, v))
    (hpoc : ((dpb.filter (·.ref)).map (·.pic_order_cnt)).Nodup) (kind : RefPicSetKind)
    (hnd : ((rps.get kind).entries.filterMap id).Nodup)
    (hsub : ∀ p ∈ (rps.get kind).entries.filterMap id, p ∈ dpb.filter (·.ref))
    (i : Fin 8) (p : GstH265Picture)
    (hi : ((rps.get kind).entries.filterMap id)[i.val]? = some p) :
    ∃ k : Fin 16, k.val < (dpb.filter (·.ref)).length ∧
      v.data.CodecSpecific.hevc.refPicSet kind i = Int8.ofNat k ∧
      v.data.CodecSpecific.hevc.RefPics k = p.pic ∧
      v.data.CodecSpecific.hevc.PicOrderCntVal k = p.pic_order_cnt ∧
      v.data.CodecSpecific.hevc.IsLongTerm k = p.long_term := by
  obtain ⟨vps, -, he⟩ := startPicture_some hok
  have := resolveReferences_classified _ dpb rps kind (by rw [← he]) hpoc hnd hsub i p hi
  rw [← he] at this
  exact this

/-- POCs 10 and 20 in the table, the list `[null, 20, null]`: the entry for 20 is the first
non-null one, classified at position 0. -/
theorem classified_after_null_entry :
    ∃ v, startPicture default (vkPicNew none) default sliceWithVps [refPictureAt 10, refPictureAt 20]
        (beforeOnly [none, some (refPictureAt 20), none] (by decide)) = some (.ok, v) ∧
      ∃ k : Fin 16, k.val < ([refPictureAt 10, refPictureAt 20].filter (·.ref)).length ∧
        v.data.CodecSpecific.hevc.refPicSet .StCurrBefore 0 = Int8.ofNat k ∧
        v.data.CodecSpecific.hevc.RefPics k = (refPictureAt 20).pic ∧
        v.data.CodecSpecific.hevc.PicOrderCntVal k = (refPictureAt 20).pic_order_cnt ∧
        v.data.CodecSpecific.hevc.IsLongTerm k = (refPictureAt 20).long_term :=
  have ⟨v, hv⟩ := startPicture_of_ok default (vkPicNew none) default sliceWithVps
    [refPictureAt 10, refPictureAt 20] (beforeOnly [none, some (refPictureAt 20), none] (by decide))
    rfl (by decide)
  have hent : ((beforeOnly [none, some (refPictureAt 20), none] (by decide)).get
      .StCurrBefore).entries = [none, some (refPictureAt 20), none] := RefPicSetList.ofList_entries _ _
  ⟨v, hv, startPicture_classified _ _ _ _ _ _ v hv (by decide) .StCurrBefore
    (by rw [hent]; decide) (by rw [hent]; decide) 0 _ (by rw [hent]; rfl)⟩

/-- **`start_picture` refines the list-level resolver.** Whenever `start_picture` goes
through, its flow is `ok` exactly when `resolveSpec` succeeds, and the picture's H.265 data
then presents `resolveSpec`'s resolution, with no hypothesis on the POCs or the lists. -/
theorem startPicture_refines_resolveSpec {self : GstH265Dec} {vkpic : VkPic}
    {picture : GstH265Picture} {slice : GstH265Slice} {dpb : List GstH265Picture}
    {rps : RefPicSets} {flow : GstFlowReturn} {v : VkPic}
    (h : startPicture self vkpic picture slice dpb rps = some (flow, v)) :
    (flow = .ok ↔ (resolveSpec dpb rps).isSome) ∧
      ∀ r, resolveSpec dpb rps = some r → r.Presents v.data.CodecSpecific.hevc := by
  obtain ⟨vps, -, he⟩ := startPicture_some h
  obtain ⟨hf, hv⟩ := Prod.mk.inj he
  rw [hf, hv]
  exact resolveReferences_refines _ dpb rps (fun _ _ => ⟨rfl, rfl, rfl⟩)
    (hevcLiteral_refPicSet _ _ _ _ _ _)

/-! ## The writes of the passes -/

/-- Every write of a pass is below the number of references, and so below 16: past the
8-entry output arrays only when nine or more pictures are references. -/
theorem startPictureWrites_index_lt (self : GstH265Dec) (picture : GstH265Picture)
    (slice : GstH265Slice) (dpb : List GstH265Picture) (rps : RefPicSets)
    (kind : RefPicSetKind) :
    ∀ w ∈ startPictureWrites self picture slice dpb rps kind,
      w.1 < (dpb.filter (·.ref)).length ∧ w.1 < 16 := by
  intro w hw
  unfold startPictureWrites at hw
  split at hw
  · simp at hw
  · next vps _ =>
    set h265 := hevcLiteral self (vkpLoc self) slice rps picture vps
    cases hok : (fillRefPics h265 0 dpb).1 with
    | error =>
      rcases hr : fillRefPics h265 0 dpb with ⟨_ | _, r, n⟩ <;> simp_all [resolveWrites]
    | ok =>
      obtain ⟨herr, hspec⟩ := fillRefPics_spec h265 dpb
      obtain ⟨hn, -, -⟩ := hspec hok
      rw [resolveWrites_of_ok rps hok, mem_classifyWrites, hn, List.getElem?_take] at hw
      have hle : (dpb.filter (·.ref)).length ≤ 16 := by
        rw [hok] at herr
        exact Nat.le_of_not_lt fun h => nomatch herr.2 h
      split at hw
      · omega
      · simp at hw

theorem write_of_second_reference :
    (0, 1) ∈ startPictureWrites default default sliceWithVps [refPictureAt 10, refPictureAt 20]
        (beforeOnly [some (refPictureAt 20)] (by decide)) .StCurrBefore ∧
      (0 < ([refPictureAt 10, refPictureAt 20].filter (·.ref)).length ∧ 0 < 16) :=
  have h : (0, 1) ∈ startPictureWrites default default sliceWithVps
      [refPictureAt 10, refPictureAt 20] (beforeOnly [some (refPictureAt 20)] (by decide))
      .StCurrBefore := by decide
  ⟨h, startPictureWrites_index_lt _ _ _ _ _ _ _ h⟩

/-- The loop of a successful `start_picture` succeeds, over the references of the DPB. -/
theorem startPicture_loop {self : GstH265Dec} {vkpic : VkPic} {picture : GstH265Picture}
    {slice : GstH265Slice} {dpb : List GstH265Picture} {rps : RefPicSets} {v : VkPic}
    (hok : startPicture self vkpic picture slice dpb rps = some (.ok, v)) :
    ∃ vps, slice.header.pps.sps.vps = some vps ∧
      (fillRefPics (hevcLiteral self (vkpLoc self) slice rps picture vps) 0 dpb).1 = .ok := by
  obtain ⟨vps, hv, he⟩ := startPicture_some hok
  exact ⟨vps, hv, (resolveReferences_flow _ dpb rps).symm.trans (Prod.mk.inj he).1.symm⟩

/-- **Writes past the arrays.** When every picture of a list has its POC among the DPB's
references, as a list drawn from the DPB has, the pass over it writes past its 8-entry array
exactly when the DPB holds nine references or more and the list nine pictures or more. -/
theorem startPictureWrites_past_array {self : GstH265Dec} {vkpic : VkPic}
    {picture : GstH265Picture} {slice : GstH265Slice} {dpb : List GstH265Picture}
    {rps : RefPicSets} {v : VkPic}
    (hok : startPicture self vkpic picture slice dpb rps = some (.ok, v)) (kind : RefPicSetKind)
    (hsub : ∀ p ∈ (rps.get kind).entries.filterMap id,
      ∃ q ∈ dpb.filter (·.ref), q.pic_order_cnt = p.pic_order_cnt) :
    (∃ w ∈ startPictureWrites self picture slice dpb rps kind, 8 ≤ w.1) ↔
      8 < (dpb.filter (·.ref)).length ∧ 8 < ((rps.get kind).entries.filterMap id).length := by
  obtain ⟨vps, hv, hloop⟩ := startPicture_loop hok
  obtain ⟨hn, hh, -⟩ := (fillRefPics_spec _ dpb).2 hloop
  have hle := length_refs_le_of_ok hloop
  simp only [startPictureWrites, hv, resolveWrites_of_ok rps hloop, hn]
  constructor
  · rintro ⟨⟨i, k⟩, hw, h8⟩
    obtain ⟨p, hp, -⟩ := Option.bind_eq_some.1 ((mem_classifyWrites _ _ _ _ i k).1 hw)
    have := (List.getElem?_eq_some_iff.1 hp).1
    simp only [List.length_take] at this h8
    omega
  · rintro ⟨hN, hl⟩
    obtain ⟨q, hq, hqp⟩ := hsub _ (List.getElem_mem hl)
    obtain ⟨j, hj, rfl⟩ := List.getElem_of_mem hq
    obtain ⟨k, hk⟩ :=
      Option.isSome_iff_exists.1 (hqp ▸ findSlot_isSome_of_holdsRefs hh hle hj)
    refine ⟨(8, k), (mem_classifyWrites _ _ _ _ 8 k).2 ?_, le_refl 8⟩
    rw [List.getElem?_take, if_pos hN, List.getElem?_eq_getElem hl, Option.some_bind, hk]

/-- Nine references, all in the short-term-before list. -/
theorem nine_references_write_past_array :
    let dpb := (List.range 9).map refPictureAt
    let rps := beforeOnly (dpb.map some) (by decide)
    ∃ v, startPicture default (vkPicNew none) default sliceWithVps dpb rps = some (.ok, v) ∧
      (∀ p ∈ (rps.get .StCurrBefore).entries.filterMap id,
        ∃ q ∈ dpb.filter (·.ref), q.pic_order_cnt = p.pic_order_cnt) ∧
      ((∃ w ∈ startPictureWrites default default sliceWithVps dpb rps .StCurrBefore,
          8 ≤ w.1) ↔
        8 < (dpb.filter (·.ref)).length ∧
          8 < ((rps.get .StCurrBefore).entries.filterMap id).length) :=
  have ⟨v, hv⟩ := startPicture_of_ok default (vkPicNew none) default sliceWithVps
    ((List.range 9).map refPictureAt) (beforeOnly (((List.range 9).map refPictureAt).map some)
      (by decide)) rfl (by decide)
  have hsub : ∀ p ∈ ((beforeOnly (((List.range 9).map refPictureAt).map some) (by decide)).get
      .StCurrBefore).entries.filterMap id, ∃ q ∈ ((List.range 9).map refPictureAt).filter
        (fun q : GstH265Picture => q.ref), q.pic_order_cnt = p.pic_order_cnt := by
    simp only [beforeOnly, RefPicSets.get, RefPicSetList.ofList_entries]
    decide
  ⟨v, hv, hsub, startPictureWrites_past_array hv .StCurrBefore hsub⟩

/-- Nine references, all of them in the short-term-before list: `start_picture` succeeds
and its pass writes index 8 of the 8-entry `RefPicSetStCurrBefore`. -/
theorem ninth_before_entry_written_past_array :
    (∃ v, startPicture default (vkPicNew none) default sliceWithVps ((List.range 9).map refPictureAt)
        (beforeOnly (((List.range 9).map refPictureAt).map some) (by decide)) = some (.ok, v)) ∧
      (8, 8) ∈ startPictureWrites default default sliceWithVps ((List.range 9).map refPictureAt)
        (beforeOnly (((List.range 9).map refPictureAt).map some) (by decide)) .StCurrBefore :=
  ⟨startPicture_of_ok _ _ _ _ _ _ rfl (by decide), by decide⟩

/-! ## A picture's bitstream -/

/-- **The offsets increase.** Over a picture from `new_picture` and `start_picture`, any
slices whose stream stays below `2^32` bytes leave an offset table that goes strictly up,
each slice adding at least its start code. -/
theorem decodeSlices_offsets_increase (self : GstH265Dec) (alloc : Bool × Option Nat)
    (vkpic : VkPic) (hnew : newPicture self alloc = (.ok, some vkpic)) (picture : GstH265Picture)
    (slice : GstH265Slice) (dpb : List GstH265Picture) (rps : RefPicSets)
    (hvps : slice.header.pps.sps.vps.isSome) (slices : List GstH265Slice)
    (hlen : (assemble (slices.map (·.nalu.payload))).length < 2 ^ 32) :
    ∃ flow v v', startPicture self vkpic picture slice dpb rps = some (flow, v) ∧
      decodeSlices v slices = some v' ∧ (v'.slice_offsets.map UInt32.toNat).Pairwise (· < ·) := by
  obtain ⟨vps, hv⟩ := Option.isSome_iff_exists.1 hvps
  obtain ⟨hb, ho⟩ := newPicture_fresh hnew
  obtain ⟨flow, v, hsv⟩ : ∃ flow v, startPicture self vkpic picture slice dpb rps = some (flow, v) :=
    ⟨_, _, startPicture_eq hv⟩
  obtain ⟨-, hb', ho', hn'⟩ := startPicture_frame hsv
  obtain ⟨v', hd, hav⟩ := decodeSlices_assembled (assembled_nil (hb'.trans hb) (ho'.trans ho) hn')
    slices (by rwa [List.nil_append])
  exact ⟨flow, v, v', hsv, hd, hav.offsets_strictly_increasing⟩

theorem offsets_increase_over_two_slices :
    newPicture default (true, none) = (.ok, some (vkPicNew none)) ∧
    sliceWithVps.header.pps.sps.vps.isSome ∧
    (assemble ([sliceOfFive, sliceOfSeven].map (·.nalu.payload))).length < 2 ^ 32 ∧
    ∃ flow v v', startPicture default (vkPicNew none) default sliceWithVps []
        (beforeOnly [] (by decide)) = some (flow, v) ∧
      decodeSlices v [sliceOfFive, sliceOfSeven] = some v' ∧
      (v'.slice_offsets.map UInt32.toNat).Pairwise (· < ·) :=
  ⟨rfl, rfl, by decide, decodeSlices_offsets_increase default (true, none) _ rfl default
    sliceWithVps [] (beforeOnly [] (by decide)) rfl [sliceOfFive, sliceOfSeven] (by decide)⟩

end H265Dec

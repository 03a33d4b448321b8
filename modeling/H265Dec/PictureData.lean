import H265Dec.Cache

/-!
# Pictures, slices and the per-picture decode data

The inputs the base decoder hands to the picture callbacks (`GstH265Picture`,
`GstH265Slice`, the current reference picture set lists), and what the element builds for
the backend: `VkParserPictureData` with its H.265 part `VkParserHevcPictureData`, kept in
the picture's `VkPic`.

A backend picture handle (`VkPicIf *`) is a number, and `none` is the null pointer. A
descriptor pointer of the picture data (`pStdSps`, ...) is a `VkpLoc`: it reaches either the
element's shared `VkH265Picture` or the picture's own, and what it reaches is read when the
backend is called. The `VkParser*` records are declared in the backend's header, which is
not part of the repository; their fields are the ones `h265dec.cpp` writes, with `int32_t`
fields as `Int`.
-/

namespace H265Dec

/-! ## What the base decoder hands over -/

/-- The bits of a picture's `buffer_flags` that `start_picture` tests. -/
structure GstVideoBufferFlags where
  BOTTOM_FIELD : Bool
  INTERLACED : Bool
  TFF : Bool
  deriving Inhabited, DecidableEq

/-- A picture of the base decoder. Its user data is the `VkPic` that `new_picture`
attached; of it, only the backend handle `pic` is read through other pictures. -/
structure GstH265Picture where
  pic_order_cnt : Int
  ref : Bool
  long_term : Bool
  IntraPicFlag : Bool
  buffer_flags : GstVideoBufferFlags
  system_frame_number : Nat
  pic : Option Nat
  deriving Inhabited, DecidableEq

/-- A NAL unit: `size` bytes of `data` from `offset`. The parser only hands out units that
lie within their buffer. -/
structure GstH265NalUnit where
  type : Nat
  data : List UInt8
  offset : Nat
  size : UInt32
  size_le : offset + size.toNat ≤ data.length

/-- The bytes `data + offset .. data + offset + size` of a NAL unit. -/
def GstH265NalUnit.payload (nalu : GstH265NalUnit) : List UInt8 :=
  (nalu.data.drop nalu.offset).take nalu.size.toNat

@[simp] theorem GstH265NalUnit.length_payload (nalu : GstH265NalUnit) :
    nalu.payload.length = nalu.size.toNat := by
  have := nalu.size_le
  simp only [GstH265NalUnit.payload, List.length_take, List.length_drop]
  omega

/-- The slice header fields the element reads; `pps` is the PPS the header refers to, and
`pps.sps`, `pps.sps.vps` the ones that refers to. -/
structure GstH265SliceHdr where
  pps : GstH265PPS
  short_term_ref_pic_set_size : Nat
  NumDeltaPocsOfRefRpsIdx : Nat
  NumPocTotalCurr : Nat

/-- A slice: its header and its NAL unit. -/
structure GstH265Slice where
  header : GstH265SliceHdr
  nalu : GstH265NalUnit

/-- One of the base decoder's current reference picture set lists (`RefPicSetStCurrBefore`,
`RefPicSetStCurrAfter`, `RefPicSetLtCurr`) with its count (`NumPocStCurrBefore`, ...). The
arrays have 16 entries and the count never exceeds them; an entry may be null. -/
structure RefPicSetList where
  pics : Fin 16 → Option GstH265Picture
  num : Nat
  num_le : num ≤ 16

/-- The entries a classification pass may read: the first `num`. -/
def RefPicSetList.entries (l : RefPicSetList) : List (Option GstH265Picture) :=
  (List.ofFn l.pics).take l.num

/-- The three lists, as the base decoder holds them when it starts a picture. -/
structure RefPicSets where
  StCurrBefore : RefPicSetList
  StCurrAfter : RefPicSetList
  LtCurr : RefPicSetList

/-! ## What the element builds -/

/-- Where a descriptor pointer of the picture data leads. -/
inductive VkpLoc
  | null
  | decoder
  | picture
  deriving Inhabited, DecidableEq

/-- `VkParserHevcPictureData`. The three `int8_t[8]` classification arrays lie back to back,
and after them come `ProfileLevel`, `ColorPrimaries`, the two bit depths and the `uint8_t`
MV-HEVC fields, in the order the literal of `start_picture` lists them (h265dec.cpp:637-655);
the fields from `ProfileLevel` on are one byte each. -/
structure VkParserHevcPictureData where
  pStdVps : VkpLoc
  pVpsClientObject : Option Nat
  pStdSps : VkpLoc
  pSpsClientObject : Option Nat
  pStdPps : VkpLoc
  pPpsClientObject : Option Nat
  pic_parameter_set_id : Nat
  seq_parameter_set_id : Nat
  vps_video_parameter_set_id : Nat
  IrapPicFlag : Bool
  IdrPicFlag : Bool
  NumBitsForShortTermRPSInSlice : Int
  NumDeltaPocsOfRefRpsIdx : Int
  NumPocTotalCurr : Int
  NumPocStCurrBefore : Int
  NumPocStCurrAfter : Int
  NumPocLtCurr : Int
  CurrPicOrderCntVal : Int
  RefPics : Fin 16 → Option Nat
  PicOrderCntVal : Fin 16 → Int
  IsLongTerm : Fin 16 → Bool
  RefPicSetStCurrBefore : Fin 8 → Int8
  RefPicSetStCurrAfter : Fin 8 → Int8
  RefPicSetLtCurr : Fin 8 → Int8
  ProfileLevel : Nat
  ColorPrimaries : Nat
  bit_depth_luma_minus8 : Nat
  bit_depth_chroma_minus8 : Nat
  mv_hevc_enable : Nat
  nuh_layer_id : Nat
  default_ref_layers_active_flag : Nat
  NumDirectRefLayers : Nat
  deriving Inhabited

/-- The codec-specific part of the picture data; the element uses its H.265 member. -/
structure CodecSpecificData where
  hevc : VkParserHevcPictureData
  deriving Inhabited

/-- `VkParserPictureData`. `pBitstreamData` is the buffer it points to, empty while the
pointer is null. -/
structure VkParserPictureData where
  PicWidthInMbs : Int
  FrameHeightInMbs : Int
  pCurrPic : Option Nat
  field_pic_flag : Bool
  bottom_field_flag : Bool
  second_field : Bool
  progressive_frame : Bool
  top_field_first : Bool
  repeat_first_field : Int
  ref_pic_flag : Bool
  intra_pic_flag : Bool
  chroma_format : Nat
  picture_order_count : Int
  nBitstreamDataLen : Int
  pBitstreamData : List UInt8
  nNumSlices : UInt32
  pSliceDataOffsets : List UInt32
  CodecSpecific : CodecSpecificData
  deriving Inhabited

/-- `VkPic`, the element's data for one picture. -/
structure VkPic where
  pic : Option Nat
  data : VkParserPictureData
  bitstream : List UInt8
  vkp : VkH265Picture
  slice_offsets : List UInt32

/-- `vk_pic_new`: zeroed, with an empty bitstream and the offset table `[0]`. -/
def vkPicNew (pic : Option Nat) : VkPic :=
  { pic, data := default, bitstream := [], vkp := default, slice_offsets := [0] }

/-- `GstFlowReturn`, as far as the element uses it. -/
inductive GstFlowReturn
  | ok
  | error
  deriving Inhabited, DecidableEq

/-- `static_cast<int32_t>`: two's complement wrap-around. -/
def toInt32 (x : Int) : Int := x.bmod (2 ^ 32)

end H265Dec

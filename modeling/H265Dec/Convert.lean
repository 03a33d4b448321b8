import H265Dec.Std
import Mathlib.Data.UInt

/-!
# The descriptor converter

`fill_sps` and `fill_pps` of `h265dec.cpp`: they build the backend's descriptors from a parsed
parameter set, field by field, into a `VkH265Picture`. A compound literal in the source is
`{ (default : T) with ... }` here: the fields it leaves out are zero.

`fill_pps` copies the two tile tables with `memcpy`, whose length is the destination's size
in bytes. The source tables hold 32-bit words and the destination ones 16-bit words, so the
copy reinterprets bytes. `memcpyHalfwords` models it over the little-endian image of the
source, and `memcpyHalfwords_toNat` says what it computes: halfword `j` is the low or high
half of word `j / 2`.

The main results are about what the backend reads after a fill: `stdSps_fillSps` says the
SPS descriptor, with the VUI it points to, depends only on the record, whatever the block
held before; `fillSps_pps` and `fillPps_stdSps` say each converter leaves the other's
descriptor alone.
-/

namespace H265Dec

/-! ## Profiles -/

/-- `GST_H265_PROFILE_IDC_MAIN` and the other parser profile values read by
`get_profile_idc` (the `general_profile_idc` values of the standard). -/
def GST_H265_PROFILE_IDC_MAIN : Nat := 1
def GST_H265_PROFILE_IDC_MAIN_10 : Nat := 2
def GST_H265_PROFILE_IDC_MAIN_STILL_PICTURE : Nat := 3
def GST_H265_PROFILE_IDC_FORMAT_RANGE_EXTENSION : Nat := 4

/-- `get_profile_idc`. -/
def getProfileIdc (profile_idc : Nat) : Nat :=
  if profile_idc = GST_H265_PROFILE_IDC_MAIN then STD_VIDEO_H265_PROFILE_IDC_MAIN
  else if profile_idc = GST_H265_PROFILE_IDC_MAIN_10 then STD_VIDEO_H265_PROFILE_IDC_MAIN_10
  else if profile_idc = GST_H265_PROFILE_IDC_MAIN_STILL_PICTURE then
    STD_VIDEO_H265_PROFILE_IDC_MAIN_STILL_PICTURE
  else if profile_idc = GST_H265_PROFILE_IDC_FORMAT_RANGE_EXTENSION then
    STD_VIDEO_H265_PROFILE_IDC_FORMAT_RANGE_EXTENSIONS
  else STD_VIDEO_H265_PROFILE_IDC_INVALID

/-! ## Casts -/

/-- `static_cast<uint8_t>`. -/
def toUInt8 (x : Nat) : Nat := x % 2 ^ 8

/-- `static_cast<uint16_t>`. -/
def toUInt16 (x : Nat) : Nat := x % 2 ^ 16

/-- `static_cast<int8_t>`: two's complement wrap-around. -/
def toInt8 (x : Int) : Int := x.bmod (2 ^ 8)

/-! ## The byte-level `memcpy` between tile tables -/

/-- Byte `b` of the little-endian image of a table of 32-bit words (zero past its end). -/
def wordsByte {n : Nat} (t : Fin n → UInt32) (b : Nat) : Nat :=
  if h : b / 4 < n then (t ⟨b / 4, h⟩).toNat / 256 ^ (b % 4) % 256 else 0

/-- `memcpy (dst, src, sizeof (dst))` from a table of 32-bit words into a table of `m`
16-bit words: halfword `j` is read back from bytes `2j` and `2j + 1` of the source. -/
def memcpyHalfwords {n : Nat} (m : Nat) (t : Fin n → UInt32) : Fin m → UInt16 :=
  fun j => UInt16.ofNat (wordsByte t (2 * j) + 256 * wordsByte t (2 * j + 1))

theorem wordsByte_lt {n : Nat} (t : Fin n → UInt32) (b : Nat) : wordsByte t b < 256 := by
  unfold wordsByte
  split <;> omega

theorem low_halfword_of_bytes (w : Nat) : w % 256 + 256 * (w / 256 % 256) = w % 65536 := by
  omega

theorem high_halfword_of_bytes (w : Nat) :
    w / 65536 % 256 + 256 * (w / 16777216 % 256) = w / 65536 % 65536 := by
  omega

/-- Halfword `j` of the copy is half `j % 2` of source word `j / 2`. -/
theorem memcpyHalfwords_toNat {n m : Nat} (t : Fin n → UInt32) (hmn : m ≤ 2 * n) (j : Fin m) :
    (memcpyHalfwords m t j).toNat =
      (t ⟨j / 2, by omega⟩).toNat / 65536 ^ (j.val % 2) % 65536 := by
  have hlt : wordsByte t (2 * j) + 256 * wordsByte t (2 * j + 1) < 65536 := by
    have := wordsByte_lt t (2 * j); have := wordsByte_lt t (2 * j + 1); omega
  have h0 : 2 * j.val / 4 = j.val / 2 := by omega
  have h1 : (2 * j.val + 1) / 4 = j.val / 2 := by omega
  rw [memcpyHalfwords, UInt16.toNat_ofNat_of_lt hlt]
  simp only [wordsByte, h0, h1, dif_pos (show j.val / 2 < n by omega)]
  generalize (t ⟨j / 2, _⟩).toNat = w
  obtain hj | hj := Nat.mod_two_eq_zero_or_one j.val
  · have e0 : 2 * j.val % 4 = 0 := by omega
    have e1 : (2 * j.val + 1) % 4 = 1 := by omega
    simpa [e0, e1, hj] using low_halfword_of_bytes w
  · have e0 : 2 * j.val % 4 = 2 := by omega
    have e1 : (2 * j.val + 1) % 4 = 3 := by omega
    simpa [e0, e1, hj, Nat.div_div_eq_div_mul] using high_halfword_of_bytes w

/-! ## `fill_sps` -/

/-- The VUI compound literal of `fill_sps`. -/
def spsVui (vui : GstH265VUIParams) : StdVideoH265SequenceParameterSetVui :=
  { (default : StdVideoH265SequenceParameterSetVui) with
    flags := { (default : StdVideoH265SpsVuiFlags) with
      aspect_ratio_info_present_flag := vui.aspect_ratio_info_present_flag
      overscan_info_present_flag := vui.overscan_info_present_flag
      overscan_appropriate_flag := vui.overscan_appropriate_flag
      video_signal_type_present_flag := vui.video_signal_type_present_flag
      video_full_range_flag := vui.video_full_range_flag
      colour_description_present_flag := vui.colour_description_present_flag
      chroma_loc_info_present_flag := vui.chroma_loc_info_present_flag
      neutral_chroma_indication_flag := vui.neutral_chroma_indication_flag
      field_seq_flag := vui.field_seq_flag
      frame_field_info_present_flag := vui.frame_field_info_present_flag
      default_display_window_flag := vui.default_display_window_flag
      vui_timing_info_present_flag := vui.timing_info_present_flag
      vui_poc_proportional_to_timing_flag := vui.poc_proportional_to_timing_flag
      vui_hrd_parameters_present_flag := vui.hrd_parameters_present_flag
      bitstream_restriction_flag := vui.bitstream_restriction_flag
      tiles_fixed_structure_flag := vui.tiles_fixed_structure_flag
      motion_vectors_over_pic_boundaries_flag := vui.motion_vectors_over_pic_boundaries_flag
      restricted_ref_pic_lists_flag := vui.restricted_ref_pic_lists_flag }
    aspect_ratio_idc := vui.aspect_ratio_idc
    sar_width := vui.sar_width
    sar_height := vui.sar_height
    video_format := vui.video_format
    colour_primaries := vui.colour_primaries
    transfer_characteristics := vui.transfer_characteristics
    matrix_coeffs := vui.matrix_coefficients
    chroma_sample_loc_type_top_field := vui.chroma_sample_loc_type_top_field
    chroma_sample_loc_type_bottom_field := vui.chroma_sample_loc_type_bottom_field
    def_disp_win_left_offset := toUInt16 vui.def_disp_win_left_offset
    def_disp_win_right_offset := toUInt16 vui.def_disp_win_right_offset
    def_disp_win_top_offset := toUInt16 vui.def_disp_win_top_offset
    def_disp_win_bottom_offset := toUInt16 vui.def_disp_win_bottom_offset
    vui_num_units_in_tick := vui.num_units_in_tick
    vui_time_scale := vui.time_scale
    vui_num_ticks_poc_diff_one_minus1 := vui.num_ticks_poc_diff_one_minus1
    min_spatial_segmentation_idc := vui.min_spatial_segmentation_idc
    max_bytes_per_pic_denom := vui.max_bytes_per_pic_denom
    max_bits_per_min_cu_denom := vui.max_bits_per_min_cu_denom
    log2_max_mv_length_horizontal := vui.log2_max_mv_length_horizontal
    log2_max_mv_length_vertical := vui.log2_max_mv_length_vertical }

/-- The SPS compound literal of `fill_sps`. -/
def spsLiteral (sps : GstH265SPS) : StdVideoH265SequenceParameterSet :=
  { (default : StdVideoH265SequenceParameterSet) with
    flags := { (default : StdVideoH265SpsFlags) with
      sps_temporal_id_nesting_flag := sps.temporal_id_nesting_flag
      separate_colour_plane_flag := sps.separate_colour_plane_flag
      scaling_list_enabled_flag := sps.scaling_list_enabled_flag
      sps_scaling_list_data_present_flag := sps.scaling_list_data_present_flag
      amp_enabled_flag := sps.amp_enabled_flag
      sample_adaptive_offset_enabled_flag := sps.sample_adaptive_offset_enabled_flag
      pcm_enabled_flag := sps.pcm_enabled_flag
      pcm_loop_filter_disabled_flag := sps.pcm_loop_filter_disabled_flag
      long_term_ref_pics_present_flag := sps.long_term_ref_pics_present_flag
      sps_temporal_mvp_enabled_flag := sps.temporal_mvp_enabled_flag
      strong_intra_smoothing_enabled_flag := sps.strong_intra_smoothing_enabled_flag
      vui_parameters_present_flag := sps.vui_parameters_present_flag
      sps_extension_present_flag := sps.sps_extension_flag
      sps_range_extension_flag := sps.sps_range_extension_flag
      sps_scc_extension_flag := sps.sps_scc_extension_flag
      sps_curr_pic_ref_enabled_flag := sps.sps_scc_extension_params.sps_curr_pic_ref_enabled_flag
      palette_mode_enabled_flag := sps.sps_scc_extension_params.palette_mode_enabled_flag
      sps_palette_predictor_initializer_present_flag :=
        sps.sps_scc_extension_params.sps_palette_predictor_initializers_present_flag
      intra_boundary_filtering_disabled_flag :=
        sps.sps_scc_extension_params.intra_boundary_filtering_disabled_flag }
    profile_idc := getProfileIdc sps.profile_tier_level.profile_idc
    level_idc := sps.profile_tier_level.level_idc
    pic_width_in_luma_samples := sps.pic_width_in_luma_samples
    pic_height_in_luma_samples := sps.pic_height_in_luma_samples
    sps_max_sub_layers_minus1 := sps.max_sub_layers_minus1
    sps_seq_parameter_set_id := sps.id
    chroma_format_idc := sps.chroma_format_idc
    bit_depth_luma_minus8 := sps.bit_depth_luma_minus8
    bit_depth_chroma_minus8 := sps.bit_depth_chroma_minus8
    log2_max_pic_order_cnt_lsb_minus4 := sps.log2_max_pic_order_cnt_lsb_minus4
    log2_min_luma_coding_block_size_minus3 := sps.log2_min_luma_coding_block_size_minus3
    log2_diff_max_min_luma_coding_block_size := sps.log2_diff_max_min_luma_coding_block_size
    log2_min_luma_transform_block_size_minus2 := sps.log2_min_transform_block_size_minus2
    log2_diff_max_min_luma_transform_block_size := sps.log2_diff_max_min_transform_block_size
    max_transform_hierarchy_depth_inter := sps.max_transform_hierarchy_depth_inter
    max_transform_hierarchy_depth_intra := sps.max_transform_hierarchy_depth_intra
    num_short_term_ref_pic_sets := sps.num_short_term_ref_pic_sets
    num_long_term_ref_pics_sps := sps.num_long_term_ref_pics_sps
    pcm_sample_bit_depth_luma_minus1 := sps.pcm_sample_bit_depth_luma_minus1
    pcm_sample_bit_depth_chroma_minus1 := sps.pcm_sample_bit_depth_chroma_minus1
    log2_min_pcm_luma_coding_block_size_minus3 := sps.log2_min_pcm_luma_coding_block_size_minus3
    log2_diff_max_min_pcm_luma_coding_block_size :=
      sps.log2_diff_max_min_pcm_luma_coding_block_size
    conf_win_left_offset := sps.conf_win_left_offset
    conf_win_right_offset := sps.conf_win_right_offset
    conf_win_top_offset := sps.conf_win_top_offset
    conf_win_bottom_offset := sps.conf_win_bottom_offset
    pDecPicBufMgr := true }

@[simp] theorem spsLiteral_pSequenceParameterSetVui (sps : GstH265SPS) :
    (spsLiteral sps).pSequenceParameterSetVui = false := rfl

/-- `fill_sps`: the VUI block when the SPS carries VUI parameters, then the SPS literal,
then the fields the source sets only under a condition. -/
def fillSps (sps : GstH265SPS) (vkp : VkH265Picture) : VkH265Picture :=
  let vkp := if sps.vui_parameters_present_flag then { vkp with vui := spsVui sps.vui_params }
    else vkp
  let std := spsLiteral sps
  let std := match sps.vps with
    | some vps => { std with sps_video_parameter_set_id := vps.id }
    | none => std
  let ext := sps.sps_extension_params
  let std := if sps.sps_extension_flag then
    { std with flags := { std.flags with
      transform_skip_rotation_enabled_flag := ext.transform_skip_context_enabled_flag
      transform_skip_context_enabled_flag := ext.transform_skip_context_enabled_flag
      implicit_rdpcm_enabled_flag := ext.implicit_rdpcm_enabled_flag
      explicit_rdpcm_enabled_flag := ext.explicit_rdpcm_enabled_flag
      extended_precision_processing_flag := ext.extended_precision_processing_flag
      intra_smoothing_disabled_flag := ext.intra_smoothing_disabled_flag
      high_precision_offsets_enabled_flag := ext.high_precision_offsets_enabled_flag
      persistent_rice_adaptation_enabled_flag := ext.persistent_rice_adaptation_enabled_flag
      cabac_bypass_alignment_enabled_flag := ext.cabac_bypass_alignment_enabled_flag } }
  else std
  let scc := sps.sps_scc_extension_params
  let std := if sps.sps_scc_extension_flag then
    { std with
      palette_max_size := scc.palette_max_size
      delta_palette_max_predictor_size := scc.delta_palette_max_predictor_size
      motion_vector_resolution_control_idc := scc.motion_vector_resolution_control_idc
      sps_num_palette_predictor_initializer_minus1 :=
        scc.sps_num_palette_predictor_initializer_minus1 }
  else std
  let std := if sps.vui_parameters_present_flag then
    { std with pSequenceParameterSetVui := true } else std
  { vkp with sps := std }

@[simp] theorem fillSps_pps (sps : GstH265SPS) (vkp : VkH265Picture) :
    (fillSps sps vkp).pps = vkp.pps := by
  unfold fillSps; split <;> rfl

theorem fillSps_sps (sps : GstH265SPS) (vkp vkp' : VkH265Picture) :
    (fillSps sps vkp).sps = (fillSps sps vkp').sps := rfl

theorem fillSps_vui (sps : GstH265SPS) (vkp : VkH265Picture) (h : sps.vui_parameters_present_flag = false) :
    (fillSps sps vkp).vui = vkp.vui := by
  unfold fillSps; simp [h]

theorem fillSps_pSequenceParameterSetVui (sps : GstH265SPS) (vkp : VkH265Picture) :
    (fillSps sps vkp).sps.pSequenceParameterSetVui = sps.vui_parameters_present_flag := by
  unfold fillSps
  cases sps.vui_parameters_present_flag <;> cases sps.sps_scc_extension_flag <;>
    cases sps.sps_extension_flag <;> cases sps.vps <;> rfl

@[simp] theorem fillSps_vui_of_present (sps : GstH265SPS) (vkp : VkH265Picture)
    (h : sps.vui_parameters_present_flag = true) : (fillSps sps vkp).vui = spsVui sps.vui_params := by
  unfold fillSps; simp [h]

/-- What the backend reads of an SPS descriptor is a function of the record converted: the
VUI block is rewritten exactly when the descriptor points to it. -/
theorem stdSps_fillSps (sps : GstH265SPS) (vkp : VkH265Picture) :
    (fillSps sps vkp).stdSps = ((fillSps sps default).sps,
      if sps.vui_parameters_present_flag then some (spsVui sps.vui_params) else none) := by
  cases h : sps.vui_parameters_present_flag <;>
    simp [VkH265Picture.stdSps, fillSps_pSequenceParameterSetVui, h, fillSps_sps sps vkp default]

/-! ## `fill_pps` -/

/-- The PPS compound literal of `fill_pps`. The scalar `cb_qp_offset` initialises the first
entry of the table `cb_qp_offset_list`, and the other entries are zero; likewise for `cr`. -/
def ppsLiteral (pps : GstH265PPS) : StdVideoH265PictureParameterSet :=
  let ext := pps.pps_extension_params
  let scc := pps.pps_scc_extension_params
  { (default : StdVideoH265PictureParameterSet) with
    flags := { (default : StdVideoH265PpsFlags) with
      dependent_slice_segments_enabled_flag := pps.dependent_slice_segments_enabled_flag
      output_flag_present_flag := pps.output_flag_present_flag
      sign_data_hiding_enabled_flag := pps.sign_data_hiding_enabled_flag
      cabac_init_present_flag := pps.cabac_init_present_flag
      constrained_intra_pred_flag := pps.constrained_intra_pred_flag
      transform_skip_enabled_flag := pps.transform_skip_enabled_flag
      cu_qp_delta_enabled_flag := pps.cu_qp_delta_enabled_flag
      pps_slice_chroma_qp_offsets_present_flag := pps.slice_chroma_qp_offsets_present_flag
      weighted_pred_flag := pps.weighted_pred_flag
      weighted_bipred_flag := pps.weighted_bipred_flag
      transquant_bypass_enabled_flag := pps.transquant_bypass_enabled_flag
      tiles_enabled_flag := pps.tiles_enabled_flag
      entropy_coding_sync_enabled_flag := pps.entropy_coding_sync_enabled_flag
      uniform_spacing_flag := pps.uniform_spacing_flag
      loop_filter_across_tiles_enabled_flag := pps.loop_filter_across_tiles_enabled_flag
      pps_loop_filter_across_slices_enabled_flag := pps.loop_filter_across_slices_enabled_flag
      deblocking_filter_control_present_flag := pps.deblocking_filter_control_present_flag
      deblocking_filter_override_enabled_flag := pps.deblocking_filter_override_enabled_flag
      pps_deblocking_filter_disabled_flag := pps.deblocking_filter_disabled_flag
      pps_scaling_list_data_present_flag := pps.scaling_list_data_present_flag
      lists_modification_present_flag := pps.lists_modification_present_flag
      slice_segment_header_extension_present_flag :=
        pps.slice_segment_header_extension_present_flag
      pps_extension_present_flag := pps.pps_extension_flag
      cross_component_prediction_enabled_flag := ext.cross_component_prediction_enabled_flag
      chroma_qp_offset_list_enabled_flag := ext.chroma_qp_offset_list_enabled_flag
      pps_curr_pic_ref_enabled_flag := scc.pps_curr_pic_ref_enabled_flag
      residual_adaptive_colour_transform_enabled_flag :=
        scc.residual_adaptive_colour_transform_enabled_flag
      pps_slice_act_qp_offsets_present_flag := scc.pps_slice_act_qp_offsets_present_flag
      pps_palette_predictor_initializer_present_flag :=
        scc.pps_palette_predictor_initializers_present_flag
      monochrome_palette_flag := scc.monochrome_palette_flag
      pps_range_extension_flag := pps.pps_range_extension_flag }
    pps_pic_parameter_set_id := toUInt8 pps.id
    pps_seq_parameter_set_id := toUInt8 pps.sps_id
    num_extra_slice_header_bits := pps.num_extra_slice_header_bits
    num_ref_idx_l0_default_active_minus1 := pps.num_ref_idx_l0_default_active_minus1
    num_ref_idx_l1_default_active_minus1 := pps.num_ref_idx_l1_default_active_minus1
    init_qp_minus26 := pps.init_qp_minus26
    diff_cu_qp_delta_depth := pps.diff_cu_qp_delta_depth
    pps_cb_qp_offset := pps.cb_qp_offset
    pps_cr_qp_offset := pps.cr_qp_offset
    num_tile_columns_minus1 := pps.num_tile_columns_minus1
    num_tile_rows_minus1 := pps.num_tile_rows_minus1
    pps_beta_offset_div2 := pps.beta_offset_div2
    pps_tc_offset_div2 := pps.tc_offset_div2
    log2_parallel_merge_level_minus2 := pps.log2_parallel_merge_level_minus2
    log2_max_transform_skip_block_size_minus2 :=
      toUInt8 ext.log2_max_transform_skip_block_size_minus2
    diff_cu_chroma_qp_offset_depth := ext.diff_cu_chroma_qp_offset_depth
    chroma_qp_offset_list_len_minus1 := ext.chroma_qp_offset_list_len_minus1
    cb_qp_offset_list := fun i => if i.val = 0 then pps.cb_qp_offset else 0
    cr_qp_offset_list := fun i => if i.val = 0 then pps.cr_qp_offset else 0
    log2_sao_offset_scale_luma := ext.log2_sao_offset_scale_luma
    log2_sao_offset_scale_chroma := ext.log2_sao_offset_scale_chroma
    pps_act_y_qp_offset_plus5 := toInt8 scc.pps_act_y_qp_offset_plus5
    pps_act_cb_qp_offset_plus5 := toInt8 scc.pps_act_cb_qp_offset_plus5
    pps_act_cr_qp_offset_plus5 := toInt8 scc.pps_act_cr_qp_offset_plus3
    pps_num_palette_predictor_initializer := scc.pps_num_palette_predictor_initializer
    luma_bit_depth_entry_minus8 := scc.luma_bit_depth_entry_minus8
    chroma_bit_depth_entry_minus8 := toUInt8 scc.chroma_bit_depth_entry_minus8 }

/-- `fill_pps`: the literal, then the two `memcpy`s of the tile tables. -/
def fillPps (pps : GstH265PPS) (vkp : VkH265Picture) : VkH265Picture :=
  let std := ppsLiteral pps
  let std := { std with
    column_width_minus1 := memcpyHalfwords _ pps.column_width_minus1 }
  let std := { std with
    row_height_minus1 := memcpyHalfwords _ pps.row_height_minus1 }
  { vkp with pps := std }

@[simp] theorem fillPps_stdSps (pps : GstH265PPS) (vkp : VkH265Picture) :
    (fillPps pps vkp).stdSps = vkp.stdSps := rfl

theorem fillPps_pps (pps : GstH265PPS) (vkp vkp' : VkH265Picture) :
    (fillPps pps vkp).pps = (fillPps pps vkp').pps := rfl

theorem tile_col_half_lt (j : Fin STD_VIDEO_H265_CHROMA_QP_OFFSET_TILE_COLS_LIST_SIZE) :
    j.val / 2 < 20 := by
  have := j.isLt; simp only [STD_VIDEO_H265_CHROMA_QP_OFFSET_TILE_COLS_LIST_SIZE] at this
  omega

/-- The descriptor's column widths: entry `j` is half `j % 2` of the record's entry
`j / 2`, not the record's entry `j`. -/
theorem fillPps_column_width_minus1 (pps : GstH265PPS) (vkp : VkH265Picture)
    (j : Fin STD_VIDEO_H265_CHROMA_QP_OFFSET_TILE_COLS_LIST_SIZE) :
    ((fillPps pps vkp).pps.column_width_minus1 j).toNat =
      (pps.column_width_minus1 ⟨j / 2, tile_col_half_lt j⟩).toNat / 65536 ^ (j.val % 2) %
        65536 :=
  memcpyHalfwords_toNat _ (by decide) j

/-- An SPS with range extensions whose rotation flag is set and context flag clear, and a
PPS with range extensions, a two-entry chroma QP offset table and three tile columns of
explicit widths: the descriptors `fill_sps` and `fill_pps` build disagree with each record's
own field of the same name. -/
theorem fill_disagrees_with_records :
    let sps : GstH265SPS := { (default : GstH265SPS) with
      sps_extension_flag := true
      sps_range_extension_flag := true
      sps_extension_params := { (default : GstH265SPSExtensionParams) with
        transform_skip_rotation_enabled_flag := true } }
    let pps : GstH265PPS := { (default : GstH265PPS) with
      pps_extension_flag := true
      pps_range_extension_flag := true
      pps_extension_params := { (default : GstH265PPSExtensionParams) with
        chroma_qp_offset_list_enabled_flag := true
        chroma_qp_offset_list_len_minus1 := 1
        cb_qp_offset_list := fun i => if i.val = 1 then 2 else 0 }
      tiles_enabled_flag := true
      num_tile_columns_minus1 := 2
      column_width_minus1 := fun i => if i.val = 1 then 5 else 0 }
    sps.sps_extension_params.transform_skip_rotation_enabled_flag = true ∧
      (fillSps sps default).sps.flags.transform_skip_rotation_enabled_flag = false ∧
      pps.pps_extension_params.cb_qp_offset_list 1 = 2 ∧
      (fillPps pps default).pps.cb_qp_offset_list ⟨1, by decide⟩ = 0 ∧
      pps.column_width_minus1 1 = 5 ∧
      (fillPps pps default).pps.column_width_minus1 ⟨1, by decide⟩ = 0 :=
  ⟨rfl, rfl, rfl, rfl, rfl, by decide⟩

end H265Dec

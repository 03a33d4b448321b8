import H265Dec.Parsed

/-!
# The backend's standard descriptors

The fixed-layout parameter-set descriptors of the Vulkan Video standard headers that the
element fills for the decode backend, and `VkH265Picture`, the block that holds one of
each (the element keeps one for the whole stream and one in every picture).

Enumerations are `Nat` with the header's values, so that a zero-initialised descriptor
(value `0`, which names no enumerator) can be written down. A descriptor's pointer to
another block of the same `VkH265Picture` is a `Bool` saying whether it is set; the block
it reaches is read through `VkH265Picture.stdSps`.

The header is not part of the repository. The table sizes and the profile values below
are those of `vulkan_video_codec_h265std.h`, which `h265dec.cpp` includes.
-/

namespace H265Dec

/-! ## Constants of the standard header -/

/-- `STD_VIDEO_H265_CHROMA_QP_OFFSET_TILE_COLS_LIST_SIZE`. -/
def STD_VIDEO_H265_CHROMA_QP_OFFSET_TILE_COLS_LIST_SIZE : Nat := 19

/-- `STD_VIDEO_H265_CHROMA_QP_OFFSET_TILE_ROWS_LIST_SIZE`. -/
def STD_VIDEO_H265_CHROMA_QP_OFFSET_TILE_ROWS_LIST_SIZE : Nat := 21

/-- `STD_VIDEO_H265_CHROMA_QP_OFFSET_LIST_SIZE`. -/
def STD_VIDEO_H265_CHROMA_QP_OFFSET_LIST_SIZE : Nat := 6

def STD_VIDEO_H265_PROFILE_IDC_MAIN : Nat := 1
def STD_VIDEO_H265_PROFILE_IDC_MAIN_10 : Nat := 2
def STD_VIDEO_H265_PROFILE_IDC_MAIN_STILL_PICTURE : Nat := 3
def STD_VIDEO_H265_PROFILE_IDC_FORMAT_RANGE_EXTENSIONS : Nat := 4
def STD_VIDEO_H265_PROFILE_IDC_INVALID : Nat := 0x7FFFFFFF

/-! ## SPS and VUI -/

/-- `StdVideoH265SpsVuiFlags`. -/
structure StdVideoH265SpsVuiFlags where
  aspect_ratio_info_present_flag : Bool
  overscan_info_present_flag : Bool
  overscan_appropriate_flag : Bool
  video_signal_type_present_flag : Bool
  video_full_range_flag : Bool
  colour_description_present_flag : Bool
  chroma_loc_info_present_flag : Bool
  neutral_chroma_indication_flag : Bool
  field_seq_flag : Bool
  frame_field_info_present_flag : Bool
  default_display_window_flag : Bool
  vui_timing_info_present_flag : Bool
  vui_poc_proportional_to_timing_flag : Bool
  vui_hrd_parameters_present_flag : Bool
  bitstream_restriction_flag : Bool
  tiles_fixed_structure_flag : Bool
  motion_vectors_over_pic_boundaries_flag : Bool
  restricted_ref_pic_lists_flag : Bool
  deriving Inhabited

/-- `StdVideoH265SequenceParameterSetVui`. -/
structure StdVideoH265SequenceParameterSetVui where
  flags : StdVideoH265SpsVuiFlags
  aspect_ratio_idc : Nat
  sar_width : Nat
  sar_height : Nat
  video_format : Nat
  colour_primaries : Nat
  transfer_characteristics : Nat
  matrix_coeffs : Nat
  chroma_sample_loc_type_top_field : Nat
  chroma_sample_loc_type_bottom_field : Nat
  def_disp_win_left_offset : Nat
  def_disp_win_right_offset : Nat
  def_disp_win_top_offset : Nat
  def_disp_win_bottom_offset : Nat
  vui_num_units_in_tick : Nat
  vui_time_scale : Nat
  vui_num_ticks_poc_diff_one_minus1 : Nat
  min_spatial_segmentation_idc : Nat
  max_bytes_per_pic_denom : Nat
  max_bits_per_min_cu_denom : Nat
  log2_max_mv_length_horizontal : Nat
  log2_max_mv_length_vertical : Nat
  deriving Inhabited

/-- `StdVideoH265SpsFlags`. -/
structure StdVideoH265SpsFlags where
  sps_temporal_id_nesting_flag : Bool
  separate_colour_plane_flag : Bool
  scaling_list_enabled_flag : Bool
  sps_scaling_list_data_present_flag : Bool
  amp_enabled_flag : Bool
  sample_adaptive_offset_enabled_flag : Bool
  pcm_enabled_flag : Bool
  pcm_loop_filter_disabled_flag : Bool
  long_term_ref_pics_present_flag : Bool
  sps_temporal_mvp_enabled_flag : Bool
  strong_intra_smoothing_enabled_flag : Bool
  vui_parameters_present_flag : Bool
  sps_extension_present_flag : Bool
  sps_range_extension_flag : Bool
  transform_skip_rotation_enabled_flag : Bool
  transform_skip_context_enabled_flag : Bool
  implicit_rdpcm_enabled_flag : Bool
  explicit_rdpcm_enabled_flag : Bool
  extended_precision_processing_flag : Bool
  intra_smoothing_disabled_flag : Bool
  high_precision_offsets_enabled_flag : Bool
  persistent_rice_adaptation_enabled_flag : Bool
  cabac_bypass_alignment_enabled_flag : Bool
  sps_scc_extension_flag : Bool
  sps_curr_pic_ref_enabled_flag : Bool
  palette_mode_enabled_flag : Bool
  sps_palette_predictor_initializer_present_flag : Bool
  intra_boundary_filtering_disabled_flag : Bool
  deriving Inhabited

/-- `StdVideoH265SequenceParameterSet`. The two pointers say whether they are set; both
reach blocks of the `VkH265Picture` that holds the descriptor. -/
structure StdVideoH265SequenceParameterSet where
  flags : StdVideoH265SpsFlags
  profile_idc : Nat
  level_idc : Nat
  pic_width_in_luma_samples : Nat
  pic_height_in_luma_samples : Nat
  sps_video_parameter_set_id : Nat
  sps_max_sub_layers_minus1 : Nat
  sps_seq_parameter_set_id : Nat
  chroma_format_idc : Nat
  bit_depth_luma_minus8 : Nat
  bit_depth_chroma_minus8 : Nat
  log2_max_pic_order_cnt_lsb_minus4 : Nat
  log2_min_luma_coding_block_size_minus3 : Nat
  log2_diff_max_min_luma_coding_block_size : Nat
  log2_min_luma_transform_block_size_minus2 : Nat
  log2_diff_max_min_luma_transform_block_size : Nat
  max_transform_hierarchy_depth_inter : Nat
  max_transform_hierarchy_depth_intra : Nat
  num_short_term_ref_pic_sets : Nat
  num_long_term_ref_pics_sps : Nat
  pcm_sample_bit_depth_luma_minus1 : Nat
  pcm_sample_bit_depth_chroma_minus1 : Nat
  log2_min_pcm_luma_coding_block_size_minus3 : Nat
  log2_diff_max_min_pcm_luma_coding_block_size : Nat
  conf_win_left_offset : Nat
  conf_win_right_offset : Nat
  conf_win_top_offset : Nat
  conf_win_bottom_offset : Nat
  pDecPicBufMgr : Bool
  pSequenceParameterSetVui : Bool
  palette_max_size : Nat
  delta_palette_max_predictor_size : Nat
  motion_vector_resolution_control_idc : Nat
  sps_num_palette_predictor_initializer_minus1 : Nat
  deriving Inhabited

/-! ## PPS -/

/-- `StdVideoH265PpsFlags`. -/
structure StdVideoH265PpsFlags where
  dependent_slice_segments_enabled_flag : Bool
  output_flag_present_flag : Bool
  sign_data_hiding_enabled_flag : Bool
  cabac_init_present_flag : Bool
  constrained_intra_pred_flag : Bool
  transform_skip_enabled_flag : Bool
  cu_qp_delta_enabled_flag : Bool
  pps_slice_chroma_qp_offsets_present_flag : Bool
  weighted_pred_flag : Bool
  weighted_bipred_flag : Bool
  transquant_bypass_enabled_flag : Bool
  tiles_enabled_flag : Bool
  entropy_coding_sync_enabled_flag : Bool
  uniform_spacing_flag : Bool
  loop_filter_across_tiles_enabled_flag : Bool
  pps_loop_filter_across_slices_enabled_flag : Bool
  deblocking_filter_control_present_flag : Bool
  deblocking_filter_override_enabled_flag : Bool
  pps_deblocking_filter_disabled_flag : Bool
  pps_scaling_list_data_present_flag : Bool
  lists_modification_present_flag : Bool
  slice_segment_header_extension_present_flag : Bool
  pps_extension_present_flag : Bool
  cross_component_prediction_enabled_flag : Bool
  chroma_qp_offset_list_enabled_flag : Bool
  pps_curr_pic_ref_enabled_flag : Bool
  residual_adaptive_colour_transform_enabled_flag : Bool
  pps_slice_act_qp_offsets_present_flag : Bool
  pps_palette_predictor_initializer_present_flag : Bool
  monochrome_palette_flag : Bool
  pps_range_extension_flag : Bool
  deriving Inhabited

/-- `StdVideoH265PictureParameterSet`. -/
structure StdVideoH265PictureParameterSet where
  flags : StdVideoH265PpsFlags
  pps_pic_parameter_set_id : Nat
  pps_seq_parameter_set_id : Nat
  num_extra_slice_header_bits : Nat
  num_ref_idx_l0_default_active_minus1 : Nat
  num_ref_idx_l1_default_active_minus1 : Nat
  init_qp_minus26 : Int
  diff_cu_qp_delta_depth : Nat
  pps_cb_qp_offset : Int
  pps_cr_qp_offset : Int
  num_tile_columns_minus1 : Nat
  num_tile_rows_minus1 : Nat
  column_width_minus1 : Fin STD_VIDEO_H265_CHROMA_QP_OFFSET_TILE_COLS_LIST_SIZE → UInt16
  row_height_minus1 : Fin STD_VIDEO_H265_CHROMA_QP_OFFSET_TILE_ROWS_LIST_SIZE → UInt16
  pps_beta_offset_div2 : Int
  pps_tc_offset_div2 : Int
  log2_parallel_merge_level_minus2 : Nat
  log2_max_transform_skip_block_size_minus2 : Nat
  diff_cu_chroma_qp_offset_depth : Nat
  chroma_qp_offset_list_len_minus1 : Nat
  cb_qp_offset_list : Fin STD_VIDEO_H265_CHROMA_QP_OFFSET_LIST_SIZE → Int
  cr_qp_offset_list : Fin STD_VIDEO_H265_CHROMA_QP_OFFSET_LIST_SIZE → Int
  log2_sao_offset_scale_luma : Nat
  log2_sao_offset_scale_chroma : Nat
  pps_act_y_qp_offset_plus5 : Int
  pps_act_cb_qp_offset_plus5 : Int
  pps_act_cr_qp_offset_plus5 : Int
  pps_num_palette_predictor_initializer : Nat
  luma_bit_depth_entry_minus8 : Nat
  chroma_bit_depth_entry_minus8 : Nat
  deriving Inhabited

/-! ## The descriptor block -/

/-- `VkH265Picture`: the descriptors of one SPS (with its VUI) and one PPS. The element
never writes the block's VPS, HRD, buffer-management or scaling-list descriptors. -/
structure VkH265Picture where
  vui : StdVideoH265SequenceParameterSetVui
  sps : StdVideoH265SequenceParameterSet
  pps : StdVideoH265PictureParameterSet
  deriving Inhabited

/-- The SPS descriptor as the backend reads it: the record, with the VUI its
`pSequenceParameterSetVui` reaches when that pointer is set. -/
def VkH265Picture.stdSps (vkp : VkH265Picture) :
    StdVideoH265SequenceParameterSet × Option StdVideoH265SequenceParameterSetVui :=
  (vkp.sps, if vkp.sps.pSequenceParameterSetVui then some vkp.vui else none)

end H265Dec

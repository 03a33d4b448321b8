/-!
# The parsed parameter sets

The records the upstream H.265 parser hands to the decoder element: `GstH265VPS`,
`GstH265SPS` and `GstH265PPS` with the sub-structures they embed. Each record keeps the
fields that `h265dec.cpp` reads (in the converters `fill_sps` / `fill_pps`, the comparators
`sps_cmp` / `pps_cmp` / `vps_cmp`, `new_sequence` and `start_picture`), under the source's
names.

Scalars are `Nat` (unsigned) or `Int` (signed); a conversion that can lose bits is written
where the source casts. Flags are `Bool`: the parser reads each from a one-bit syntax
element. Fixed-size tables are functions on `Fin n`. The two tile tables are `UInt32`,
because `fill_pps` copies them with `memcpy` and the copy is modelled byte by byte.

A parent pointer (`sps->vps`, `pps->sps`) is the parent record itself: every read of one
in the source happens while the record is in hand, and the comparators never follow them.
`default` is the zero-initialised record, as in a freshly allocated decoder.
-/

namespace H265Dec

/-! ## Shared sub-structures -/

/-- The one field of the HRD parameters that the element reads. -/
structure GstH265HRDParams where
  bit_rate_scale : Nat
  deriving Inhabited

/-- Profile, tier and level. -/
structure GstH265ProfileTierLevel where
  profile_idc : Nat
  progressive_source_flag : Bool
  interlaced_source_flag : Bool
  level_idc : Nat
  deriving Inhabited

set_option genInjectivity false in
/-- VUI parameters of an SPS. -/
structure GstH265VUIParams where
  aspect_ratio_info_present_flag : Bool
  aspect_ratio_idc : Nat
  sar_width : Nat
  sar_height : Nat
  overscan_info_present_flag : Bool
  overscan_appropriate_flag : Bool
  video_signal_type_present_flag : Bool
  video_format : Nat
  video_full_range_flag : Bool
  colour_description_present_flag : Bool
  colour_primaries : Nat
  transfer_characteristics : Nat
  matrix_coefficients : Nat
  chroma_loc_info_present_flag : Bool
  chroma_sample_loc_type_top_field : Nat
  chroma_sample_loc_type_bottom_field : Nat
  neutral_chroma_indication_flag : Bool
  field_seq_flag : Bool
  frame_field_info_present_flag : Bool
  default_display_window_flag : Bool
  def_disp_win_left_offset : Nat
  def_disp_win_right_offset : Nat
  def_disp_win_top_offset : Nat
  def_disp_win_bottom_offset : Nat
  timing_info_present_flag : Bool
  num_units_in_tick : Nat
  time_scale : Nat
  poc_proportional_to_timing_flag : Bool
  num_ticks_poc_diff_one_minus1 : Nat
  hrd_parameters_present_flag : Bool
  hrd_params : GstH265HRDParams
  bitstream_restriction_flag : Bool
  tiles_fixed_structure_flag : Bool
  motion_vectors_over_pic_boundaries_flag : Bool
  restricted_ref_pic_lists_flag : Bool
  min_spatial_segmentation_idc : Nat
  max_bytes_per_pic_denom : Nat
  max_bits_per_min_cu_denom : Nat
  log2_max_mv_length_horizontal : Nat
  log2_max_mv_length_vertical : Nat
  deriving Inhabited

/-! ## VPS -/

/-- A video parameter set. -/
structure GstH265VPS where
  id : Nat
  base_layer_internal_flag : Bool
  base_layer_available_flag : Bool
  max_layers_minus1 : Nat
  max_sub_layers_minus1 : Nat
  temporal_id_nesting_flag : Bool
  profile_tier_level : GstH265ProfileTierLevel
  sub_layer_ordering_info_present_flag : Bool
  max_layer_id : Nat
  num_layer_sets_minus1 : Nat
  timing_info_present_flag : Bool
  num_units_in_tick : Nat
  time_scale : Nat
  poc_proportional_to_timing_flag : Bool
  num_ticks_poc_diff_one_minus1 : Nat
  num_hrd_parameters : Nat
  hrd_layer_set_idx : Nat
  cprms_present_flag : Bool
  hrd_params : GstH265HRDParams
  vps_extension : Bool
  valid : Bool
  deriving Inhabited

/-! ## SPS -/

/-- Range extension parameters of an SPS. -/
structure GstH265SPSExtensionParams where
  transform_skip_rotation_enabled_flag : Bool
  transform_skip_context_enabled_flag : Bool
  implicit_rdpcm_enabled_flag : Bool
  explicit_rdpcm_enabled_flag : Bool
  extended_precision_processing_flag : Bool
  intra_smoothing_disabled_flag : Bool
  high_precision_offsets_enabled_flag : Bool
  persistent_rice_adaptation_enabled_flag : Bool
  cabac_bypass_alignment_enabled_flag : Bool
  deriving Inhabited

/-- Screen content coding extension parameters of an SPS. -/
structure GstH265SPSSccExtensionParams where
  sps_curr_pic_ref_enabled_flag : Bool
  palette_mode_enabled_flag : Bool
  palette_max_size : Nat
  delta_palette_max_predictor_size : Nat
  sps_palette_predictor_initializers_present_flag : Bool
  sps_num_palette_predictor_initializer_minus1 : Nat
  motion_vector_resolution_control_idc : Nat
  intra_boundary_filtering_disabled_flag : Bool
  deriving Inhabited

/-- `GST_H265_MAX_SUB_LAYERS`, the length of the per-sub-layer tables. -/
def GST_H265_MAX_SUB_LAYERS : Nat := 8

set_option genInjectivity false in
/-- A sequence parameter set, with the values the parser computes from it. -/
structure GstH265SPS where
  id : Nat
  vps : Option GstH265VPS
  max_sub_layers_minus1 : Nat
  temporal_id_nesting_flag : Bool
  profile_tier_level : GstH265ProfileTierLevel
  chroma_format_idc : Nat
  separate_colour_plane_flag : Bool
  pic_width_in_luma_samples : Nat
  pic_height_in_luma_samples : Nat
  conformance_window_flag : Bool
  conf_win_left_offset : Nat
  conf_win_right_offset : Nat
  conf_win_top_offset : Nat
  conf_win_bottom_offset : Nat
  bit_depth_luma_minus8 : Nat
  bit_depth_chroma_minus8 : Nat
  log2_max_pic_order_cnt_lsb_minus4 : Nat
  sub_layer_ordering_info_present_flag : Bool
  max_dec_pic_buffering_minus1 : Fin GST_H265_MAX_SUB_LAYERS → Nat
  max_num_reorder_pics : Fin GST_H265_MAX_SUB_LAYERS → Nat
  max_latency_increase_plus1 : Fin GST_H265_MAX_SUB_LAYERS → Nat
  log2_min_luma_coding_block_size_minus3 : Nat
  log2_diff_max_min_luma_coding_block_size : Nat
  log2_min_transform_block_size_minus2 : Nat
  log2_diff_max_min_transform_block_size : Nat
  max_transform_hierarchy_depth_inter : Nat
  max_transform_hierarchy_depth_intra : Nat
  scaling_list_enabled_flag : Bool
  scaling_list_data_present_flag : Bool
  amp_enabled_flag : Bool
  sample_adaptive_offset_enabled_flag : Bool
  pcm_enabled_flag : Bool
  pcm_sample_bit_depth_luma_minus1 : Nat
  pcm_sample_bit_depth_chroma_minus1 : Nat
  log2_min_pcm_luma_coding_block_size_minus3 : Nat
  log2_diff_max_min_pcm_luma_coding_block_size : Nat
  pcm_loop_filter_disabled_flag : Bool
  num_short_term_ref_pic_sets : Nat
  long_term_ref_pics_present_flag : Bool
  num_long_term_ref_pics_sps : Nat
  temporal_mvp_enabled_flag : Bool
  strong_intra_smoothing_enabled_flag : Bool
  vui_parameters_present_flag : Bool
  vui_params : GstH265VUIParams
  sps_extension_flag : Bool
  sps_range_extension_flag : Bool
  sps_multilayer_extension_flag : Bool
  sps_3d_extension_flag : Bool
  sps_scc_extension_flag : Bool
  sps_extension_4bits : Nat
  sps_extension_params : GstH265SPSExtensionParams
  sps_scc_extension_params : GstH265SPSSccExtensionParams
  chroma_array_type : Nat
  width : Int
  height : Int
  crop_rect_width : Int
  crop_rect_height : Int
  crop_rect_x : Int
  crop_rect_y : Int
  fps_num : Int
  fps_den : Int
  valid : Bool
  deriving Inhabited

/-! ## PPS -/

/-- Range extension parameters of a PPS. -/
structure GstH265PPSExtensionParams where
  log2_max_transform_skip_block_size_minus2 : Nat
  cross_component_prediction_enabled_flag : Bool
  chroma_qp_offset_list_enabled_flag : Bool
  diff_cu_chroma_qp_offset_depth : Nat
  chroma_qp_offset_list_len_minus1 : Nat
  cb_qp_offset_list : Fin 6 → Int
  cr_qp_offset_list : Fin 6 → Int
  log2_sao_offset_scale_luma : Nat
  log2_sao_offset_scale_chroma : Nat
  deriving Inhabited

/-- Screen content coding extension parameters of a PPS. -/
structure GstH265PPSSccExtensionParams where
  pps_curr_pic_ref_enabled_flag : Bool
  residual_adaptive_colour_transform_enabled_flag : Bool
  pps_slice_act_qp_offsets_present_flag : Bool
  pps_act_y_qp_offset_plus5 : Int
  pps_act_cb_qp_offset_plus5 : Int
  pps_act_cr_qp_offset_plus3 : Int
  pps_palette_predictor_initializers_present_flag : Bool
  pps_num_palette_predictor_initializer : Nat
  monochrome_palette_flag : Bool
  luma_bit_depth_entry_minus8 : Nat
  chroma_bit_depth_entry_minus8 : Nat
  deriving Inhabited

set_option genInjectivity false in
/-- A picture parameter set, with the SPS it refers to. -/
structure GstH265PPS where
  id : Nat
  sps_id : Nat
  sps : GstH265SPS
  dependent_slice_segments_enabled_flag : Bool
  output_flag_present_flag : Bool
  num_extra_slice_header_bits : Nat
  sign_data_hiding_enabled_flag : Bool
  cabac_init_present_flag : Bool
  num_ref_idx_l0_default_active_minus1 : Nat
  num_ref_idx_l1_default_active_minus1 : Nat
  init_qp_minus26 : Int
  constrained_intra_pred_flag : Bool
  transform_skip_enabled_flag : Bool
  cu_qp_delta_enabled_flag : Bool
  diff_cu_qp_delta_depth : Nat
  cb_qp_offset : Int
  cr_qp_offset : Int
  slice_chroma_qp_offsets_present_flag : Bool
  weighted_pred_flag : Bool
  weighted_bipred_flag : Bool
  transquant_bypass_enabled_flag : Bool
  tiles_enabled_flag : Bool
  entropy_coding_sync_enabled_flag : Bool
  num_tile_columns_minus1 : Nat
  num_tile_rows_minus1 : Nat
  uniform_spacing_flag : Bool
  column_width_minus1 : Fin 20 → UInt32
  row_height_minus1 : Fin 22 → UInt32
  loop_filter_across_tiles_enabled_flag : Bool
  loop_filter_across_slices_enabled_flag : Bool
  deblocking_filter_control_present_flag : Bool
  deblocking_filter_override_enabled_flag : Bool
  deblocking_filter_disabled_flag : Bool
  beta_offset_div2 : Int
  tc_offset_div2 : Int
  scaling_list_data_present_flag : Bool
  lists_modification_present_flag : Bool
  log2_parallel_merge_level_minus2 : Nat
  slice_segment_header_extension_present_flag : Bool
  pps_extension_flag : Bool
  pps_range_extension_flag : Bool
  pps_multilayer_extension_flag : Bool
  pps_3d_extension_flag : Bool
  pps_scc_extension_flag : Bool
  pps_extension_4bits : Nat
  pps_extension_params : GstH265PPSExtensionParams
  pps_scc_extension_params : GstH265PPSSccExtensionParams
  PicWidthInCtbsY : Nat
  PicHeightInCtbsY : Nat
  valid : Bool
  deriving Inhabited

end H265Dec

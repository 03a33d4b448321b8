import H265Dec.Convert
import Mathlib.Data.List.FinRange

/-!
# The change comparators

`sps_cmp`, `pps_cmp` and `vps_cmp` of `h265dec.cpp` decide whether a newly parsed parameter
set differs from the cached one. Each compares a fixed list of fields with `CMP_FIELD` and
returns `false` at the first difference, so each is the conjunction of its comparisons,
taken here in the source's order.

The comparators skip some fields the converters read.
**Theorem (`fill_determined_by_compared_fields`).** When `sps_cmp a b` holds, `fill_sps a`
is `fill_sps` of `b` with five parts taken from `a` (`profile_tier_level`, `vui_params`, the
VPS pointer and the two extension blocks): nothing else of `b` can make a difference, and
those five can. The same holds of `pps_cmp` and `fill_pps` with `sps_id`, the two tile
tables and the two extension blocks.
-/

namespace H265Dec

/-- `sps_cmp`. The loop over `GST_H265_MAX_SUB_LAYERS` compares the three per-sub-layer
tables entry by entry. -/
def spsCmp (a b : GstH265SPS) : Bool :=
  a.id == b.id &&
  a.max_sub_layers_minus1 == b.max_sub_layers_minus1 &&
  a.temporal_id_nesting_flag == b.temporal_id_nesting_flag &&
  a.chroma_format_idc == b.chroma_format_idc &&
  a.separate_colour_plane_flag == b.separate_colour_plane_flag &&
  a.pic_width_in_luma_samples == b.pic_width_in_luma_samples &&
  a.pic_height_in_luma_samples == b.pic_height_in_luma_samples &&
  a.conformance_window_flag == b.conformance_window_flag &&
  a.conf_win_left_offset == b.conf_win_left_offset &&
  a.conf_win_right_offset == b.conf_win_right_offset &&
  a.conf_win_top_offset == b.conf_win_top_offset &&
  a.conf_win_bottom_offset == b.conf_win_bottom_offset &&
  a.bit_depth_luma_minus8 == b.bit_depth_luma_minus8 &&
  a.bit_depth_chroma_minus8 == b.bit_depth_chroma_minus8 &&
  a.log2_max_pic_order_cnt_lsb_minus4 == b.log2_max_pic_order_cnt_lsb_minus4 &&
  a.sub_layer_ordering_info_present_flag == b.sub_layer_ordering_info_present_flag &&
  (List.finRange GST_H265_MAX_SUB_LAYERS).all (fun i =>
    a.max_dec_pic_buffering_minus1 i == b.max_dec_pic_buffering_minus1 i &&
    a.max_num_reorder_pics i == b.max_num_reorder_pics i &&
    a.max_latency_increase_plus1 i == b.max_latency_increase_plus1 i) &&
  a.log2_min_luma_coding_block_size_minus3 == b.log2_min_luma_coding_block_size_minus3 &&
  a.log2_diff_max_min_luma_coding_block_size == b.log2_diff_max_min_luma_coding_block_size &&
  a.log2_min_transform_block_size_minus2 == b.log2_min_transform_block_size_minus2 &&
  a.log2_diff_max_min_transform_block_size == b.log2_diff_max_min_transform_block_size &&
  a.max_transform_hierarchy_depth_inter == b.max_transform_hierarchy_depth_inter &&
  a.max_transform_hierarchy_depth_intra == b.max_transform_hierarchy_depth_intra &&
  a.scaling_list_enabled_flag == b.scaling_list_enabled_flag &&
  a.scaling_list_data_present_flag == b.scaling_list_data_present_flag &&
  a.amp_enabled_flag == b.amp_enabled_flag &&
  a.sample_adaptive_offset_enabled_flag == b.sample_adaptive_offset_enabled_flag &&
  a.pcm_enabled_flag == b.pcm_enabled_flag &&
  a.pcm_sample_bit_depth_luma_minus1 == b.pcm_sample_bit_depth_luma_minus1 &&
  a.pcm_sample_bit_depth_chroma_minus1 == b.pcm_sample_bit_depth_chroma_minus1 &&
  a.log2_min_pcm_luma_coding_block_size_minus3 ==
    b.log2_min_pcm_luma_coding_block_size_minus3 &&
  a.log2_diff_max_min_pcm_luma_coding_block_size ==
    b.log2_diff_max_min_pcm_luma_coding_block_size &&
  a.pcm_loop_filter_disabled_flag == b.pcm_loop_filter_disabled_flag &&
  a.num_short_term_ref_pic_sets == b.num_short_term_ref_pic_sets &&
  a.long_term_ref_pics_present_flag == b.long_term_ref_pics_present_flag &&
  a.num_long_term_ref_pics_sps == b.num_long_term_ref_pics_sps &&
  a.temporal_mvp_enabled_flag == b.temporal_mvp_enabled_flag &&
  a.strong_intra_smoothing_enabled_flag == b.strong_intra_smoothing_enabled_flag &&
  a.vui_parameters_present_flag == b.vui_parameters_present_flag &&
  a.sps_extension_flag == b.sps_extension_flag &&
  a.sps_range_extension_flag == b.sps_range_extension_flag &&
  a.sps_multilayer_extension_flag == b.sps_multilayer_extension_flag &&
  a.sps_3d_extension_flag == b.sps_3d_extension_flag &&
  a.sps_scc_extension_flag == b.sps_scc_extension_flag &&
  a.sps_extension_4bits == b.sps_extension_4bits &&
  a.chroma_array_type == b.chroma_array_type &&
  a.width == b.width &&
  a.height == b.height &&
  a.crop_rect_width == b.crop_rect_width &&
  a.crop_rect_height == b.crop_rect_height &&
  a.crop_rect_x == b.crop_rect_x &&
  a.crop_rect_y == b.crop_rect_y &&
  a.fps_num == b.fps_num &&
  a.fps_den == b.fps_den &&
  a.valid == b.valid

/-- `pps_cmp`. -/
def ppsCmp (a b : GstH265PPS) : Bool :=
  a.id == b.id &&
  a.dependent_slice_segments_enabled_flag == b.dependent_slice_segments_enabled_flag &&
  a.output_flag_present_flag == b.output_flag_present_flag &&
  a.num_extra_slice_header_bits == b.num_extra_slice_header_bits &&
  a.sign_data_hiding_enabled_flag == b.sign_data_hiding_enabled_flag &&
  a.cabac_init_present_flag == b.cabac_init_present_flag &&
  a.num_ref_idx_l0_default_active_minus1 == b.num_ref_idx_l0_default_active_minus1 &&
  a.num_ref_idx_l1_default_active_minus1 == b.num_ref_idx_l1_default_active_minus1 &&
  a.init_qp_minus26 == b.init_qp_minus26 &&
  a.constrained_intra_pred_flag == b.constrained_intra_pred_flag &&
  a.transform_skip_enabled_flag == b.transform_skip_enabled_flag &&
  a.cu_qp_delta_enabled_flag == b.cu_qp_delta_enabled_flag &&
  a.diff_cu_qp_delta_depth == b.diff_cu_qp_delta_depth &&
  a.cb_qp_offset == b.cb_qp_offset &&
  a.cr_qp_offset == b.cr_qp_offset &&
  a.slice_chroma_qp_offsets_present_flag == b.slice_chroma_qp_offsets_present_flag &&
  a.weighted_pred_flag == b.weighted_pred_flag &&
  a.weighted_bipred_flag == b.weighted_bipred_flag &&
  a.transquant_bypass_enabled_flag == b.transquant_bypass_enabled_flag &&
  a.tiles_enabled_flag == b.tiles_enabled_flag &&
  a.entropy_coding_sync_enabled_flag == b.entropy_coding_sync_enabled_flag &&
  a.num_tile_columns_minus1 == b.num_tile_columns_minus1 &&
  a.num_tile_rows_minus1 == b.num_tile_rows_minus1 &&
  a.uniform_spacing_flag == b.uniform_spacing_flag &&
  a.loop_filter_across_tiles_enabled_flag == b.loop_filter_across_tiles_enabled_flag &&
  a.loop_filter_across_slices_enabled_flag == b.loop_filter_across_slices_enabled_flag &&
  a.deblocking_filter_control_present_flag == b.deblocking_filter_control_present_flag &&
  a.deblocking_filter_override_enabled_flag == b.deblocking_filter_override_enabled_flag &&
  a.deblocking_filter_disabled_flag == b.deblocking_filter_disabled_flag &&
  a.beta_offset_div2 == b.beta_offset_div2 &&
  a.tc_offset_div2 == b.tc_offset_div2 &&
  a.scaling_list_data_present_flag == b.scaling_list_data_present_flag &&
  a.lists_modification_present_flag == b.lists_modification_present_flag &&
  a.log2_parallel_merge_level_minus2 == b.log2_parallel_merge_level_minus2 &&
  a.slice_segment_header_extension_present_flag ==
    b.slice_segment_header_extension_present_flag &&
  a.pps_extension_flag == b.pps_extension_flag &&
  a.pps_range_extension_flag == b.pps_range_extension_flag &&
  a.pps_multilayer_extension_flag == b.pps_multilayer_extension_flag &&
  a.pps_3d_extension_flag == b.pps_3d_extension_flag &&
  a.pps_scc_extension_flag == b.pps_scc_extension_flag &&
  a.pps_extension_4bits == b.pps_extension_4bits &&
  a.PicWidthInCtbsY == b.PicWidthInCtbsY &&
  a.PicHeightInCtbsY == b.PicHeightInCtbsY &&
  a.valid == b.valid

/-- `vps_cmp`. -/
def vpsCmp (a b : GstH265VPS) : Bool :=
  a.id == b.id &&
  a.base_layer_internal_flag == b.base_layer_internal_flag &&
  a.base_layer_available_flag == b.base_layer_available_flag &&
  a.max_layers_minus1 == b.max_layers_minus1 &&
  a.max_sub_layers_minus1 == b.max_sub_layers_minus1 &&
  a.temporal_id_nesting_flag == b.temporal_id_nesting_flag &&
  a.sub_layer_ordering_info_present_flag == b.sub_layer_ordering_info_present_flag &&
  a.max_layer_id == b.max_layer_id &&
  a.num_layer_sets_minus1 == b.num_layer_sets_minus1 &&
  a.timing_info_present_flag == b.timing_info_present_flag &&
  a.num_units_in_tick == b.num_units_in_tick &&
  a.time_scale == b.time_scale &&
  a.poc_proportional_to_timing_flag == b.poc_proportional_to_timing_flag &&
  a.num_ticks_poc_diff_one_minus1 == b.num_ticks_poc_diff_one_minus1 &&
  a.num_hrd_parameters == b.num_hrd_parameters &&
  a.hrd_layer_set_idx == b.hrd_layer_set_idx &&
  a.cprms_present_flag == b.cprms_present_flag &&
  a.vps_extension == b.vps_extension &&
  a.valid == b.valid

/-! ## Every record compares equal to itself -/

@[simp] theorem spsCmp_self (a : GstH265SPS) : spsCmp a a = true := by simp [spsCmp]

@[simp] theorem ppsCmp_self (a : GstH265PPS) : ppsCmp a a = true := by simp [ppsCmp]

@[simp] theorem vpsCmp_self (a : GstH265VPS) : vpsCmp a a = true := by simp [vpsCmp]

/-! ## Records `sps_cmp` or `pps_cmp` finds equal compare alike

Each is a conjunction of equalities, so two records it finds equal compare alike with every
record: the cached record stands for every record the cache found equal to it. -/

theorem spsCmp_congr {a b : GstH265SPS} (h : spsCmp a b) (c : GstH265SPS) :
    spsCmp a c = spsCmp b c := by
  simp only [spsCmp, Bool.and_eq_true, beq_iff_eq, List.all_eq_true, List.mem_finRange,
    true_implies] at h
  simp only [spsCmp, h]

theorem ppsCmp_congr {a b : GstH265PPS} (h : ppsCmp a b) (c : GstH265PPS) :
    ppsCmp a c = ppsCmp b c := by
  simp only [ppsCmp, Bool.and_eq_true, beq_iff_eq] at h
  simp only [ppsCmp, h]

/-! ## What a successful comparison fixes of the descriptors -/

/-- `b` with the five parts that `sps_cmp` skips and `fill_sps` reads taken from `a`. -/
def GstH265SPS.withUncomparedOf (b a : GstH265SPS) : GstH265SPS :=
  { b with
    profile_tier_level := a.profile_tier_level
    vui_params := a.vui_params
    vps := a.vps
    sps_extension_params := a.sps_extension_params
    sps_scc_extension_params := a.sps_scc_extension_params }

/-- `b` with the five parts that `pps_cmp` skips and `fill_pps` reads taken from `a`. -/
def GstH265PPS.withUncomparedOf (b a : GstH265PPS) : GstH265PPS :=
  { b with
    sps_id := a.sps_id
    column_width_minus1 := a.column_width_minus1
    row_height_minus1 := a.row_height_minus1
    pps_extension_params := a.pps_extension_params
    pps_scc_extension_params := a.pps_scc_extension_params }

/-- A successful `sps_cmp` fixes `fill_sps` up to the parts it skips. -/
theorem fillSps_of_spsCmp {a b : GstH265SPS} (h : spsCmp a b = true) (vkp : VkH265Picture) :
    fillSps a vkp = fillSps (b.withUncomparedOf a) vkp := by
  simp only [spsCmp, Bool.and_eq_true, beq_iff_eq] at h
  simp only [fillSps, spsLiteral, GstH265SPS.withUncomparedOf, h]

/-- A successful `pps_cmp` fixes `fill_pps` up to the parts it skips. -/
theorem fillPps_of_ppsCmp {a b : GstH265PPS} (h : ppsCmp a b = true) (vkp : VkH265Picture) :
    fillPps a vkp = fillPps (b.withUncomparedOf a) vkp := by
  simp only [ppsCmp, Bool.and_eq_true, beq_iff_eq] at h
  simp only [fillPps, ppsLiteral, GstH265PPS.withUncomparedOf, h]

/-- `sps_cmp` does not see the parts it skips. -/
@[simp] theorem spsCmp_withUncomparedOf (a b : GstH265SPS) :
    spsCmp b (b.withUncomparedOf a) = true := by
  simp [spsCmp, GstH265SPS.withUncomparedOf]

/-- `pps_cmp` does not see the parts it skips. -/
@[simp] theorem ppsCmp_withUncomparedOf (a b : GstH265PPS) :
    ppsCmp b (b.withUncomparedOf a) = true := by
  simp [ppsCmp, GstH265PPS.withUncomparedOf]

end H265Dec

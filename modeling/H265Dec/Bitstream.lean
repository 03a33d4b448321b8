import H265Dec.PictureData
import Mathlib

/-!
# The bitstream assembler

`gst_h265_dec_decode_slice` appends each slice of the picture to the picture's bitstream
behind a start code `00 00 01`, and appends to the offset table the previous offset plus
the start code and the slice. `gst_h265_dec_end_picture` hands the buffer and the table to
the backend.

**Abstract model.** `assemble ps` is the stream of the payloads `ps` as the backend reads
it, each payload behind a start code, and `sliceOffsets ps` the offsets of the slices in it:
offset `i` is the length of the stream of the first `i` payloads.

**Theorem (`decodeSlices_assembled`).** From a picture whose buffer is empty, whose table is
`[0]` and whose slice count is zero, `decode_slice` over any slices whose assembled stream
stays below `2^32` bytes never reads past the table and leaves exactly `assemble` of the
payloads, their `sliceOffsets`, and their number. The step lemma is `decodeSlice_assembled`.

**Round trip (`cut_assemble`).** Cutting the stream at consecutive offsets gives back each
payload behind its start code.
-/

namespace H265Dec

/-! ## The source -/

/-- The start code `decode_slice` puts before each slice. -/
def startCode : List UInt8 := [0, 0, 1]

/-- `gst_h265_dec_decode_slice`. The previous offset is read at index `len - 1` of the
table; on an empty table that read is out of bounds, and the model returns `none`. -/
def decodeSlice (vkpic : VkPic) (slice : GstH265Slice) : Option VkPic :=
  match vkpic.slice_offsets.getLast? with
  | none => none
  | some last =>
    some { vkpic with
      data := { vkpic.data with nNumSlices := vkpic.data.nNumSlices + 1 }
      bitstream := vkpic.bitstream ++ startCode ++ slice.nalu.payload
      slice_offsets := vkpic.slice_offsets ++
        [last + slice.nalu.size + UInt32.ofNat startCode.length] }

/-- `decode_slice` over the slices of a picture, in order. -/
def decodeSlices : VkPic → List GstH265Slice → Option VkPic
  | vkpic, [] => some vkpic
  | vkpic, slice :: slices => (decodeSlice vkpic slice).bind (decodeSlices · slices)

/-- `gst_h265_dec_end_picture`: steal the buffer and the table into the picture data, set
`ref_pic_flag`, and hand the data to `DecodePicture` when there is a client, whose answer
is `reply`. The third component is the data handed over. -/
def endPicture (self : GstH265Dec) (vkpic : VkPic) (reply : Bool) :
    GstFlowReturn × VkPic × Option VkParserPictureData :=
  let data := { vkpic.data with
    pBitstreamData := vkpic.bitstream
    nBitstreamDataLen := toInt32 vkpic.bitstream.length
    pSliceDataOffsets := vkpic.slice_offsets
    ref_pic_flag := true }
  let vkpic := { vkpic with data, bitstream := [], slice_offsets := [] }
  if self.client then (if reply then .ok else .error, vkpic, some data)
  else (.ok, vkpic, none)

/-! ## The stream over lists -/

/-- The payloads, each behind a start code. -/
def assemble (ps : List (List UInt8)) : List UInt8 := ps.flatMap (startCode ++ ·)

/-- Offset `i` is where payload `i`'s start code begins; the last is the stream's length. -/
def sliceOffsets (ps : List (List UInt8)) : List Nat :=
  (List.range (ps.length + 1)).map fun i => (assemble (ps.take i)).length

@[simp] theorem assemble_nil : assemble [] = [] := rfl

@[simp] theorem assemble_append (ps qs : List (List UInt8)) :
    assemble (ps ++ qs) = assemble ps ++ assemble qs := by
  simp [assemble]

@[simp] theorem assemble_cons (p : List UInt8) (ps : List (List UInt8)) :
    assemble (p :: ps) = startCode ++ p ++ assemble ps := by
  simp [assemble]

@[simp] theorem assemble_singleton (p : List UInt8) : assemble [p] = startCode ++ p := by
  simp [assemble]

theorem length_assemble_append_singleton (ps : List (List UInt8)) (p : List UInt8) :
    (assemble (ps ++ [p])).length = (assemble ps).length + 3 + p.length := by
  simp [startCode]; omega

@[simp] theorem sliceOffsets_nil : sliceOffsets [] = [0] := rfl

theorem sliceOffsets_append_singleton (ps : List (List UInt8)) (p : List UInt8) :
    sliceOffsets (ps ++ [p]) = sliceOffsets ps ++ [(assemble (ps ++ [p])).length] := by
  unfold sliceOffsets
  rw [List.length_append, List.length_singleton, List.range_succ (ps.length + 1),
    List.map_append, List.map_singleton, List.take_of_length_le (by simp)]
  congr 1
  refine List.map_congr_left fun i hi => ?_
  rw [List.take_append_of_le_length (by simp at hi; omega)]

@[simp] theorem length_sliceOffsets (ps : List (List UInt8)) :
    (sliceOffsets ps).length = ps.length + 1 := by
  simp [sliceOffsets]

theorem getElem?_sliceOffsets (ps : List (List UInt8)) (i : Nat) (hi : i < ps.length + 1) :
    (sliceOffsets ps)[i]? = some (assemble (ps.take i)).length := by
  simp [sliceOffsets, hi]

theorem getLast?_sliceOffsets (ps : List (List UInt8)) :
    (sliceOffsets ps).getLast? = some (assemble ps).length := by
  rw [List.getLast?_eq_getElem?, length_sliceOffsets, Nat.add_sub_cancel,
    getElem?_sliceOffsets _ _ (Nat.lt_succ_self _), List.take_length]

theorem length_le_length_assemble (ps : List (List UInt8)) :
    3 * ps.length ≤ (assemble ps).length := by
  induction ps using List.reverseRecOn with
  | nil => simp
  | append_singleton ps p ih =>
    rw [length_assemble_append_singleton, List.length_append, List.length_singleton]; omega

/-- The offsets of an assembled stream go strictly up: each slice adds its start code. -/
theorem sliceOffsets_strictly_increasing (ps : List (List UInt8)) :
    (sliceOffsets ps).Pairwise (· < ·) := by
  unfold sliceOffsets
  rw [List.pairwise_map]
  refine (List.pairwise_lt_range _).imp_of_mem fun {i j} _ hj hij => ?_
  rw [List.mem_range] at hj
  have e : ps.take j = ps.take i ++ (ps.take j).drop i := by
    conv_lhs => rw [← List.take_append_drop i (ps.take j)]
    rw [List.take_take, min_eq_left hij.le]
  have hl := length_le_length_assemble ((ps.take j).drop i)
  simp only [List.length_drop, List.length_take] at hl
  rw [e, assemble_append, List.length_append]
  omega

/-! ## The session invariant -/

/-- The picture holds the assembled stream of the payloads `ps`: its buffer, its offset
table read as numbers, and its slice count. -/
structure Assembled (vkpic : VkPic) (ps : List (List UInt8)) : Prop where
  bitstream : vkpic.bitstream = assemble ps
  offsets : vkpic.slice_offsets.map UInt32.toNat = sliceOffsets ps
  count : vkpic.data.nNumSlices.toNat = ps.length

/-- In every picture holding an assembled stream, the offset table goes strictly up. -/
theorem Assembled.offsets_strictly_increasing {vkpic : VkPic} {ps : List (List UInt8)}
    (h : Assembled vkpic ps) : (vkpic.slice_offsets.map UInt32.toNat).Pairwise (· < ·) := by
  rw [h.offsets]
  exact sliceOffsets_strictly_increasing ps

/-- The last word of a table whose words read as numbers give `m`, when `m` ends in `n`. -/
theorem getLast?_of_map_toNat {l : List UInt32} {m : List Nat} {n : Nat}
    (h : l.map UInt32.toNat = m) (hm : m.getLast? = some n) :
    ∃ last, l.getLast? = some last ∧ last.toNat = n := by
  rw [← h, List.getLast?_map] at hm
  exact Option.map_eq_some'.1 hm

/-- A picture as `start_picture` leaves a fresh one holds the stream of no payloads. -/
theorem assembled_nil {vkpic : VkPic} (hb : vkpic.bitstream = []) (ho : vkpic.slice_offsets = [0])
    (hn : vkpic.data.nNumSlices = 0) : Assembled vkpic [] :=
  ⟨hb, by simp [ho], by simp [hn]⟩

/-- **Step.** `decode_slice` finds the previous offset and appends one slice, as long as
the stream stays below `2^32` bytes. -/
theorem decodeSlice_assembled {vkpic : VkPic} {ps : List (List UInt8)} (h : Assembled vkpic ps)
    (slice : GstH265Slice) (hlen : (assemble (ps ++ [slice.nalu.payload])).length < 2 ^ 32) :
    ∃ v, decodeSlice vkpic slice = some v ∧ Assembled v (ps ++ [slice.nalu.payload]) := by
  obtain ⟨last, hl, hlv⟩ := getLast?_of_map_toNat h.offsets (getLast?_sliceOffsets ps)
  have hsum := length_assemble_append_singleton ps slice.nalu.payload
  have hp := slice.nalu.length_payload
  have hcount := length_le_length_assemble (ps ++ [slice.nalu.payload])
  refine ⟨_, by rw [decodeSlice, hl], ⟨?_, ?_, ?_⟩⟩
  · simp [h.bitstream, List.append_assoc]
  · rw [List.map_append, h.offsets, sliceOffsets_append_singleton, List.map_singleton, hsum,
      UInt32.toNat_add, UInt32.toNat_add, UInt32.size, hlv, show startCode.length = 3 from rfl,
      UInt32.toNat_ofNat_of_lt (by decide), GstH265NalUnit.length_payload]
    congr 2
    omega
  · simp only [List.length_append, List.length_singleton] at hcount ⊢
    rw [UInt32.toNat_add, UInt32.size, h.count, show (1 : UInt32).toNat = 1 from rfl]
    omega

/-- **Run.** Over any slices whose assembled stream stays below `2^32` bytes, every
`decode_slice` finds its previous offset, and the picture ends up holding the stream of
all the payloads. -/
theorem decodeSlices_assembled {vkpic : VkPic} {ps : List (List UInt8)} (h : Assembled vkpic ps)
    (slices : List GstH265Slice)
    (hlen : (assemble (ps ++ slices.map (·.nalu.payload))).length < 2 ^ 32) :
    ∃ v, decodeSlices vkpic slices = some v ∧
      Assembled v (ps ++ slices.map (·.nalu.payload)) := by
  induction slices generalizing vkpic ps with
  | nil => exact ⟨vkpic, rfl, by simpa using h⟩
  | cons slice slices ih =>
    have hsplit : ps ++ (slice :: slices).map (·.nalu.payload) =
        (ps ++ [slice.nalu.payload]) ++ slices.map (·.nalu.payload) := by simp
    rw [hsplit] at hlen ⊢
    have hle : (assemble (ps ++ [slice.nalu.payload])).length < 2 ^ 32 := by
      rw [assemble_append _ (slices.map _), List.length_append] at hlen; omega
    obtain ⟨v, hv, hav⟩ := decodeSlice_assembled h slice hle
    obtain ⟨w, hw, haw⟩ := ih hav hlen
    exact ⟨w, by simp [decodeSlices, hv, hw], haw⟩

theorem toInt32_of_lt {n : Nat} (h : n < 2 ^ 31) : toInt32 n = n := by
  unfold toInt32 Int.bmod
  rw [Int.emod_eq_of_lt (by omega) (by omega), if_pos (by omega)]

/-- What `end_picture` leaves in the picture data: the buffer, its length cast to
`int32_t` and the offset table, with `ref_pic_flag` set. -/
theorem endPicture_data_eq (self : GstH265Dec) (vkpic : VkPic) (reply : Bool) :
    (endPicture self vkpic reply).2.1.data = { vkpic.data with
      pBitstreamData := vkpic.bitstream
      nBitstreamDataLen := toInt32 vkpic.bitstream.length
      pSliceDataOffsets := vkpic.slice_offsets
      ref_pic_flag := true } := by
  unfold endPicture; split <;> rfl

/-- What `end_picture` hands to the backend from a picture holding the stream of `ps`,
when the stream fits the `int32_t` length field. -/
theorem endPicture_data {vkpic : VkPic} {ps : List (List UInt8)} (h : Assembled vkpic ps)
    (hlen : (assemble ps).length < 2 ^ 31) (self : GstH265Dec) (reply : Bool) :
    (endPicture self vkpic reply).2.1.data.pBitstreamData = assemble ps ∧
      (endPicture self vkpic reply).2.1.data.pSliceDataOffsets.map UInt32.toNat =
        sliceOffsets ps ∧
      (endPicture self vkpic reply).2.1.data.nBitstreamDataLen = (assemble ps).length ∧
      (endPicture self vkpic reply).2.1.data.nNumSlices.toNat = ps.length := by
  rw [endPicture_data_eq]
  exact ⟨h.bitstream, h.offsets, by rw [h.bitstream, toInt32_of_lt hlen], h.count⟩

/-- `end_picture` hands the picture's data to `DecodePicture` exactly when there is a
client. -/
theorem endPicture_handed (self : GstH265Dec) (vkpic : VkPic) (reply : Bool) :
    (endPicture self vkpic reply).2.2 =
      if self.client then some (endPicture self vkpic reply).2.1.data else none := by
  unfold endPicture
  split <;> rfl

/-! ## Cutting the stream at the offsets -/

/-- The pieces of a buffer between consecutive offsets. -/
def cutAt (buf : List UInt8) (offs : List Nat) : List (List UInt8) :=
  (List.range (offs.length - 1)).map fun i =>
    (buf.drop (offs.getD i 0)).take (offs.getD (i + 1) 0 - offs.getD i 0)

theorem assemble_eq_take_append (ps : List (List UInt8)) (i : Nat) (hi : i < ps.length) :
    assemble ps = assemble (ps.take i) ++ (startCode ++ ps[i]) ++ assemble (ps.drop (i + 1)) := by
  conv_lhs => rw [← List.take_append_drop i ps, List.drop_eq_getElem_cons hi]
  simp only [assemble_append, assemble_cons, List.append_assoc]

/-- The bytes from offset `i` to offset `i + 1` are the start code and payload `i`. -/
theorem slice_bytes (ps : List (List UInt8)) (i : Nat) (hi : i < ps.length) :
    ((assemble ps).drop (assemble (ps.take i)).length).take (3 + ps[i].length) =
      startCode ++ ps[i] := by
  rw [assemble_eq_take_append ps i hi, List.append_assoc, List.drop_left]
  exact List.take_left' (by simp [startCode]; omega)

theorem length_assemble_take_succ (ps : List (List UInt8)) (i : Nat) (hi : i < ps.length) :
    (assemble (ps.take (i + 1))).length = (assemble (ps.take i)).length + 3 + ps[i].length := by
  rw [List.take_succ, List.getElem?_eq_getElem hi, Option.toList_some,
    length_assemble_append_singleton]

/-- Each offset is the previous one plus the start code and the payload between them. -/
theorem sliceOffsets_succ (ps : List (List UInt8)) (i : Nat) (hi : i < ps.length) :
    (sliceOffsets ps)[i + 1]? = (sliceOffsets ps)[i]?.map (· + (3 + ps[i].length)) := by
  rw [getElem?_sliceOffsets _ _ (by omega), getElem?_sliceOffsets _ _ (by omega),
    length_assemble_take_succ ps i hi, Option.map_some', Nat.add_assoc]

/-- **Round trip.** Cutting the assembled stream at its offsets gives back each payload
behind its start code. -/
theorem cut_assemble (ps : List (List UInt8)) :
    cutAt (assemble ps) (sliceOffsets ps) = ps.map (startCode ++ ·) := by
  refine List.ext_getElem (by simp [cutAt]) fun i h₁ h₂ => ?_
  have hi : i < ps.length := by simpa using h₂
  simp only [cutAt, List.getElem_map, List.getElem_range, List.getD_eq_getElem?_getD,
    getElem?_sliceOffsets _ _ (by omega : i < ps.length + 1),
    getElem?_sliceOffsets _ _ (by omega : i + 1 < ps.length + 1), Option.getD_some,
    length_assemble_take_succ ps i hi]
  rw [show (assemble (ps.take i)).length + 3 + ps[i].length - (assemble (ps.take i)).length =
    3 + ps[i].length by omega, slice_bytes ps i hi]

/-- No offset lies past the end of the stream. -/
theorem le_of_mem_sliceOffsets {ps : List (List UInt8)} {o : Nat} (h : o ∈ sliceOffsets ps) :
    o ≤ (assemble ps).length := by
  obtain ⟨i, -, rfl⟩ := List.mem_map.1 h
  conv_rhs => rw [← List.take_append_drop i ps, assemble_append, List.length_append]
  exact Nat.le_add_right _ _

/-- Below `2^32` bytes, the 32-bit offsets are the offsets. -/
theorem sliceOffsets_mod_of_lt {ps : List (List UInt8)} (h : (assemble ps).length < 2 ^ 32) :
    (sliceOffsets ps).map (· % 2 ^ 32) = sliceOffsets ps := by
  conv_rhs => rw [← List.map_id (sliceOffsets ps)]
  exact List.map_congr_left fun o ho => Nat.mod_eq_of_lt ((le_of_mem_sliceOffsets ho).trans_lt h)

end H265Dec

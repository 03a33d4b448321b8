import H265Dec.Decoder

/-!
# Picture sessions over whole runs

The base decoder makes the picture callbacks of one picture in a fixed order: `new_picture`,
`start_picture`, `decode_slice` once per slice, `end_picture`. Parameter sets, unhandled
units, `new_sequence` and `output_picture` may come between any two of them, and a picture
whose `new_picture` fails (the backend refuses a buffer) is dropped.

**Abstract model.** `Session` is the bitstream assembler driven in that order: idle, or
active with the payloads appended so far. `new_picture` begins a session, `decode_slice`
appends a payload, `end_picture` finalizes the session and hands its payloads over.
`Session.step` is `none` on a callback out of order.

**Simulation.** `SessionHolds` relates an active session to the picture in progress; each
callback keeps it (`step_refines_session`) and so does a run (`run_refines_session`). From
it, `decodePicture_follows_sessions`: the picture data of the `DecodePicture` calls are, one
for one, the finalized sessions' streams, with offsets and slice count modulo `2^32`
(`CarriesSlices`), at any size; `decodePicture_cuts_back`: each buffer cut at its offsets
gives back its session's slices; `picture_callbacks_in_bounds`: no picture callback finds
the picture missing or reads an offset out of bounds.

`decodePicture_presents_resolution`: `DecodePicture` decodes into the picture's own buffer,
and the reference arrays it reads are the list-level resolution of what `start_picture` was
given.
-/

namespace H265Dec

/-! ## The picture in progress, as the 32-bit counters keep it -/

/-- The picture holds the stream of the payloads `ps`: the buffer exactly, the offset table
and the slice count modulo `2^32`. -/
structure HoldsSlices (vkpic : VkPic) (ps : List (List UInt8)) : Prop where
  bitstream : vkpic.bitstream = assemble ps
  offsets : vkpic.slice_offsets.map UInt32.toNat = (sliceOffsets ps).map (· % 2 ^ 32)
  count : vkpic.data.nNumSlices.toNat = ps.length % 2 ^ 32

theorem holdsSlices_vkPicNew (pic : Option Nat) : HoldsSlices (vkPicNew pic) [] :=
  ⟨rfl, rfl, rfl⟩

/-- **Step.** `decode_slice` appends a slice to a picture holding a stream, at any size:
the previous offset is always there, and the new one wraps as the `uint32_t` sum does. -/
theorem decodeSlice_holdsSlices {vkpic : VkPic} {ps : List (List UInt8)}
    (h : HoldsSlices vkpic ps) (slice : GstH265Slice) :
    ∃ v, decodeSlice vkpic slice = some v ∧ HoldsSlices v (ps ++ [slice.nalu.payload]) := by
  obtain ⟨last, hl, hlv⟩ := getLast?_of_map_toNat h.offsets
    (by rw [List.getLast?_map, getLast?_sliceOffsets, Option.map_some'])
  have hsum := length_assemble_append_singleton ps slice.nalu.payload
  have hp := slice.nalu.length_payload
  refine ⟨_, by rw [decodeSlice, hl], ⟨?_, ?_, ?_⟩⟩
  · simp [h.bitstream, List.append_assoc]
  · rw [List.map_append, h.offsets, sliceOffsets_append_singleton, List.map_append,
      List.map_singleton, List.map_singleton, hsum, UInt32.toNat_add, UInt32.toNat_add, UInt32.size, hlv,
      show startCode.length = 3 from rfl, UInt32.toNat_ofNat_of_lt (by decide)]
    congr 2
    omega
  · rw [List.length_append, List.length_singleton, UInt32.toNat_add, UInt32.size, h.count,
      show (1 : UInt32).toNat = 1 from rfl]
    omega

/-- What a `DecodePicture` call carries for a session with payloads `ps`. -/
structure CarriesSlices (data : VkParserPictureData) (ps : List (List UInt8)) : Prop where
  bitstream : data.pBitstreamData = assemble ps
  length : data.nBitstreamDataLen = toInt32 (assemble ps).length
  offsets : data.pSliceDataOffsets.map UInt32.toNat = (sliceOffsets ps).map (· % 2 ^ 32)
  count : data.nNumSlices.toNat = ps.length % 2 ^ 32

theorem endPicture_carriesSlices {vkpic : VkPic} {ps : List (List UInt8)}
    (h : HoldsSlices vkpic ps) (self : GstH265Dec) (reply : Bool) :
    CarriesSlices (endPicture self vkpic reply).2.1.data ps := by
  rw [endPicture_data_eq]
  exact ⟨h.bitstream, by rw [h.bitstream], h.offsets, h.count⟩

/-- What a `DecodePicture` call carries for a session below `2^32` bytes cuts back into
the session's payloads. -/
theorem CarriesSlices.cut {data : VkParserPictureData} {ps : List (List UInt8)}
    (h : CarriesSlices data ps) (hlen : (assemble ps).length < 2 ^ 32) :
    cutAt data.pBitstreamData (data.pSliceDataOffsets.map UInt32.toNat) =
      ps.map (startCode ++ ·) := by
  rw [h.bitstream, h.offsets, sliceOffsets_mod_of_lt hlen, cut_assemble]

/-! ## The sessions -/

/-- The bitstream assembler, as the driver's callbacks leave it: between pictures, or inside
one whose slices so far have payloads `ps`. -/
inductive Session
  | idle
  | active (ps : List (List UInt8))

/-- One callback in the driver's order, with the payloads it finalizes. A `new_picture`
refused a buffer leaves no session; `start_picture` comes before the first slice. -/
def Session.step (client : Bool) (ss : Session) :
    DecOp → Option (Session × Option (List (List UInt8)))
  | .newPicture alloc => some (if client && !alloc.1 then .idle else .active [], none)
  | .startPicture .. => match ss with
    | .active [] => some (.active [], none)
    | _ => none
  | .decodeSlice slice => match ss with
    | .active ps => some (.active (ps ++ [slice.nalu.payload]), none)
    | .idle => none
  | .endPicture _ => match ss with
    | .active ps => some (.idle, some ps)
    | .idle => none
  | _ => some (ss, none)

/-- A run in the driver's order, with the payloads of every session it finalizes. -/
def Session.run (client : Bool) : Session → List DecOp →
    Option (Session × List (List (List UInt8)))
  | ss, [] => some (ss, [])
  | ss, op :: ops => match ss.step client op with
    | some (ss', out) => (Session.run client ss' ops).map fun r => (r.1, out.toList ++ r.2)
    | none => none

theorem Session.run_cons_eq {client : Bool} {ss ss' : Session} {op : DecOp} {ops : List DecOp}
    {outs : List (List (List UInt8))} (h : ss.run client (op :: ops) = some (ss', outs)) :
    ∃ ss₁ out outs', ss.step client op = some (ss₁, out) ∧
      ss₁.run client ops = some (ss', outs') ∧ outs = out.toList ++ outs' := by
  simp only [Session.run] at h
  split at h
  · next ss₁ out _ =>
    obtain ⟨⟨_, outs'⟩, hr, he⟩ := Option.map_eq_some'.1 h
    cases he
    exact ⟨ss₁, out, outs', ‹_›, hr, rfl⟩
  · cases h

theorem Session.step_startPicture {client : Bool} {ss ss' : Session}
    {out : Option (List (List UInt8))} {picture : GstH265Picture} {slice : GstH265Slice}
    {dpb : List GstH265Picture} {rps : RefPicSets}
    (h : ss.step client (.startPicture picture slice dpb rps) = some (ss', out)) :
    ss = .active [] ∧ ss' = .active [] ∧ out = none := by
  rcases ss with _ | _ | ⟨_, _⟩ <;> simp_all [Session.step]

theorem Session.step_decodeSlice {client : Bool} {ss ss' : Session}
    {out : Option (List (List UInt8))} {slice : GstH265Slice}
    (h : ss.step client (.decodeSlice slice) = some (ss', out)) :
    ∃ ps, ss = .active ps ∧ ss' = .active (ps ++ [slice.nalu.payload]) ∧ out = none := by
  rcases ss with _ | ps <;> simp_all [Session.step]

theorem Session.step_endPicture {client : Bool} {ss ss' : Session}
    {out : Option (List (List UInt8))} {reply : Bool}
    (h : ss.step client (.endPicture reply) = some (ss', out)) :
    ∃ ps, ss = .active ps ∧ ss' = .idle ∧ out = some ps := by
  rcases ss with _ | ps <;> simp_all [Session.step]

/-- The callbacks that work on the picture in progress. -/
def DecOp.needsPicture : DecOp → Bool
  | .startPicture .. | .decodeSlice _ | .endPicture _ => true
  | _ => false

/-- A run in the driver's order is one on each part of the list. -/
theorem Session.run_append {client : Bool} {ss ss' : Session} {xs ys : List DecOp}
    {outs : List (List (List UInt8))} (h : ss.run client (xs ++ ys) = some (ss', outs)) :
    ∃ ss₁ outs₁ outs₂, ss.run client xs = some (ss₁, outs₁) ∧
      ss₁.run client ys = some (ss', outs₂) := by
  induction xs generalizing ss outs with
  | nil => exact ⟨ss, [], outs, rfl, h⟩
  | cons op xs ih =>
    obtain ⟨ss₁, out, outs', h₁, h₂, -⟩ := Session.run_cons_eq h
    obtain ⟨ss₂, outs₁, outs₂, h₃, h₄⟩ := ih h₂
    exact ⟨ss₂, out.toList ++ outs₁, outs₂,
      by simp only [Session.run, h₁, h₃, Option.map_some'], h₄⟩

/-- A callback on the picture in progress is in the driver's order only inside a session. -/
theorem Session.active_of_step {client : Bool} {ss ss' : Session} {op : DecOp}
    {out : Option (List (List UInt8))} (h : ss.step client op = some (ss', out))
    (hop : op.needsPicture = true) : ∃ ps, ss = .active ps := by
  cases op with
  | startPicture => exact ⟨[], (Session.step_startPicture h).1⟩
  | decodeSlice => obtain ⟨ps, h, -⟩ := Session.step_decodeSlice h; exact ⟨ps, h⟩
  | endPicture => obtain ⟨ps, h, -⟩ := Session.step_endPicture h; exact ⟨ps, h⟩
  | _ => cases hop

/-- The simulation relation: an active session's payloads are held by the picture in
progress. -/
def SessionHolds : Session → DecState → Prop
  | .idle, _ => True
  | .active ps, s => ∃ v, s.cur = some v ∧ HoldsSlices v ps

/-! ## What the callbacks hand to `DecodePicture` -/

/-- The picture data of a `DecodePicture` call. -/
def ClientCall.pictureData : ClientCall → Option VkParserPictureData
  | .decodePicture data _ _ => some data
  | _ => none

/-- Only `end_picture` calls `DecodePicture`. -/
theorem step_pictureData_of_ne (s : DecState) (op : DecOp) (hop : ∀ reply, op ≠ .endPicture reply) :
    (s.step op).2.filterMap ClientCall.pictureData = [] := by
  cases op with
  | updatePictureParameters nalu reply =>
    simp only [DecState.step]
    cases (updatePictureParameters s.dec nalu reply).2 <;> rfl
  | endPicture reply => exact absurd rfl (hop reply)
  | outputPicture vkpic picture duration reply finish =>
    simp only [DecState.step]
    cases (outputPicture s.dec vkpic picture duration reply finish).2 <;> rfl
  | _ => simp only [DecState.step]; split <;> rfl

theorem forall₂_pictureData_of_ne (s : DecState) (op : DecOp)
    (hop : ∀ reply, op ≠ .endPicture reply) (client : Bool) :
    List.Forall₂ CarriesSlices ((s.step op).2.filterMap ClientCall.pictureData)
      (if client then (none : Option (List (List UInt8))).toList else []) := by
  rw [step_pictureData_of_ne s op hop]
  split <;> exact .nil

/-- `end_picture` on a picture in progress calls `DecodePicture` with the data it leaves,
when there is a client. -/
theorem step_endPicture_pictureData {s : DecState} {v : VkPic} (hc : s.cur = some v)
    (reply : Bool) :
    (s.step (.endPicture reply)).2.filterMap ClientCall.pictureData =
      if s.dec.client then [(endPicture s.dec v reply).2.1.data] else [] := by
  simp only [DecState.step, hc, endPicture_handed]
  split <;> rfl

/-- A `new_picture` that is not refused a buffer leaves a fresh picture. -/
theorem newPicture_snd {self : GstH265Dec} {alloc : Bool × Option Nat}
    (h : (self.client && !alloc.1) = false) :
    ∃ pic, (newPicture self alloc).2 = some (vkPicNew pic) := by
  unfold newPicture
  cases hc : self.client <;> cases ha : alloc.1 <;> simp_all

/-! ## The simulation -/

/-- **Step.** Every callback in the driver's order keeps the simulation relation, and the
picture data it hands to `DecodePicture` are, with a client, the payloads the session
finalizes. -/
theorem step_refines_session {s : DecState} {ss ss' : Session} {op : DecOp}
    {out : Option (List (List UInt8))} (hs : SessionHolds ss s)
    (h : ss.step s.dec.client op = some (ss', out)) :
    SessionHolds ss' (s.step op).1 ∧
      List.Forall₂ CarriesSlices ((s.step op).2.filterMap ClientCall.pictureData)
        (if s.dec.client then out.toList else []) := by
  cases op with
  | newPicture alloc =>
    simp only [Session.step, Option.some.injEq, Prod.mk.injEq] at h
    obtain ⟨rfl, rfl⟩ := h
    refine ⟨?_, forall₂_pictureData_of_ne s _ (by intro _ h; cases h) _⟩
    cases hr : (s.dec.client && !alloc.1)
    · obtain ⟨pic, hp⟩ := newPicture_snd hr
      exact ⟨_, hp, holdsSlices_vkPicNew pic⟩
    · trivial
  | startPicture picture slice dpb rps =>
    obtain ⟨rfl, rfl, rfl⟩ := Session.step_startPicture h
    obtain ⟨v, hv, hh⟩ := hs
    refine ⟨?_, forall₂_pictureData_of_ne s _ (by intro _ h; cases h) _⟩
    simp only [DecState.step, hv, Option.some_bind]
    split
    · next r hr =>
      obtain ⟨-, hb, ho, hn⟩ := startPicture_frame hr
      exact ⟨_, rfl, ⟨hb.trans hh.bitstream, ho ▸ hh.offsets, by rw [hn]; rfl⟩⟩
    · exact ⟨v, hv, hh⟩
  | decodeSlice slice =>
    obtain ⟨ps, rfl, rfl, rfl⟩ := Session.step_decodeSlice h
    obtain ⟨v, hv, hh⟩ := hs
    refine ⟨?_, forall₂_pictureData_of_ne s _ (by intro _ h; cases h) _⟩
    obtain ⟨v', hd, hh'⟩ := decodeSlice_holdsSlices hh slice
    simp only [DecState.step, hv, Option.some_bind, hd]
    exact ⟨v', rfl, hh'⟩
  | endPicture reply =>
    obtain ⟨ps, rfl, rfl, rfl⟩ := Session.step_endPicture h
    obtain ⟨v, hv, hh⟩ := hs
    rw [step_endPicture_pictureData hv]
    refine ⟨trivial, ?_⟩
    split
    · exact .cons (endPicture_carriesSlices hh s.dec reply) .nil
    · exact .nil
  | _ =>
    simp only [Session.step, Option.some.injEq, Prod.mk.injEq] at h
    obtain ⟨rfl, rfl⟩ := h
    exact ⟨by cases ss <;> exact hs, forall₂_pictureData_of_ne s _ (by intro _ h; cases h) _⟩

/-- **Run.** A run in the driver's order keeps the simulation relation, and the picture
data it hands to `DecodePicture` are, with a client, the payloads of the sessions it
finalizes, one for one. -/
theorem run_refines_session {s : DecState} {ss ss' : Session} (hs : SessionHolds ss s)
    {ops : List DecOp} {outs : List (List (List UInt8))}
    (h : ss.run s.dec.client ops = some (ss', outs)) :
    SessionHolds ss' (s.run ops).1 ∧
      List.Forall₂ CarriesSlices ((s.run ops).2.filterMap ClientCall.pictureData)
        (if s.dec.client then outs else []) := by
  induction ops generalizing s ss outs with
  | nil =>
    simp only [Session.run, Option.some.injEq, Prod.mk.injEq] at h
    obtain ⟨rfl, rfl⟩ := h
    exact ⟨hs, by split <;> exact .nil⟩
  | cons op ops ih =>
    obtain ⟨ss₁, out, outs', h₁, h₂, rfl⟩ := Session.run_cons_eq h
    obtain ⟨hs₁, hc₁⟩ := step_refines_session hs h₁
    rw [← step_client s op] at h₂
    obtain ⟨hs₂, hc₂⟩ := ih hs₁ h₂
    rw [step_client] at hc₂
    have e : (if s.dec.client then out.toList ++ outs' else []) =
        (if s.dec.client then out.toList else []) ++ (if s.dec.client then outs' else []) := by
      split <;> rfl
    rw [DecState.run_cons, List.filterMap_append, e]
    exact ⟨hs₂, List.rel_append hc₁ hc₂⟩

/-- **The `DecodePicture` calls follow the sessions.** Over any run from the element's
start in the driver's order, the picture data handed to `DecodePicture` are, with a
client, one for one and in order, the streams of the sessions the run finalizes; without
one there are none. -/
theorem decodePicture_follows_sessions (client oob_pic_params : Bool) (ops : List DecOp)
    (ss : Session) (outs : List (List (List UInt8)))
    (hord : Session.idle.run client ops = some (ss, outs)) :
    List.Forall₂ CarriesSlices
      (((DecState.init client oob_pic_params).run ops).2.filterMap ClientCall.pictureData)
      (if client then outs else []) :=
  (run_refines_session (s := DecState.init client oob_pic_params)
    (show SessionHolds .idle _ from trivial) hord).2

theorem decodePicture_of_one_session :
    Session.idle.run true [.newPicture (true, none),
        .startPicture default sliceWithVps [] (beforeOnly [] (by decide)),
        .decodeSlice sliceWithVps, .unhandledNalu [], .endPicture true] =
      some (.idle, [[sliceWithVps.nalu.payload]]) ∧
    List.Forall₂ CarriesSlices
      (((DecState.init true false).run [.newPicture (true, none),
          .startPicture default sliceWithVps [] (beforeOnly [] (by decide)),
          .decodeSlice sliceWithVps, .unhandledNalu [], .endPicture true]).2.filterMap
        ClientCall.pictureData)
      (if true then [[sliceWithVps.nalu.payload]] else []) :=
  ⟨rfl, decodePicture_follows_sessions true false _ _ _ rfl⟩

/-- **Every slice can be cut back out.** Each `DecodePicture` call's buffer, cut at its
32-bit offsets, gives back its session's payloads behind their start codes, whenever the
stream is shorter than `2^32` bytes. -/
theorem decodePicture_cuts_back (client oob_pic_params : Bool) (ops : List DecOp)
    (ss : Session) (outs : List (List (List UInt8)))
    (hord : Session.idle.run client ops = some (ss, outs)) :
    List.Forall₂ (fun data ps => (assemble ps).length < 2 ^ 32 →
        cutAt data.pBitstreamData (data.pSliceDataOffsets.map UInt32.toNat) =
          ps.map (startCode ++ ·))
      (((DecState.init client oob_pic_params).run ops).2.filterMap ClientCall.pictureData)
      (if client then outs else []) :=
  (run_refines_session (s := DecState.init client oob_pic_params)
    (show SessionHolds .idle _ from trivial) hord).2.imp fun _ _ h => h.cut

/-- The one-slice picture cuts back into its slice. -/
theorem one_slice_cuts_back :
    Session.idle.run true [.newPicture (true, none),
        .startPicture default sliceWithVps [] (beforeOnly [] (by decide)),
        .decodeSlice sliceWithVps, .endPicture true] =
      some (.idle, [[sliceWithVps.nalu.payload]]) ∧
    List.Forall₂ (fun data ps => (assemble ps).length < 2 ^ 32 →
        cutAt data.pBitstreamData (data.pSliceDataOffsets.map UInt32.toNat) =
          ps.map (startCode ++ ·))
      (((DecState.init true false).run [.newPicture (true, none),
          .startPicture default sliceWithVps [] (beforeOnly [] (by decide)),
          .decodeSlice sliceWithVps, .endPicture true]).2.filterMap ClientCall.pictureData)
      (if true then [[sliceWithVps.nalu.payload]] else []) :=
  ⟨rfl, decodePicture_cuts_back true false _ _ _ rfl⟩

/-! ## Memory safety in the driver's order -/

/-- **No picture callback in the driver's order reads out of bounds.** Every
`start_picture`, `decode_slice` and `end_picture` finds a picture in progress, and every
`decode_slice` finds the offset it reads at index `len - 1`, whatever the slices' sizes. -/
theorem picture_callbacks_in_bounds (client oob_pic_params : Bool) (pre post : List DecOp)
    (op : DecOp) (ss : Session) (outs : List (List (List UInt8)))
    (hord : Session.idle.run client (pre ++ op :: post) = some (ss, outs))
    (hop : op.needsPicture = true) :
    ∃ v, ((DecState.init client oob_pic_params).run pre).1.cur = some v ∧
      ∀ slice, op = .decodeSlice slice → (decodeSlice v slice).isSome := by
  obtain ⟨ss₁, outs₁, outs₂, h₁, h₂⟩ := Session.run_append hord
  obtain ⟨ss₂, out, -, hstep, -, -⟩ := Session.run_cons_eq h₂
  obtain ⟨ps, rfl⟩ := Session.active_of_step hstep hop
  obtain ⟨v, hv, hh⟩ := (run_refines_session (s := DecState.init client oob_pic_params)
    (show SessionHolds .idle _ from trivial) h₁).1
  refine ⟨v, hv, fun slice _ => ?_⟩
  obtain ⟨v', hd, -⟩ := decodeSlice_holdsSlices hh slice
  rw [hd]
  rfl

/-- The `decode_slice` of a one-slice picture. -/
theorem slice_after_start_in_bounds :
    Session.idle.run true ([.newPicture (true, none), .startPicture default sliceWithVps []
        (beforeOnly [] (by decide))] ++ .decodeSlice sliceWithVps :: [.endPicture true]) =
        some (.idle, [[sliceWithVps.nalu.payload]]) ∧
      (DecOp.decodeSlice sliceWithVps).needsPicture = true ∧
      ∃ v, ((DecState.init true false).run [.newPicture (true, none), .startPicture default
          sliceWithVps [] (beforeOnly [] (by decide))]).1.cur = some v ∧
        ∀ slice, DecOp.decodeSlice sliceWithVps = .decodeSlice slice →
          (decodeSlice v slice).isSome :=
  ⟨rfl, rfl, picture_callbacks_in_bounds true false _ [.endPicture true] _ .idle
    [[sliceWithVps.nalu.payload]] rfl rfl⟩

/-! ## The reference data `DecodePicture` reads -/

/-- `decode_slice` changes the picture data's slice count only. -/
theorem decodeSlice_data {v v' : VkPic} {slice : GstH265Slice} (h : decodeSlice v slice = some v') :
    v'.data = { v.data with nNumSlices := v.data.nNumSlices + 1 } := by
  unfold decodeSlice at h
  split at h
  · cases h
  · cases h
    rfl

/-- A view of the picture in progress that `decode_slice` keeps is kept by every callback
that keeps the picture. -/
theorem step_cur_map {β : Type} (f : VkPic → β)
    (hf : ∀ v slice v', decodeSlice v slice = some v' → f v' = f v) (s : DecState) (op : DecOp)
    (h : op.keepsPicture = true) : (s.step op).1.cur.map f = s.cur.map f := by
  cases op with
  | decodeSlice slice =>
    simp only [DecState.step]
    split
    · next v' hv' =>
      obtain ⟨v, hv, hd⟩ := Option.bind_eq_some.1 hv'
      rw [hv, Option.map_some', Option.map_some', hf v slice v' hd]
    · rfl
  | newPicture | startPicture | endPicture => simp [DecOp.keepsPicture] at h
  | _ => rfl

theorem run_cur_map {β : Type} (f : VkPic → β)
    (hf : ∀ v slice v', decodeSlice v slice = some v' → f v' = f v) {s : DecState} {v : VkPic}
    (hv : s.cur = some v) (mid : List DecOp) (h : ∀ op ∈ mid, op.keepsPicture = true) :
    ∃ w, (s.run mid).1.cur = some w ∧ f w = f v := by
  induction mid generalizing s v with
  | nil => exact ⟨v, hv, rfl⟩
  | cons op mid ih =>
    have hs := step_cur_map f hf s op (h op (.head _))
    rw [hv, Option.map_some'] at hs
    obtain ⟨v₁, hv₁, hf₁⟩ := Option.map_eq_some'.1 hs
    obtain ⟨w, hw, hfw⟩ := ih hv₁ fun op' h' => h op' (.tail _ h')
    exact ⟨w, by rw [DecState.run_cons]; exact hw, hfw.trans hf₁⟩

/-- **The picture `DecodePicture` decodes, and its reference data.** For a picture started
from any state, the one `DecodePicture` call decodes into the buffer `AllocPictureBuffer` gave
it, and its reference arrays present `resolveSpec` of what `start_picture` was given. -/
theorem decodePicture_presents_resolution (s : DecState) {alloc : Bool × Option Nat}
    (halloc : alloc.1 = true) (picture : GstH265Picture) (slice : GstH265Slice)
    (dpb : List GstH265Picture) (rps : RefPicSets) (hvps : slice.header.pps.sps.vps.isSome)
    (mid : List DecOp) (hmid : ∀ op ∈ mid, op.keepsPicture = true) (reply : Bool) :
    let e :=
      (((s.step (.newPicture alloc)).1.step (.startPicture picture slice dpb rps)).1.run mid).1
    ∃ data, (e.step (.endPicture reply)).2.filterMap ClientCall.pictureData =
        (if s.dec.client then [data] else []) ∧
      data.pCurrPic = (if s.dec.client then alloc.2 else none) ∧
      ∀ r, resolveSpec dpb rps = some r → r.Presents data.CodecSpecific.hevc ∧
        (r.Fits → ∀ kind (j : Fin 8),
          data.CodecSpecific.hevc.refPicSet kind j = ((r.slot kind j).map Int8.ofNat).getD 0) := by
  intro e
  obtain ⟨vps, hv⟩ := Option.isSome_iff_exists.1 hvps
  obtain ⟨flow, v, hsv⟩ : ∃ flow v, startPicture s.dec
      (vkPicNew (if s.dec.client then alloc.2 else none)) picture slice dpb rps = some (flow, v) :=
    ⟨_, _, startPicture_eq hv⟩
  have hs2 : ((s.step (.newPicture alloc)).1.step (.startPicture picture slice dpb rps)).1 =
      { s with cur := some v } := by
    simp only [DecState.step, newPicture_of_alloc s.dec halloc, Option.some_bind, hsv]
  have hcur : v.data.pCurrPic = (if s.dec.client then alloc.2 else none) := by
    rw [startPicture_eq hv, Option.some_inj, Prod.mk.injEq] at hsv
    rw [← hsv.2]
    rfl
  obtain ⟨w, hw, hwv⟩ := run_cur_map (fun v => (v.data.pCurrPic, v.data.CodecSpecific))
    (fun _ _ _ hd => by simp only [decodeSlice_data hd]) (s := { s with cur := some v }) rfl mid hmid
  obtain ⟨hwp, hwc⟩ := Prod.mk.inj hwv
  have he : e = ({ s with cur := some v }.run mid).1 := by rw [← hs2]
  rw [← he] at hw
  have hc : e.dec.client = s.dec.client := by rw [he, run_client]
  refine ⟨(endPicture e.dec w reply).2.1.data, by rw [step_endPicture_pictureData hw, hc],
    ?_, fun r hr => ?_⟩ <;> rw [endPicture_data_eq]
  · exact hwp.trans hcur
  · have hp := hwc ▸ (startPicture_refines_resolveSpec hsv).2 r hr
    exact ⟨hp, hp.refPicSet_of_fits⟩

/-- A one-reference picture with one slice. -/
theorem decodePicture_references_of_one_reference :
    ((true, none) : Bool × Option Nat).1 = true ∧ sliceWithVps.header.pps.sps.vps.isSome ∧
      (∀ op ∈ [DecOp.decodeSlice sliceWithVps], op.keepsPicture = true) ∧
      let e := ((((DecState.init true false).step (.newPicture (true, none))).1.step
        (.startPicture default sliceWithVps [refPictureAt 10]
          (beforeOnly [some (refPictureAt 10)] (by decide)))).1.run
        [.decodeSlice sliceWithVps]).1
      ∃ data, (e.step (.endPicture true)).2.filterMap ClientCall.pictureData =
          (if (DecState.init true false).dec.client then [data] else []) ∧
        data.pCurrPic = (if (DecState.init true false).dec.client then
          ((true, none) : Bool × Option Nat).2 else none) ∧
        ∀ r, resolveSpec [refPictureAt 10] (beforeOnly [some (refPictureAt 10)] (by decide)) =
          some r → r.Presents data.CodecSpecific.hevc ∧
            (r.Fits → ∀ kind (j : Fin 8),
              data.CodecSpecific.hevc.refPicSet kind j = ((r.slot kind j).map Int8.ofNat).getD 0) :=
  ⟨rfl, rfl, by decide, decodePicture_presents_resolution (DecState.init true false) rfl default
    sliceWithVps [refPictureAt 10] (beforeOnly [some (refPictureAt 10)] (by decide)) rfl
    [.decodeSlice sliceWithVps] (by decide) true⟩

/-! ## Runs without a client -/

theorem updatePictureParameters_of_no_client {d : GstH265Dec} (h : d.client = false)
    (nalu : ParameterSetNalu) (reply : UpdateReply) :
    (updatePictureParameters d nalu reply).2 = none := by
  cases nalu <;> simp only [updatePictureParameters, h] <;> split <;> rfl

/-- Without a client, a callback calls nothing. -/
theorem step_calls_of_no_client (s : DecState) (h : s.dec.client = false) (op : DecOp) :
    (s.step op).2 = [] := by
  cases op with
  | updatePictureParameters nalu reply =>
    simp [DecState.step, updatePictureParameters_of_no_client h]
  | endPicture reply =>
    simp only [DecState.step]
    split
    · simp [endPicture_handed, h]
    · rfl
  | outputPicture => simp [DecState.step, outputPicture, h]
  | startPicture | decodeSlice => simp only [DecState.step]; split <;> rfl
  | _ => simp [DecState.step, h]

theorem run_calls_of_no_client (s : DecState) (h : s.dec.client = false) (ops : List DecOp) :
    (s.run ops).2 = [] := by
  induction ops generalizing s with
  | nil => rfl
  | cons op ops ih =>
    rw [DecState.run_cons, step_calls_of_no_client s h, ih _ (by rw [step_client, h])]
    rfl

/-- **Without a client, no run calls the backend.** -/
theorem run_without_client (oob_pic_params : Bool) (ops : List DecOp) :
    ((DecState.init false oob_pic_params).run ops).2 = [] :=
  run_calls_of_no_client _ rfl ops

end H265Dec

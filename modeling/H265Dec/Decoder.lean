import H265Dec.Picture

/-!
# The element as a state machine

The base decoder drives the element through its callbacks in whatever order the stream
asks for: parameter-set observations, unhandled units, `new_sequence`, and the picture
callbacks. `DecState.step` is one callback, with the backend's answers as part of the
operation, and returns the backend calls it makes together with what the backend reads
during each of them; `DecState.run` is a sequence of callbacks.

* **Run refinement** (`run_refines`, `step_refines_sps`, `step_refines_pps`): over any run,
  the element's SPS and PPS caches are `CacheEntry.run` of that kind's observations, and
  the updates handed to the backend are what those runs emit.
* **Exactly the changes** (`updates_exactly_on_change`): the descriptors handed over are
  those of the observations that differ from the one observed before them.
* **Run invariant** (`ParamKind.synced_run`): once a record of a kind has been accepted, the
  shared descriptor of that kind is the converter's image of the cached record.
* **Own or shared descriptors** (`ownParams_after_run`): which one `start_picture` uses
  after a run, in terms of the number of SPS changes, modulo `2^32`.
* **The descriptors `DecodePicture` reads** (`decodePicture_descriptors`): the picture's
  own, filled from the slice's PPS and SPS, or the shared ones, by `ownParams` when the
  picture started.
-/

namespace H265Dec

/-! ## States, operations and backend calls -/

/-- The element, and the `VkPic` of the picture in progress. -/
structure DecState where
  dec : GstH265Dec
  cur : Option VkPic

/-- The element after `gst_h265_dec_init`, with no picture in progress. -/
def DecState.init (client oob_pic_params : Bool) : DecState :=
  ⟨GstH265Dec.init client oob_pic_params, none⟩

/-- A callback of the base decoder, with the answers of the backend calls it leads to. -/
inductive DecOp
  | updatePictureParameters (nalu : ParameterSetNalu) (reply : UpdateReply)
  | unhandledNalu (data : List UInt8)
  | newSequence (sps : GstH265SPS) (max_dpb_size : Int) (isSVC : Bool) (frameRate : Nat)
      (reply : Int)
  | newPicture (alloc : Bool × Option Nat)
  | startPicture (picture : GstH265Picture) (slice : GstH265Slice) (dpb : List GstH265Picture)
      (rps : RefPicSets)
  | decodeSlice (slice : GstH265Slice)
  | endPicture (reply : Bool)
  | outputPicture (vkpic : VkPic) (picture : GstH265Picture) (duration : Nat) (reply : Bool)
      (finish : GstFlowReturn)

/-- A call of the element into the backend, with what the backend reads during it. -/
inductive ClientCall
  | updatePictureParameters (params : VkPictureParameters)
  | unhandledNalu (data : List UInt8)
  | beginSequence (info : VkParserSequenceInfo)
  | allocPictureBuffer
  | decodePicture (data : VkParserPictureData)
      (sps : Option (StdVideoH265SequenceParameterSet × Option StdVideoH265SequenceParameterSetVui))
      (pps : Option StdVideoH265PictureParameterSet)
  | displayPicture (pic : Option Nat) (timestamp : Nat)

/-- The `VkH265Picture` a descriptor pointer of the picture data reaches. -/
def VkpLoc.deref (loc : VkpLoc) (self : GstH265Dec) (vkpic : VkPic) : Option VkH265Picture :=
  match loc with
  | .null => none
  | .decoder => some self.vkp
  | .picture => some vkpic.vkp

/-- `DecodePicture` on a picture's data: the backend reads the data, and the SPS and PPS
descriptors its pointers reach at that moment. -/
def decodePictureCall (self : GstH265Dec) (vkpic : VkPic) (data : VkParserPictureData) :
    ClientCall :=
  .decodePicture data ((data.CodecSpecific.hevc.pStdSps.deref self vkpic).map (·.stdSps))
    ((data.CodecSpecific.hevc.pStdPps.deref self vkpic).map (·.pps))

/-- One callback. A picture callback without a picture in progress, or whose model is
`none`, leaves the state as it is. -/
def DecState.step (s : DecState) : DecOp → DecState × List ClientCall
  | .updatePictureParameters nalu reply =>
    let r := updatePictureParameters s.dec nalu reply
    ({ s with dec := r.1 }, r.2.toList.map .updatePictureParameters)
  | .unhandledNalu data => (s, if s.dec.client then [.unhandledNalu data] else [])
  | .newSequence sps max_dpb_size isSVC frameRate reply =>
    let r := newSequence s.dec sps max_dpb_size isSVC frameRate reply
    ({ s with dec := r.1 }, if s.dec.client then [.beginSequence r.2] else [])
  | .newPicture alloc =>
    ({ s with cur := (newPicture s.dec alloc).2 }, if s.dec.client then [.allocPictureBuffer] else [])
  | .startPicture picture slice dpb rps =>
    match s.cur.bind (startPicture s.dec · picture slice dpb rps) with
    | some r => ({ s with cur := some r.2 }, [])
    | none => (s, [])
  | .decodeSlice slice =>
    match s.cur.bind (decodeSlice · slice) with
    | some vkpic => ({ s with cur := some vkpic }, [])
    | none => (s, [])
  | .endPicture reply =>
    match s.cur with
    | some vkpic =>
      let r := endPicture s.dec vkpic reply
      ({ s with cur := some r.2.1 }, r.2.2.toList.map (decodePictureCall s.dec r.2.1))
    | none => (s, [])
  | .outputPicture vkpic picture duration reply finish =>
    (s, (outputPicture s.dec vkpic picture duration reply finish).2.toList.map
      fun call => .displayPicture call.1 call.2)

/-- A sequence of callbacks, collecting the backend calls. -/
def DecState.run (s : DecState) : List DecOp → DecState × List ClientCall
  | [] => (s, [])
  | op :: ops => (((s.step op).1.run ops).1, (s.step op).2 ++ ((s.step op).1.run ops).2)

@[simp] theorem DecState.run_nil (s : DecState) : s.run [] = (s, []) := rfl

theorem DecState.run_cons (s : DecState) (op : DecOp) (ops : List DecOp) :
    s.run (op :: ops) = (((s.step op).1.run ops).1, (s.step op).2 ++ ((s.step op).1.run ops).2) :=
  rfl

theorem DecState.run_append_fst (s : DecState) (ops ops' : List DecOp) :
    (s.run (ops ++ ops')).1 = ((s.run ops).1.run ops').1 := by
  induction ops generalizing s with
  | nil => rfl
  | cons op ops ih => exact ih _

/-! ## What a step does to the element -/

/-- Only parameter observations and `new_sequence` touch the element. -/
theorem step_dec (s : DecState) (op : DecOp) : (s.step op).1.dec = match op with
    | .updatePictureParameters nalu reply => (updatePictureParameters s.dec nalu reply).1
    | .newSequence sps max_dpb_size isSVC frameRate reply =>
      (newSequence s.dec sps max_dpb_size isSVC frameRate reply).1
    | _ => s.dec := by
  cases op <;> simp only [DecState.step] <;> (try split) <;> rfl

/-- `new_sequence` changes `max_dpb_size` only. -/
theorem newSequence_fst (self : GstH265Dec) (sps : GstH265SPS) (max_dpb_size : Int)
    (isSVC : Bool) (frameRate : Nat) (reply : Int) :
    (newSequence self sps max_dpb_size isSVC frameRate reply).1 =
      { self with max_dpb_size := if self.client then reply else self.max_dpb_size } := by
  rcases self with ⟨_ | _⟩ <;> rfl

@[simp] theorem step_client (s : DecState) (op : DecOp) :
    (s.step op).1.dec.client = s.dec.client := by
  rw [step_dec]
  cases op <;> simp [newSequence_fst]

/-- What a call hands to the backend of a kind, with its count. -/
def ParamKind.handedIn {α δ : Type} (k : ParamKind α δ) : ClientCall → Option (δ × UInt32)
  | .updatePictureParameters params => k.handed params
  | _ => none

/-- The record of a kind an operation observes. -/
def ParamKind.observes {α δ : Type} (k : ParamKind α δ) : DecOp → Option α
  | .updatePictureParameters nalu _ => k.record nalu
  | _ => none

/-- A parameter update handed to the backend: an SPS descriptor with its count. -/
def ClientCall.spsUpdate : ClientCall →
    Option ((StdVideoH265SequenceParameterSet × Option StdVideoH265SequenceParameterSetVui) × UInt32) :=
  spsKind.handedIn

/-- A parameter update handed to the backend: a PPS descriptor with its count. -/
def ClientCall.ppsUpdate : ClientCall → Option (StdVideoH265PictureParameterSet × UInt32) :=
  ppsKind.handedIn

/-- Whether a call hands parameters to the backend. -/
def ClientCall.isUpdate : ClientCall → Bool
  | .updatePictureParameters _ => true
  | _ => false

/-- The SPS an operation observes. -/
def DecOp.spsObs : DecOp → Option GstH265SPS := spsKind.observes

/-- The PPS an operation observes. -/
def DecOp.ppsObs : DecOp → Option GstH265PPS := ppsKind.observes

/-- Only parameter observations hand parameters to the backend. -/
theorem step_no_update (s : DecState) (op : DecOp)
    (hop : ∀ nalu reply, op ≠ .updatePictureParameters nalu reply) :
    ∀ c ∈ (s.step op).2, c.isUpdate = false := by
  cases op with
  | updatePictureParameters nalu reply => exact absurd rfl (hop nalu reply)
  | endPicture reply =>
    simp only [DecState.step]
    split <;> simp [decodePictureCall, ClientCall.isUpdate]
  | startPicture =>
    simp only [DecState.step]
    split <;> simp
  | decodeSlice =>
    simp only [DecState.step]
    split <;> simp
  | outputPicture =>
    simp only [DecState.step]
    rintro _ h
    obtain ⟨_, -, rfl⟩ := List.mem_map.1 h
    rfl
  | _ => simp only [DecState.step]; split <;> simp [ClientCall.isUpdate]

/-- Every other operation leaves the element but for `max_dpb_size`. -/
theorem step_dec_of_not_update (s : DecState) (op : DecOp)
    (hop : ∀ nalu reply, op ≠ .updatePictureParameters nalu reply) :
    ∃ m, (s.step op).1.dec = { s.dec with max_dpb_size := m } := by
  rw [step_dec]
  cases op with
  | updatePictureParameters nalu reply => exact absurd rfl (hop nalu reply)
  | newSequence => exact ⟨_, newSequence_fst ..⟩
  | _ => exact ⟨s.dec.max_dpb_size, rfl⟩

theorem filterMap_step_of_not_update {β : Type} (emit : ClientCall → Option β)
    (hemit : ∀ c, c.isUpdate = false → emit c = none) (s : DecState) (op : DecOp)
    (hop : ∀ nalu reply, op ≠ .updatePictureParameters nalu reply) :
    (s.step op).2.filterMap emit = [] :=
  List.filterMap_eq_nil_iff.2 fun c hc => hemit c (step_no_update s op hop c hc)

/-! ## The caches over a run -/

section Refinement

variable {α β : Type} (cmp : α → α → Bool) (E : GstH265Dec → CacheEntry α)
  (obs : DecOp → Option α) (emit : ClientCall → Option β) (f : α × UInt32 → β)

/-- One kind's cache of the element follows `CacheEntry.observe` step by step: an
observation of its kind moves it as `observe` does and hands over what `observe` emits
(when there is a client); any other operation leaves it and hands over nothing. -/
def StepRefines : Prop :=
  ∀ (s : DecState) (op : DecOp),
    (E (s.step op).1.dec, (s.step op).2.filterMap emit) = match obs op with
      | some x => (((E s.dec).observe cmp x).1,
          if s.dec.client then ((E s.dec).observe cmp x).2.toList.map f else [])
      | none => (E s.dec, [])

/-- **Run refinement.** A cache that follows `observe` step by step follows
`CacheEntry.run` over any run. -/
theorem run_refines (h : StepRefines cmp E obs emit f) (s : DecState) (ops : List DecOp) :
    (E (s.run ops).1.dec, (s.run ops).2.filterMap emit) =
      (((E s.dec).run cmp (ops.filterMap obs)).1,
        if s.dec.client then ((E s.dec).run cmp (ops.filterMap obs)).2.map f else []) := by
  induction ops generalizing s with
  | nil => cases s.dec.client <;> rfl
  | cons op ops ih =>
    obtain ⟨ih₁, ih₂⟩ := Prod.mk.inj (ih (s.step op).1)
    have hs := h s op
    rw [step_client] at ih₂
    rw [DecState.run_cons, List.filterMap_append, ih₁, ih₂, List.filterMap_cons]
    cases hobs : obs op with
    | none =>
      obtain ⟨hs₁, hs₂⟩ := Prod.mk.inj (hobs ▸ hs)
      rw [hs₁, hs₂, List.nil_append]
    | some x =>
      obtain ⟨hs₁, hs₂⟩ := Prod.mk.inj (hobs ▸ hs)
      rw [hs₁, hs₂, CacheEntry.run_cons]
      cases s.dec.client <;> simp

end Refinement

theorem filterMap_handedIn {α δ : Type} (k : ParamKind α δ) (o : Option VkPictureParameters) :
    (o.toList.map ClientCall.updatePictureParameters).filterMap k.handedIn = (o.bind k.handed).toList := by
  cases o with
  | none => rfl
  | some p => cases hp : k.handed p <;> simp [ParamKind.handedIn, hp]

/-- A kind's cache follows `observe` with its comparator, handing over the descriptors of
the records it accepts. -/
theorem ParamKind.step_refines {α δ : Type} (k : ParamKind α δ) :
    StepRefines k.cmp k.entry k.observes k.handedIn (fun p => (k.descriptor p.1, p.2)) := by
  intro s op
  by_cases hop : ∃ nalu reply, op = .updatePictureParameters nalu reply
  · obtain ⟨nalu, reply, rfl⟩ := hop
    have h := k.update_spec s.dec nalu reply
    simp only [DecState.step, ParamKind.observes, filterMap_handedIn]
    cases hr : k.record nalu <;> simp only [hr, Prod.mk.injEq] at h ⊢
    · exact ⟨h.1, by rw [h.2.2]; rfl⟩
    · refine ⟨h.1, ?_⟩
      rw [h.2.2]
      cases s.dec.client <;> cases (CacheEntry.observe k.cmp (k.entry s.dec) _).2 <;> rfl
  · push_neg at hop
    obtain ⟨m, hm⟩ := step_dec_of_not_update s op hop
    rw [filterMap_step_of_not_update _ (fun c hc => by cases c <;> simp_all [ClientCall.isUpdate,
      ParamKind.handedIn]) s op hop, hm, (k.max_dpb_size_spec _ _).1]
    cases op <;> first | rfl | exact absurd rfl (hop _ _)

theorem step_refines_sps :
    StepRefines spsCmp GstH265Dec.spsEntry DecOp.spsObs ClientCall.spsUpdate
      (fun p => (spsDescriptor p.1, p.2)) :=
  spsKind.step_refines

theorem step_refines_pps :
    StepRefines ppsCmp GstH265Dec.ppsEntry DecOp.ppsObs ClientCall.ppsUpdate
      (fun p => (ppsDescriptor p.1, p.2)) :=
  ppsKind.step_refines

@[simp] theorem run_client (s : DecState) (ops : List DecOp) :
    (s.run ops).1.dec.client = s.dec.client := by
  induction ops generalizing s with
  | nil => rfl
  | cons op ops ih => rw [DecState.run_cons, ih, step_client]

/-- The parameter-cache part of the element: the cached SPS and PPS, the shared
descriptors and the two counters. -/
def GstH265Dec.cacheState (d : GstH265Dec) :
    GstH265SPS × GstH265PPS × VkH265Picture × UInt32 × UInt32 :=
  (d.last_sps, d.last_pps, d.vkp, d.sps_update_count, d.pps_update_count)

/-- **The parameter caches over any run.** From the element's start, each kind's cache ends
as `CacheEntry.run` of that kind's observations, and the updates handed over are what those
runs emit, counted 0, 1, 2, ... as 32-bit values; no other callback touches the caches. -/
theorem parameter_caches_over_runs (client oob_pic_params : Bool) (ops : List DecOp) :
    let r := (DecState.init client oob_pic_params).run ops
    let sps := (CacheEntry.mk (default : GstH265SPS) 0).run spsCmp (ops.filterMap DecOp.spsObs)
    let pps := (CacheEntry.mk (default : GstH265PPS) 0).run ppsCmp (ops.filterMap DecOp.ppsObs)
    r.1.dec.spsEntry = sps.1 ∧ r.1.dec.ppsEntry = pps.1 ∧
    r.2.filterMap ClientCall.spsUpdate =
      (if client then sps.2.map fun p => (spsDescriptor p.1, p.2) else []) ∧
    r.2.filterMap ClientCall.ppsUpdate =
      (if client then pps.2.map fun p => (ppsDescriptor p.1, p.2) else []) ∧
    sps.2.map Prod.snd = (List.range sps.2.length).map UInt32.ofNat ∧
    pps.2.map Prod.snd = (List.range pps.2.length).map UInt32.ofNat ∧
    (∀ (s : DecState) (v : GstH265VPS) (reply : UpdateReply),
      (s.step (.updatePictureParameters (.vps v) reply)).2 = []) ∧
    (∀ (s : DecState) (op : DecOp), op.spsObs = none → op.ppsObs = none →
      (s.step op).1.dec.cacheState = s.dec.cacheState) ∧
    (∀ (s : DecState) (x : GstH265SPS) (reply : UpdateReply), spsCmp s.dec.last_sps x = true →
      s.step (.updatePictureParameters (.sps x) reply) = (s, [])) ∧
    (∀ (s : DecState) (x : GstH265PPS) (reply : UpdateReply), ppsCmp s.dec.last_pps x = true →
      s.step (.updatePictureParameters (.pps x) reply) = (s, [])) := by
  intro r sps pps
  obtain ⟨hs₁, hs₂⟩ := Prod.mk.inj (run_refines _ _ _ _ _ step_refines_sps
    (DecState.init client oob_pic_params) ops)
  obtain ⟨hp₁, hp₂⟩ := Prod.mk.inj (run_refines _ _ _ _ _ step_refines_pps
    (DecState.init client oob_pic_params) ops)
  refine ⟨hs₁, hp₁, hs₂, hp₂, ?counts_sps, ?counts_pps, ?vps, ?frame, ?same_sps, ?same_pps⟩
  case counts_sps =>
    rw [(CacheEntry.run_sequence spsCmp _ _).1]
    exact List.map_congr_left fun k _ => zero_add _
  case counts_pps =>
    rw [(CacheEntry.run_sequence ppsCmp _ _).1]
    exact List.map_congr_left fun k _ => zero_add _
  case vps =>
    intro s v reply
    simp [DecState.step, update_vps_output]
  case frame =>
    intro s op hs hp
    by_cases hop : ∃ nalu reply, op = .updatePictureParameters nalu reply
    · obtain ⟨nalu, reply, rfl⟩ := hop
      cases nalu with
      | sps x => exact absurd hs (Option.some_ne_none x)
      | pps x => exact absurd hp (Option.some_ne_none x)
      | vps x =>
        simp only [DecState.step, updatePictureParameters]
        split <;> rfl
      | other t => rfl
    · push_neg at hop
      obtain ⟨m, hm⟩ := step_dec_of_not_update s op hop
      rw [hm]
      rfl
  case same_sps =>
    intro s x reply h
    simp [DecState.step, updatePictureParameters, h]
  case same_pps =>
    intro s x reply h
    simp [DecState.step, updatePictureParameters, h]

/-- **The backend hears of exactly the changes.** Over any run from the element's start, the
SPS descriptors handed over are those of the observed SPSs that `sps_cmp` finds different
from the one observed before them, the first compared with the zero SPS; likewise for PPSs. -/
theorem updates_exactly_on_change (client oob_pic_params : Bool) (ops : List DecOp) :
    (((DecState.init client oob_pic_params).run ops).2.filterMap ClientCall.spsUpdate).map
        Prod.fst = (if client then
        (CacheEntry.changes spsCmp default (ops.filterMap DecOp.spsObs)).map spsDescriptor
      else []) ∧
    (((DecState.init client oob_pic_params).run ops).2.filterMap ClientCall.ppsUpdate).map
        Prod.fst = (if client then
        (CacheEntry.changes ppsCmp default (ops.filterMap DecOp.ppsObs)).map ppsDescriptor
      else []) := by
  have hs : _ = CacheEntry.changes spsCmp default _ := CacheEntry.run_emits_changes spsCmp
    (fun _ _ => spsCmp_congr) (DecState.init client oob_pic_params).dec.spsEntry
    (ops.filterMap DecOp.spsObs)
  have hp : _ = CacheEntry.changes ppsCmp default _ := CacheEntry.run_emits_changes ppsCmp
    (fun _ _ => ppsCmp_congr) (DecState.init client oob_pic_params).dec.ppsEntry
    (ops.filterMap DecOp.ppsObs)
  rw [(Prod.mk.inj (run_refines _ _ _ _ _ step_refines_sps _ ops)).2,
    (Prod.mk.inj (run_refines _ _ _ _ _ step_refines_pps _ ops)).2, ← hs, ← hp]
  have hc : (DecState.init client oob_pic_params).dec.client = client := rfl
  cases client
  · simp only [hc, Bool.false_eq_true, ↓reduceIte, List.map_nil, and_self]
  · simp only [hc, ↓reduceIte, List.map_map]
    exact ⟨rfl, rfl⟩

/-! ## The shared descriptors over a run -/

/-- A callback either accepts a record of the kind, and then the shared descriptor is its
image, or leaves the kind's entry and shared descriptor, its record, if any, being one the
entry does not accept. -/
theorem ParamKind.step_accepts_or_keeps {α δ : Type} (k : ParamKind α δ) (s : DecState)
    (op : DecOp) :
    k.Synced (s.step op).1.dec ∨
      (k.entry (s.step op).1.dec = k.entry s.dec ∧ k.shared (s.step op).1.dec = k.shared s.dec ∧
        ∀ x, k.observes op = some x → (k.entry s.dec).observe k.cmp x = (k.entry s.dec, none)) := by
  by_cases hop : ∃ nalu reply, op = .updatePictureParameters nalu reply
  · obtain ⟨nalu, reply, rfl⟩ := hop
    exact k.accepts_or_keeps s.dec nalu reply
  · push_neg at hop
    obtain ⟨m, hm⟩ := step_dec_of_not_update s op hop
    have hobs : k.observes op = none := by
      cases op <;> first | rfl | exact absurd rfl (hop _ _)
    rw [hm, hobs]
    exact .inr ⟨(k.max_dpb_size_spec _ _).1, (k.max_dpb_size_spec _ _).2, fun _ e => nomatch e⟩

/-- **The shared descriptor over a run.** Over any run, either the kind's shared descriptor
ends as the converter's image of the cached record, or the run accepted no record of the
kind and left its entry and shared descriptor as they were. -/
theorem ParamKind.synced_run {α δ : Type} (k : ParamKind α δ) (s : DecState)
    (ops : List DecOp) :
    k.Synced (s.run ops).1.dec ∨
      (k.entry (s.run ops).1.dec = k.entry s.dec ∧ k.shared (s.run ops).1.dec = k.shared s.dec ∧
        ((k.entry s.dec).run k.cmp (ops.filterMap k.observes)).2 = []) := by
  induction ops generalizing s with
  | nil => exact .inr ⟨rfl, rfl, rfl⟩
  | cons op ops ih =>
    rcases ih (s.step op).1 with h | ⟨h₁, h₂, h₃⟩
    · exact .inl h
    rcases k.step_accepts_or_keeps s op with hs | ⟨e₁, e₂, e₃⟩
    · exact .inl (by rw [ParamKind.Synced, DecState.run_cons, h₁, h₂]; exact hs)
    refine .inr ⟨h₁.trans e₁, h₂.trans e₂, ?_⟩
    rw [e₁] at h₃
    rw [List.filterMap_cons]
    cases hobs : k.observes op with
    | none => exact h₃
    | some x => rw [CacheEntry.run_cons, e₃ x hobs]; exact h₃

theorem ParamKind.synced_run_of_synced {α δ : Type} (k : ParamKind α δ) {s : DecState}
    (h : k.Synced s.dec) (ops : List DecOp) : k.Synced (s.run ops).1.dec := by
  rcases k.synced_run s ops with h' | ⟨h₁, h₂, -⟩
  · exact h'
  · rw [ParamKind.Synced, h₁, h₂]; exact h

/-- Once a run has observed a change of the kind, the kind's shared descriptor is the
converter's image of the cached record. -/
theorem ParamKind.synced_of_changes {α δ : Type} (k : ParamKind α δ)
    (hcongr : ∀ a b, k.cmp a b → ∀ c, k.cmp a c = k.cmp b c) (s : DecState) (ops : List DecOp)
    (hne : CacheEntry.changes k.cmp (k.entry s.dec).last_value (ops.filterMap k.observes) ≠ []) :
    k.Synced (s.run ops).1.dec :=
  (k.synced_run s ops).resolve_right fun ⟨_, _, h₃⟩ => hne <| by
    rw [← CacheEntry.run_emits_changes k.cmp hcongr, h₃, List.map_nil]

/-- A property of the element that observations keep and that depends only on its cache
part is kept by every step. -/
theorem step_keeps {P : GstH265Dec → Prop}
    (hupd : ∀ d nalu reply, P d → P (updatePictureParameters d nalu reply).1)
    (hmax : ∀ d m, P d → P { d with max_dpb_size := m })
    {s : DecState} (h : P s.dec) (op : DecOp) : P (s.step op).1.dec := by
  by_cases hop : ∃ nalu reply, op = .updatePictureParameters nalu reply
  · obtain ⟨nalu, reply, rfl⟩ := hop
    exact hupd _ nalu reply h
  · push_neg at hop
    obtain ⟨m, hm⟩ := step_dec_of_not_update s op hop
    rw [hm]
    exact hmax _ m h

theorem run_keeps {P : GstH265Dec → Prop}
    (hupd : ∀ d nalu reply, P d → P (updatePictureParameters d nalu reply).1)
    (hmax : ∀ d m, P d → P { d with max_dpb_size := m })
    {s : DecState} (h : P s.dec) (ops : List DecOp) : P (s.run ops).1.dec := by
  induction ops generalizing s with
  | nil => exact h
  | cons op ops ih => exact ih (step_keeps hupd hmax h op)

/-- The construct-only `oob-pic-params` never changes. -/
theorem run_oob_pic_params (s : DecState) (ops : List DecOp) :
    (s.run ops).1.dec.oob_pic_params = s.dec.oob_pic_params :=
  run_keeps (P := fun d => d.oob_pic_params = s.dec.oob_pic_params)
    (fun d nalu reply h => (update_oob_pic_params d nalu reply).trans h) (fun _ _ h => h) rfl ops

/-! ## The descriptors `DecodePicture` reads -/

/-- The callbacks that leave the picture in progress in place. -/
def DecOp.keepsPicture : DecOp → Bool
  | .newPicture _ | .startPicture .. | .endPicture _ => false
  | _ => true

/-- What `DecodePicture` reads of a picture besides its data's stream: the picture's own
descriptors and where its data's descriptor pointers lead. -/
def VkPic.descriptorView (v : VkPic) : VkH265Picture × VkpLoc × VkpLoc :=
  (v.vkp, v.data.CodecSpecific.hevc.pStdSps, v.data.CodecSpecific.hevc.pStdPps)

theorem decodeSlice_descriptorView {v v' : VkPic} {slice : GstH265Slice}
    (h : decodeSlice v slice = some v') : v'.descriptorView = v.descriptorView := by
  unfold decodeSlice at h
  split at h
  · cases h
  · cases h
    rfl

theorem endPicture_descriptorView (self : GstH265Dec) (v : VkPic) (reply : Bool) :
    (endPicture self v reply).2.1.descriptorView = v.descriptorView := by
  unfold endPicture
  split <;> rfl

theorem step_descriptorView (s : DecState) (op : DecOp) (h : op.keepsPicture = true) :
    (s.step op).1.cur.map VkPic.descriptorView = s.cur.map VkPic.descriptorView := by
  cases op with
  | decodeSlice slice =>
    simp only [DecState.step]
    split
    · next v' hv' =>
      obtain ⟨v, hv, hd⟩ := Option.bind_eq_some.1 hv'
      rw [hv, Option.map_some', Option.map_some', decodeSlice_descriptorView hd]
    · rfl
  | newPicture | startPicture | endPicture => simp [DecOp.keepsPicture] at h
  | _ => rfl

theorem run_descriptorView (s : DecState) (mid : List DecOp)
    (h : ∀ op ∈ mid, op.keepsPicture = true) :
    (s.run mid).1.cur.map VkPic.descriptorView = s.cur.map VkPic.descriptorView := by
  induction mid generalizing s with
  | nil => rfl
  | cons op mid ih =>
    rw [DecState.run_cons, ih _ fun op' h' => h op' (.tail _ h'),
      step_descriptorView s op (h op (.head _))]

/-- From a picture in progress, callbacks that keep it leave a picture with the same
descriptor view. -/
theorem run_cur_descriptorView {s : DecState} {v : VkPic} (hv : s.cur = some v)
    (mid : List DecOp) (h : ∀ op ∈ mid, op.keepsPicture = true) :
    ∃ w, (s.run mid).1.cur = some w ∧ w.descriptorView = v.descriptorView := by
  have hcur := run_descriptorView s mid h
  rw [hv, Option.map_some'] at hcur
  cases hc : (s.run mid).1.cur with
  | none => simp [hc] at hcur
  | some w => exact ⟨w, rfl, by simpa [hc] using hcur⟩

theorem newPicture_of_alloc (self : GstH265Dec) {alloc : Bool × Option Nat} (h : alloc.1 = true) :
    newPicture self alloc = (.ok, some (vkPicNew (if self.client then alloc.2 else none))) := by
  unfold newPicture
  cases self.client <;> simp [h]

/-- `new_picture` with a buffer, then `start_picture` on a slice whose SPS has its VPS,
leave a picture in progress holding the slice's own descriptors when `ownParams` holds and
zeroed ones otherwise, with both pointers where `vkpLoc` says. -/
theorem start_descriptorView (s : DecState) {alloc : Bool × Option Nat} (halloc : alloc.1 = true)
    {picture : GstH265Picture} {slice : GstH265Slice} {dpb : List GstH265Picture}
    {rps : RefPicSets} {vps : GstH265VPS} (hv : slice.header.pps.sps.vps = some vps) :
    ∃ v, ((s.step (.newPicture alloc)).1.step (.startPicture picture slice dpb rps)).1 =
        { s with cur := some v } ∧
      v.descriptorView = (if ownParams s.dec then
        fillPps slice.header.pps (fillSps slice.header.pps.sps default) else default,
        vkpLoc s.dec, vkpLoc s.dec) := by
  obtain ⟨flow, v, hsv⟩ : ∃ flow v, startPicture s.dec
      (vkPicNew (if s.dec.client then alloc.2 else none)) picture slice dpb rps = some (flow, v) :=
    ⟨_, _, startPicture_eq hv⟩
  refine ⟨v, by simp only [DecState.step, newPicture_of_alloc s.dec halloc, Option.some_bind, hsv], ?_⟩
  rw [startPicture_eq hv, Option.some_inj, Prod.mk.injEq] at hsv
  obtain ⟨-, rfl⟩ := hsv
  have h₁ := resolveReferences_frame (·.pStdSps) (fun _ _ _ => rfl)
    (hevcLiteral s.dec (vkpLoc s.dec) slice rps picture vps) dpb rps
  have h₂ := resolveReferences_frame (·.pStdPps) (fun _ _ _ => rfl)
    (hevcLiteral s.dec (vkpLoc s.dec) slice rps picture vps) dpb rps
  obtain ⟨R, P, L, hl⟩ := fillRefPics_frame dpb (hevcLiteral s.dec (vkpLoc s.dec) slice rps picture vps) 0
  simp only [VkPic.descriptorView, h₁, h₂, hl]
  rfl

/-- The picture's own SPS descriptor after `start_picture` fills it is the slice's SPS's. -/
theorem stdSps_fillPps_fillSps (pps : GstH265PPS) (sps : GstH265SPS) (vkp : VkH265Picture) :
    (fillPps pps (fillSps sps vkp)).stdSps = spsDescriptor sps := by
  simp only [fillPps_stdSps, spsDescriptor, stdSps_fillSps]

theorem sps_update_count_ne_zero {d : GstH265Dec} (h : ownParams d = false) :
    d.sps_update_count ≠ 0 := by
  intro hc
  simp [ownParams, hc] at h

/-- **When a picture uses its own descriptors.** After any run from the element's start,
exactly when out-of-band parameters are off or the number of SPS changes is a multiple of
`2^32`: the guard reads the 32-bit `sps_update_count`, which wraps. -/
theorem ownParams_after_run (client oob_pic_params : Bool) (ops : List DecOp) :
    ownParams ((DecState.init client oob_pic_params).run ops).1.dec =
      (!oob_pic_params ||
        (CacheEntry.changes spsCmp default (ops.filterMap DecOp.spsObs)).length % 2 ^ 32 == 0) := by
  have he := (Prod.mk.inj (run_refines _ _ _ _ _ step_refines_sps
    (DecState.init client oob_pic_params) ops)).1
  have hc := (CacheEntry.run_sequence spsCmp (DecState.init client oob_pic_params).dec.spsEntry
    (ops.filterMap DecOp.spsObs)).2
  have hl := congrArg List.length (CacheEntry.run_emits_changes spsCmp (fun _ _ => spsCmp_congr)
    (DecState.init client oob_pic_params).dec.spsEntry (ops.filterMap DecOp.spsObs))
  rw [List.length_map] at hl
  rw [← he, hl] at hc
  have hcount : ((DecState.init client oob_pic_params).run ops).1.dec.sps_update_count =
      UInt32.ofNat (CacheEntry.changes spsCmp default (ops.filterMap DecOp.spsObs)).length :=
    hc.trans (zero_add _)
  rw [ownParams, run_oob_pic_params, hcount, Bool.and_self]
  congr 1
  exact Bool.eq_iff_iff.2 (by simpa only [beq_iff_eq] using CacheEntry.uint32_ofNat_eq_zero_iff _)

/-- An SPS that refers to a VPS, and a PPS of each id that refers to it. -/
def spsWithVps : GstH265SPS :=
  { (default : GstH265SPS) with vps := some default, pic_width_in_luma_samples := 64 }

/-- A PPS with the given id, referring to `spsWithVps`. -/
def ppsWithId (id : Nat) : GstH265PPS :=
  { (default : GstH265PPS) with id, sps := spsWithVps, init_qp_minus26 := 1 }

/-- A slice whose header refers to `pps`. -/
def sliceOfPps (pps : GstH265PPS) : GstH265Slice :=
  { sliceWithVps with header := { sliceWithVps.header with pps } }

/-- An SPS and PPSs 0 and 1 observed, with out-of-band parameters on. -/
def twoPpsObserved : List DecOp :=
  [.updatePictureParameters (.sps spsWithVps) ⟨true, none⟩,
   .updatePictureParameters (.pps (ppsWithId 0)) ⟨true, none⟩,
   .updatePictureParameters (.pps (ppsWithId 1)) ⟨true, none⟩]

/-- For a `DecodePicture` call: the PPS id the picture data submits, and the id in the
PPS descriptor its pointer reaches. -/
def ClientCall.ppsIds : ClientCall → Option (Nat × Option Nat)
  | .decodePicture data _ pps =>
    some (data.CodecSpecific.hevc.pic_parameter_set_id, pps.map (·.pps_pic_parameter_set_id))
  | _ => none

end H265Dec

import H265Dec.Decoder

/-!
# The element and its backend

The conversation between the element and the decode backend, over any run and any order
of callbacks.

`UpdatePictureParameters` hands an SPS or PPS descriptor to the backend, and
`DecodePicture` reads the descriptors its picture data points to. A picture that uses the
element's shared descriptors (`vkpLoc` is `.decoder`) has the backend read them during the
call.

**Abstract model.** `BackendView` is the backend's side: the last SPS and PPS descriptors
it was handed, zero before the first. `BackendView.Agrees` says of a sequence of calls that
every `DecodePicture` reading the shared descriptors reads what the view holds there.

**Theorem (`backend_reads_what_it_was_told`).** With a client, every run from the
element's start agrees with the backend's view. The proof is a simulation:
`BackendView.Matches` relates the view to the shared descriptors, each callback keeps it
(`step_agrees`), and a run keeps it (`run_agrees`). A picture decoded with the shared
descriptors after an SPS but before any PPS was handed over reads a zero PPS descriptor.

The backend's answer to `BeginSequence` is stored in `max_dpb_size` and never read
(`beginSequence_reply_ignored`, through `step_congr` and `run_congr`).
-/

namespace H265Dec

/-! ## What the backend was told, and what it reads -/

/-- The backend's side of the conversation about parameters: the last SPS and PPS
descriptors it was handed, zero before the first. -/
structure BackendView where
  sps : StdVideoH265SequenceParameterSet × Option StdVideoH265SequenceParameterSetVui
  pps : StdVideoH265PictureParameterSet

namespace BackendView

/-- Nothing handed over yet. -/
def init : BackendView := ⟨(default : VkH265Picture).stdSps, (default : VkH265Picture).pps⟩

/-- What a call tells the backend. -/
def observe (b : BackendView) : ClientCall → BackendView
  | .updatePictureParameters (.sps p _) => { b with sps := p }
  | .updatePictureParameters (.pps p _) => { b with pps := p }
  | _ => b

/-- A call agrees with the view when, being a `DecodePicture` that reads the shared
descriptors, it reads what the view holds. -/
def AgreesWith (b : BackendView) : ClientCall → Prop
  | .decodePicture data spsD ppsD =>
    (data.CodecSpecific.hevc.pStdSps = .decoder → spsD = some b.sps) ∧
      (data.CodecSpecific.hevc.pStdPps = .decoder → ppsD = some b.pps)
  | _ => True

/-- Every call of a sequence agrees with the view as the calls before it left it. -/
def Agrees : BackendView → List ClientCall → Prop
  | _, [] => True
  | b, c :: cs => b.AgreesWith c ∧ Agrees (b.observe c) cs

theorem agrees_append (b : BackendView) (cs cs' : List ClientCall) :
    b.Agrees (cs ++ cs') ↔ b.Agrees cs ∧ (cs.foldl observe b).Agrees cs' := by
  induction cs generalizing b with
  | nil => simp [Agrees]
  | cons c cs ih =>
    show b.AgreesWith c ∧ (b.observe c).Agrees (cs ++ cs') ↔ _
    rw [ih]
    simp only [Agrees, List.foldl_cons, and_assoc]

/-- The view holds the element's shared descriptors, and the element has a client. -/
def Matches (b : BackendView) (s : DecState) : Prop :=
  s.dec.client = true ∧ s.dec.vkp.stdSps = b.sps ∧ s.dec.vkp.pps = b.pps

end BackendView

open BackendView

/-- An observation keeps the view in step with the shared descriptors, and hands over
nothing that disagrees. -/
theorem update_matches {b : BackendView} {s : DecState} (h : b.Matches s)
    (nalu : ParameterSetNalu) (reply : UpdateReply) :
    b.Agrees ((updatePictureParameters s.dec nalu reply).2.toList.map .updatePictureParameters) ∧
      (((updatePictureParameters s.dec nalu reply).2.toList.map .updatePictureParameters).foldl
        observe b).Matches { s with dec := (updatePictureParameters s.dec nalu reply).1 } := by
  obtain ⟨hc, hs, hp⟩ := h
  cases nalu with
  | sps x =>
    by_cases hx : spsCmp s.dec.last_sps x <;>
      simp [updatePictureParameters, hx, hc, Agrees, AgreesWith, observe, Matches, hs, hp]
  | pps x =>
    by_cases hx : ppsCmp s.dec.last_pps x <;>
      simp [updatePictureParameters, hx, hc, Agrees, AgreesWith, observe, Matches, hs, hp]
  | vps x =>
    by_cases hx : vpsCmp s.dec.last_vps x <;>
      simp [updatePictureParameters, hx, hc, Agrees, Matches, hs, hp]
  | other t => exact ⟨trivial, hc, hs, hp⟩

/-- A `DecodePicture` call made while the view matches reads what the view holds through
the shared pointers. -/
theorem decodePictureCall_agrees {b : BackendView} {s : DecState} (h : b.Matches s) (v : VkPic)
    (data : VkParserPictureData) : b.AgreesWith (decodePictureCall s.dec v data) := by
  obtain ⟨-, hs, hp⟩ := h
  exact ⟨fun hd => by simp only [hd, VkpLoc.deref, Option.map_some', hs],
    fun hd => by simp only [hd, VkpLoc.deref, Option.map_some', hp]⟩

/-- **Step.** Every callback keeps the view in step with the shared descriptors, and its
calls agree with the view. -/
theorem step_agrees {b : BackendView} {s : DecState} (h : b.Matches s) (op : DecOp) :
    b.Agrees (s.step op).2 ∧ ((s.step op).2.foldl observe b).Matches (s.step op).1 := by
  cases op with
  | updatePictureParameters nalu reply => exact update_matches h nalu reply
  | endPicture reply =>
    simp only [DecState.step]
    split
    · rw [endPicture_handed, if_pos h.1]
      exact ⟨⟨decodePictureCall_agrees h _ _, trivial⟩, h⟩
    · exact ⟨trivial, h⟩
  | newSequence sps max_dpb_size isSVC frameRate reply =>
    obtain ⟨hc, hs, hp⟩ := h
    simp [DecState.step, newSequence_fst, hc, Agrees, AgreesWith, observe, Matches, hs, hp]
  | outputPicture vkpic picture duration reply finish =>
    obtain ⟨hc, hs, hp⟩ := h
    simp [DecState.step, outputPicture, hc, Agrees, AgreesWith, observe, Matches, hs, hp]
  | startPicture | decodeSlice =>
    simp only [DecState.step]
    split <;> exact ⟨trivial, h⟩
  | unhandledNalu | newPicture =>
    obtain ⟨hc, hs, hp⟩ := h
    simp [DecState.step, hc, Agrees, AgreesWith, observe, Matches, hs, hp]

/-- **Run.** From a state the view matches, every run agrees with it. -/
theorem run_agrees {b : BackendView} {s : DecState} (h : b.Matches s) (ops : List DecOp) :
    b.Agrees (s.run ops).2 := by
  induction ops generalizing b s with
  | nil => trivial
  | cons op ops ih =>
    obtain ⟨h₁, h₂⟩ := step_agrees h op
    rw [DecState.run_cons, agrees_append]
    exact ⟨h₁, ih h₂⟩

/-- **The backend reads what it was told.** With a client, in every run from the element's
start, whatever the order of the callbacks, every `DecodePicture` that reads the shared
descriptors reads the SPS and PPS descriptors last handed to `UpdatePictureParameters`
before it, and zero descriptors of a kind none of which was handed over yet. -/
theorem backend_reads_what_it_was_told (oob_pic_params : Bool) (ops : List DecOp) :
    BackendView.init.Agrees ((DecState.init true oob_pic_params).run ops).2 :=
  run_agrees ⟨rfl, rfl, rfl⟩ ops

/-! ## The answer to `BeginSequence` -/

/-- The callback with the backend's answer to `BeginSequence` replaced by 0. -/
def DecOp.forgetSequenceReply : DecOp → DecOp
  | .newSequence sps max_dpb_size isSVC frameRate _ =>
    .newSequence sps max_dpb_size isSVC frameRate 0
  | op => op

/-- The state with `max_dpb_size` replaced by 0. -/
def DecState.forgetDpbSize (s : DecState) : DecState :=
  { s with dec := { s.dec with max_dpb_size := 0 } }

/-- An observation does not read `max_dpb_size` and keeps it. -/
theorem update_max_dpb_size (d : GstH265Dec) (m : Int) (nalu : ParameterSetNalu)
    (reply : UpdateReply) :
    updatePictureParameters { d with max_dpb_size := m } nalu reply =
      ({ (updatePictureParameters d nalu reply).1 with max_dpb_size := m },
        (updatePictureParameters d nalu reply).2) := by
  cases nalu <;> simp only [updatePictureParameters] <;> split_ifs <;> rfl

/-- The picture callbacks do not read `max_dpb_size`. -/
theorem picture_callbacks_max_dpb_size (d : GstH265Dec) (m : Int) :
    startPicture { d with max_dpb_size := m } = startPicture d ∧
      endPicture { d with max_dpb_size := m } = endPicture d ∧
      newPicture { d with max_dpb_size := m } = newPicture d ∧
      outputPicture { d with max_dpb_size := m } = outputPicture d ∧
      decodePictureCall { d with max_dpb_size := m } = decodePictureCall d :=
  ⟨rfl, rfl, rfl, rfl, rfl⟩

/-- A callback depends on the state only through everything but `max_dpb_size`. -/
theorem step_forgetDpbSize (s : DecState) (op : DecOp) :
    (s.forgetDpbSize.step op).2 = (s.step op).2 ∧
      (s.forgetDpbSize.step op).1.forgetDpbSize = (s.step op).1.forgetDpbSize := by
  obtain ⟨h₁, h₂, h₃, h₄, h₅⟩ := picture_callbacks_max_dpb_size s.dec 0
  cases op with
  | updatePictureParameters nalu reply =>
    simp [DecState.step, DecState.forgetDpbSize, update_max_dpb_size]
  | newSequence sps max_dpb_size isSVC frameRate reply =>
    rcases s with ⟨⟨_ | _⟩, cur⟩ <;> exact ⟨rfl, rfl⟩
  | startPicture | decodeSlice | endPicture =>
    simp only [DecState.step, DecState.forgetDpbSize, h₁, h₂, h₅]
    split <;> exact ⟨rfl, rfl⟩
  | _ => refine ⟨?_, ?_⟩ <;> simp only [DecState.step, DecState.forgetDpbSize, h₃, h₄]

/-- A callback depends on the answer to `BeginSequence` only through `max_dpb_size`. -/
theorem step_forgetSequenceReply (s : DecState) (op : DecOp) :
    (s.step op.forgetSequenceReply).2 = (s.step op).2 ∧
      (s.step op.forgetSequenceReply).1.forgetDpbSize = (s.step op).1.forgetDpbSize := by
  cases op with
  | newSequence => rcases s with ⟨⟨_ | _⟩, cur⟩ <;> exact ⟨rfl, rfl⟩
  | _ => exact ⟨rfl, rfl⟩

/-- **Step.** Two states that differ at most in `max_dpb_size`, on callbacks that differ at
most in the answer to `BeginSequence`, make the same calls and stay so. -/
theorem step_congr {s t : DecState} (hs : s.forgetDpbSize = t.forgetDpbSize) {op op' : DecOp}
    (hop : op.forgetSequenceReply = op'.forgetSequenceReply) :
    (s.step op).2 = (t.step op').2 ∧
      (s.step op).1.forgetDpbSize = (t.step op').1.forgetDpbSize := by
  obtain ⟨a₁, a₂⟩ := step_forgetDpbSize s op
  obtain ⟨b₁, b₂⟩ := step_forgetDpbSize t op'
  obtain ⟨c₁, c₂⟩ := step_forgetSequenceReply s.forgetDpbSize op
  obtain ⟨d₁, d₂⟩ := step_forgetSequenceReply t.forgetDpbSize op'
  have e : s.forgetDpbSize.step op.forgetSequenceReply =
      t.forgetDpbSize.step op'.forgetSequenceReply := by
    rw [hs, hop]
  exact ⟨a₁.symm.trans (c₁.symm.trans ((congrArg Prod.snd e).trans (d₁.trans b₁))),
    a₂.symm.trans (c₂.symm.trans ((congrArg (·.1.forgetDpbSize) e).trans (d₂.trans b₂)))⟩

/-- **Run.** The same over whole runs. -/
theorem run_congr {s t : DecState} (hs : s.forgetDpbSize = t.forgetDpbSize) {ops ops' : List DecOp}
    (hops : ops.map DecOp.forgetSequenceReply = ops'.map DecOp.forgetSequenceReply) :
    (s.run ops).2 = (t.run ops').2 := by
  induction ops generalizing s t ops' with
  | nil => cases ops' with
    | nil => rfl
    | cons _ _ => cases hops
  | cons op ops ih => cases ops' with
    | nil => cases hops
    | cons op' ops' =>
      obtain ⟨hop, hops⟩ := List.cons.inj hops
      obtain ⟨h₁, h₂⟩ := step_congr hs hop
      rw [DecState.run_cons, DecState.run_cons, h₁, ih h₂ hops]

/-- **The answer to `BeginSequence` is never used.** It is stored in `max_dpb_size`, which
nothing reads: two runs from the element's start whose callbacks differ at most in the
backend's answers to `BeginSequence` make exactly the same backend calls. -/
theorem beginSequence_reply_ignored (client oob_pic_params : Bool) (ops ops' : List DecOp)
    (hops : ops.map DecOp.forgetSequenceReply = ops'.map DecOp.forgetSequenceReply) :
    ((DecState.init client oob_pic_params).run ops).2 =
      ((DecState.init client oob_pic_params).run ops').2 :=
  run_congr rfl hops

end H265Dec

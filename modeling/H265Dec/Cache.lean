import H265Dec.Compare

/-!
# The parameter change cache

`gst_h265_dec_update_picture_parameters` keeps, per kind, the last record it accepted
(`last_sps`, `last_pps`, `last_vps`) and a 32-bit update counter. A record that its
comparator finds equal to the cached one is dropped; any other replaces the cached one, is
converted into the shared `VkH265Picture`, and is handed to the backend with the counter,
which then goes up by one. A VPS is compared and cached but never converted or handed on:
its branch returns at `if (true)`, before `fill_vps`, the publication and the counter
increment that follow.

**Abstract model.** `CacheEntry` is one kind's cache: the last accepted value and the update
sequence. Over any sequence of observations it emits consecutive sequence numbers
(`CacheEntry.run_sequence`), and, under a comparator whose related values compare alike, it
emits exactly the observations that differ from the one before (`CacheEntry.run_emits_changes`).

**Refinement.** The SPS and PPS branches of `update_picture_parameters` are one code over a
`ParamKind`: comparator, cache entry, converter and shared descriptor. `ParamKind.update_spec`
says that on the element an observation of the kind moves its entry as `CacheEntry.observe`
does and hands over the emitted record's descriptor; `spsKind` and `ppsKind` prove it of the
two branches, and every later result about one kind is proved once over `ParamKind`.

**`fill_determined_by_compared_fields`.** What a successful comparison leaves open: the
parts of a record the comparator skips, which a new record may change without being
published.
-/

namespace H265Dec

/-! ## The element's state -/

/-- `GstH265Dec`. `client` says whether a decode client was set; `spsclient`,
`ppsclient` and `vpsclient` are the backend's correlation tokens, `none` until the backend
fills them in. -/
structure GstH265Dec where
  client : Bool
  oob_pic_params : Bool
  max_dpb_size : Int
  last_sps : GstH265SPS
  last_pps : GstH265PPS
  last_vps : GstH265VPS
  vkp : VkH265Picture
  spsclient : Option Nat
  ppsclient : Option Nat
  vpsclient : Option Nat
  sps_update_count : UInt32
  pps_update_count : UInt32
  deriving Inhabited

/-- The element after `gst_h265_dec_init` and its two construct-only properties: every
other field is zero. -/
def GstH265Dec.init (client oob_pic_params : Bool) : GstH265Dec :=
  { (default : GstH265Dec) with client, oob_pic_params }

/-- The parameter-set NAL units `update_picture_parameters` is called with: the unit type
together with the parsed record the `nalu` pointer carries for it. -/
inductive ParameterSetNalu
  | sps (sps : GstH265SPS)
  | pps (pps : GstH265PPS)
  | vps (vps : GstH265VPS)
  | other (type : Nat)

/-- The backend's answer to `UpdatePictureParameters`: its return value, which the element
only logs, and the correlation token it leaves in the reference it was passed. -/
structure UpdateReply where
  ok : Bool
  client_object : Option Nat

/-- `VkPictureParameters` as the backend reads it during the call: the descriptor its
pointer reaches, and `updateSequenceCount`. -/
inductive VkPictureParameters
  | sps (pH265Sps : StdVideoH265SequenceParameterSet ×
      Option StdVideoH265SequenceParameterSetVui) (updateSequenceCount : UInt32)
  | pps (pH265Pps : StdVideoH265PictureParameterSet) (updateSequenceCount : UInt32)

/-- The SPS descriptor, with its VUI, that `fill_sps` makes of a record. -/
def spsDescriptor (sps : GstH265SPS) :
    StdVideoH265SequenceParameterSet × Option StdVideoH265SequenceParameterSetVui :=
  (fillSps sps default).stdSps

/-- The PPS descriptor that `fill_pps` makes of a record. -/
def ppsDescriptor (pps : GstH265PPS) : StdVideoH265PictureParameterSet :=
  (fillPps pps default).pps

/-- `gst_h265_dec_update_picture_parameters`. The second component is what is handed to
`UpdatePictureParameters`, when the element has a client. -/
def updatePictureParameters (self : GstH265Dec) (nalu : ParameterSetNalu)
    (reply : UpdateReply) : GstH265Dec × Option VkPictureParameters :=
  match nalu with
  | .sps sps =>
    if spsCmp self.last_sps sps then (self, none) else
    let vkp := fillSps sps self.vkp
    let params := VkPictureParameters.sps vkp.stdSps self.sps_update_count
    let self := { self with last_sps := sps, vkp, sps_update_count := self.sps_update_count + 1 }
    if self.client then ({ self with spsclient := reply.client_object }, some params)
    else (self, none)
  | .pps pps =>
    if ppsCmp self.last_pps pps then (self, none) else
    let vkp := fillPps pps self.vkp
    let params := VkPictureParameters.pps vkp.pps self.pps_update_count
    let self := { self with last_pps := pps, vkp, pps_update_count := self.pps_update_count + 1 }
    if self.client then ({ self with ppsclient := reply.client_object }, some params)
    else (self, none)
  | .vps vps =>
    if vpsCmp self.last_vps vps then (self, none) else ({ self with last_vps := vps }, none)
  | .other _ => (self, none)

/-! ## The abstract cache of one kind -/

/-- One kind's change cache: the last accepted value and the update sequence. -/
structure CacheEntry (α : Type) where
  last_value : α
  update_sequence : UInt32

namespace CacheEntry

variable {α : Type} (cmp : α → α → Bool)

/-- Observe a value: keep the entry if `cmp` finds it equal to the last one; otherwise
accept it and emit it with the current sequence number. -/
def observe (e : CacheEntry α) (x : α) : CacheEntry α × Option (α × UInt32) :=
  if cmp e.last_value x then (e, none)
  else (⟨x, e.update_sequence + 1⟩, some (x, e.update_sequence))

/-- Observe a sequence of values, collecting what is emitted. -/
def run : CacheEntry α → List α → CacheEntry α × List (α × UInt32)
  | e, [] => (e, [])
  | e, x :: xs =>
    let (e', o) := e.observe cmp x
    let (e'', os) := run e' xs
    (e'', o.toList ++ os)

@[simp] theorem run_nil (e : CacheEntry α) : run cmp e [] = (e, []) := rfl

theorem run_cons (e : CacheEntry α) (x : α) (xs : List α) :
    run cmp e (x :: xs) = (((e.observe cmp x).1.run cmp xs).1,
      (e.observe cmp x).2.toList ++ ((e.observe cmp x).1.run cmp xs).2) := rfl

theorem uint32_ofNat_add (a b : Nat) :
    UInt32.ofNat (a + b) = UInt32.ofNat a + UInt32.ofNat b := by
  simp only [UInt32.ofNat, UInt32.add_def, BitVec.ofNat_add]

/-- A 32-bit counter reads 0 exactly at the multiples of `2^32`. -/
theorem uint32_ofNat_eq_zero_iff (n : Nat) : UInt32.ofNat n = 0 ↔ n % 2 ^ 32 = 0 := by
  have h : (UInt32.ofNat n).toNat = n % 2 ^ 32 := BitVec.toNat_ofNat n 32
  rw [← h]
  exact ⟨fun e => by rw [e]; rfl, fun e => UInt32.eq_of_toBitVec_eq (BitVec.eq_of_toNat_eq e)⟩

/-- Over any sequence of observations, the sequence numbers emitted are consecutive from
the entry's, and the entry's counter ends past the last of them. -/
theorem run_sequence (e : CacheEntry α) (xs : List α) :
    (run cmp e xs).2.map Prod.snd = (List.range (run cmp e xs).2.length).map
        (fun k => e.update_sequence + UInt32.ofNat k) ∧
      (run cmp e xs).1.update_sequence =
        e.update_sequence + UInt32.ofNat (run cmp e xs).2.length := by
  induction xs generalizing e with
  | nil => simp [run]
  | cons x xs ih =>
    cases hx : cmp e.last_value x
    · obtain ⟨ih₁, ih₂⟩ := ih ⟨x, e.update_sequence + 1⟩
      simp only [run, observe, hx, Bool.false_eq_true, ↓reduceIte, Option.toList_some,
        List.singleton_append, List.map_cons, List.length_cons] at ih₁ ih₂ ⊢
      refine ⟨?_, ?_⟩
      · rw [ih₁, List.range_succ_eq_map, List.map_cons, List.map_map]
        refine congrArg₂ _ (by simp) (List.map_congr_left fun k _ => ?_)
        rw [Function.comp_apply, Nat.succ_eq_add_one, uint32_ofNat_add, add_assoc,
          add_comm 1]; rfl
      · rw [ih₂, uint32_ofNat_add, add_assoc, add_comm 1]; rfl
    · simpa [run, observe, hx] using ih e

/-- The observations that `cmp` finds different from the observation before them; `prev`
stands before the first. -/
def changes (prev : α) : List α → List α
  | [] => []
  | x :: xs => if cmp prev x then changes x xs else x :: changes x xs


/-- **A cache emits exactly the changes.** When values `cmp` relates compare alike with
every value, as under an equivalence, the values a run emits are the observations that
differ from the one before them, the entry's value standing before the first: comparing
with the last accepted value is comparing with the last observed one. -/
theorem run_emits_changes (hcongr : ∀ a b, cmp a b → ∀ c, cmp a c = cmp b c)
    (e : CacheEntry α) (xs : List α) :
    (e.run cmp xs).2.map Prod.fst = changes cmp e.last_value xs := by
  suffices h : ∀ (e : CacheEntry α) (prev : α), (∀ y, cmp e.last_value y = cmp prev y) →
      (e.run cmp xs).2.map Prod.fst = changes cmp prev xs from h e _ fun _ => rfl
  induction xs with
  | nil => intros; rfl
  | cons x xs ih =>
    intro e prev hrow
    have hp := hrow x
    cases hx : cmp e.last_value x
    · rw [hx] at hp
      simp only [run, observe, hx, Bool.false_eq_true, ↓reduceIte, Option.toList_some,
        List.singleton_append, List.map_cons, changes, ← hp]
      exact congrArg (x :: ·) (ih _ x fun _ => rfl)
    · rw [hx] at hp
      simp only [run, observe, hx, ↓reduceIte, Option.toList_none, List.nil_append, changes,
        ← hp]
      exact ih e x (hcongr _ _ hx)

end CacheEntry

/-! ## The decoder refines one entry per kind -/

/-- The SPS cache of the element. -/
def GstH265Dec.spsEntry (d : GstH265Dec) : CacheEntry GstH265SPS :=
  ⟨d.last_sps, d.sps_update_count⟩

/-- The PPS cache of the element. -/
def GstH265Dec.ppsEntry (d : GstH265Dec) : CacheEntry GstH265PPS :=
  ⟨d.last_pps, d.pps_update_count⟩

/-- A kind of parameter set that `update_picture_parameters` hands to the backend.
`update_spec` is what its branch does: a unit of the kind moves the entry as `observe` does,
sets the shared descriptor to the accepted record's and, with a client, hands over what
`observe` emits; any other unit leaves all of it alone. -/
structure ParamKind (α δ : Type) where
  cmp : α → α → Bool
  entry : GstH265Dec → CacheEntry α
  record : ParameterSetNalu → Option α
  shared : GstH265Dec → δ
  descriptor : α → δ
  handed : VkPictureParameters → Option (δ × UInt32)
  update_spec : ∀ d nalu reply,
    (entry (updatePictureParameters d nalu reply).1, shared (updatePictureParameters d nalu reply).1,
      (updatePictureParameters d nalu reply).2.bind handed) =
    match record nalu with
    | some x => (((entry d).observe cmp x).1,
        if cmp (entry d).last_value x then shared d else descriptor x,
        if d.client then ((entry d).observe cmp x).2.map fun p => (descriptor p.1, p.2) else none)
    | none => (entry d, shared d, none)
  max_dpb_size_spec : ∀ d m,
    entry { d with max_dpb_size := m } = entry d ∧ shared { d with max_dpb_size := m } = shared d

/-- The SPS kind: `sps_cmp`, `last_sps` with `sps_update_count`, and `fill_sps` into the
shared SPS descriptor and its VUI. -/
def spsKind : ParamKind GstH265SPS
    (StdVideoH265SequenceParameterSet × Option StdVideoH265SequenceParameterSetVui) where
  cmp := spsCmp
  entry := GstH265Dec.spsEntry
  record | .sps sps => some sps | _ => none
  shared d := d.vkp.stdSps
  descriptor := spsDescriptor
  handed | .sps p k => some (p, k) | _ => none
  update_spec d nalu reply := by
    cases nalu with
    | sps x =>
      by_cases h : spsCmp d.last_sps x <;> cases hc : d.client <;>
        simp [updatePictureParameters, CacheEntry.observe, GstH265Dec.spsEntry, spsDescriptor,
          stdSps_fillSps, h, hc]
    | pps x =>
      by_cases h : ppsCmp d.last_pps x <;> cases hc : d.client <;>
        simp [updatePictureParameters, GstH265Dec.spsEntry, h, hc]
    | vps x =>
      by_cases h : vpsCmp d.last_vps x <;> simp [updatePictureParameters, GstH265Dec.spsEntry, h]
    | other t => rfl
  max_dpb_size_spec _ _ := ⟨rfl, rfl⟩

/-- The PPS kind: `pps_cmp`, `last_pps` with `pps_update_count`, and `fill_pps` into the
shared PPS descriptor. -/
def ppsKind : ParamKind GstH265PPS StdVideoH265PictureParameterSet where
  cmp := ppsCmp
  entry := GstH265Dec.ppsEntry
  record | .pps pps => some pps | _ => none
  shared d := d.vkp.pps
  descriptor := ppsDescriptor
  handed | .pps p k => some (p, k) | _ => none
  update_spec d nalu reply := by
    cases nalu with
    | sps x =>
      by_cases h : spsCmp d.last_sps x <;> cases hc : d.client <;>
        simp [updatePictureParameters, GstH265Dec.ppsEntry, h, hc]
    | pps x =>
      by_cases h : ppsCmp d.last_pps x <;> cases hc : d.client <;>
        simp [updatePictureParameters, CacheEntry.observe, GstH265Dec.ppsEntry, ppsDescriptor,
          fillPps_pps x d.vkp default, h, hc]
    | vps x =>
      by_cases h : vpsCmp d.last_vps x <;> simp [updatePictureParameters, GstH265Dec.ppsEntry, h]
    | other t => rfl
  max_dpb_size_spec _ _ := ⟨rfl, rfl⟩

namespace ParamKind

variable {α δ : Type} (k : ParamKind α δ)

/-- The shared descriptor is the converter's image of the cached record. -/
def Synced (d : GstH265Dec) : Prop := k.shared d = k.descriptor (k.entry d).last_value

/-- An observation either accepts a record of the kind, and then the shared descriptor is
its image, or leaves the kind's entry and shared descriptor, its record, if any, being one
the entry does not accept. -/
theorem accepts_or_keeps (d : GstH265Dec) (nalu : ParameterSetNalu) (reply : UpdateReply) :
    k.Synced (updatePictureParameters d nalu reply).1 ∨
      (k.entry (updatePictureParameters d nalu reply).1 = k.entry d ∧
        k.shared (updatePictureParameters d nalu reply).1 = k.shared d ∧
        ∀ x, k.record nalu = some x → (k.entry d).observe k.cmp x = (k.entry d, none)) := by
  have h := k.update_spec d nalu reply
  cases hr : k.record nalu with
  | none =>
    simp only [hr, Prod.mk.injEq] at h
    exact .inr ⟨h.1, h.2.1, fun _ e => nomatch e⟩
  | some x =>
    simp only [hr, CacheEntry.observe, Prod.mk.injEq] at h
    by_cases hc : k.cmp (k.entry d).last_value x
    · simp only [hc, ↓reduceIte] at h
      exact .inr ⟨h.1, h.2.1, fun _ e => by cases e; simp [CacheEntry.observe, hc]⟩
    · simp only [hc, Bool.false_eq_true, ↓reduceIte] at h
      exact .inl (by rw [Synced, h.1, h.2.1])

end ParamKind

/-- What is handed to the backend for a VPS: nothing. -/
theorem update_vps_output (d : GstH265Dec) (vps : GstH265VPS) (reply : UpdateReply) :
    (updatePictureParameters d (.vps vps) reply).2 = none := by
  by_cases h : vpsCmp d.last_vps vps <;> simp [updatePictureParameters, h]

/-- The construct-only fields never change. -/
@[simp] theorem update_client (d : GstH265Dec) (nalu : ParameterSetNalu) (reply : UpdateReply) :
    (updatePictureParameters d nalu reply).1.client = d.client := by
  cases nalu <;> simp only [updatePictureParameters] <;> split_ifs <;> rfl

@[simp] theorem update_oob_pic_params (d : GstH265Dec) (nalu : ParameterSetNalu)
    (reply : UpdateReply) :
    (updatePictureParameters d nalu reply).1.oob_pic_params = d.oob_pic_params := by
  cases nalu <;> simp only [updatePictureParameters] <;> split_ifs <;> rfl

/-! ## A change the cache suppresses -/

/-- A valid SPS, zero elsewhere, of the given `level_idc`. -/
def spsOfLevel (level_idc : Nat) : GstH265SPS :=
  { (default : GstH265SPS) with
    profile_tier_level := { (default : GstH265ProfileTierLevel) with level_idc }
    valid := true }

/-- After an SPS of level 3.1 and then the same SPS at level 4.1, the shared descriptor is
still the one of level 3.1: `sps_cmp` does not look at the level. -/
theorem level_change_not_published :
    let d := (updatePictureParameters (updatePictureParameters (GstH265Dec.init true false)
      (.sps (spsOfLevel 93)) ⟨true, none⟩).1 (.sps (spsOfLevel 123)) ⟨true, none⟩).1
    spsCmp (spsOfLevel 93) (spsOfLevel 123) = true ∧
      d.vkp.stdSps ≠ spsDescriptor (spsOfLevel 123) := by
  refine ⟨rfl, fun h => absurd (congrArg (fun v => v.1.level_idc) h) ?_⟩
  decide

/-- **What the cache can miss.** If `b` compares equal to `a`, `fill_sps a` is `fill_sps b`
with the uncompared parts taken from `a`; and a record that differs from the cached one only
in those parts is dropped, leaving the element as it was. Likewise for the PPS. -/
theorem fill_determined_by_compared_fields :
    (∀ (a b : GstH265SPS) (vkp : VkH265Picture), spsCmp a b = true →
      fillSps a vkp = fillSps (b.withUncomparedOf a) vkp) ∧
    (∀ (a b : GstH265PPS) (vkp : VkH265Picture), ppsCmp a b = true →
      fillPps a vkp = fillPps (b.withUncomparedOf a) vkp) ∧
    (∀ a b : GstH265SPS, spsCmp b (b.withUncomparedOf a) = true) ∧
    (∀ a b : GstH265PPS, ppsCmp b (b.withUncomparedOf a) = true) ∧
    (∀ (d : GstH265Dec) (a : GstH265SPS) (reply : UpdateReply),
      updatePictureParameters d (.sps (d.last_sps.withUncomparedOf a)) reply = (d, none)) ∧
    (∀ (d : GstH265Dec) (a : GstH265PPS) (reply : UpdateReply),
      updatePictureParameters d (.pps (d.last_pps.withUncomparedOf a)) reply = (d, none)) :=
  ⟨fun _ _ vkp h => fillSps_of_spsCmp h vkp, fun _ _ vkp h => fillPps_of_ppsCmp h vkp,
    spsCmp_withUncomparedOf, ppsCmp_withUncomparedOf,
    fun d a reply => by simp [updatePictureParameters],
    fun d a reply => by simp [updatePictureParameters]⟩

/-- After an SPS of level 3.1, the same SPS at level 4.1 compares equal to it, and is
dropped. -/
theorem fill_determined_at_level_change :
    let d := (updatePictureParameters (GstH265Dec.init true false) (.sps (spsOfLevel 93))
      ⟨true, none⟩).1
    spsCmp (spsOfLevel 93) (spsOfLevel 123) = true ∧
      fillSps (spsOfLevel 93) default =
        fillSps ((spsOfLevel 123).withUncomparedOf (spsOfLevel 93)) default ∧
      d.last_sps.withUncomparedOf (spsOfLevel 123) = spsOfLevel 123 ∧
      spsCmp d.last_sps (d.last_sps.withUncomparedOf (spsOfLevel 123)) = true ∧
      updatePictureParameters d (.sps (d.last_sps.withUncomparedOf (spsOfLevel 123)))
        ⟨true, none⟩ = (d, none) :=
  ⟨rfl, fill_determined_by_compared_fields.1 _ _ _ rfl, rfl,
    fill_determined_by_compared_fields.2.2.1 _ _, fill_determined_by_compared_fields.2.2.2.2.1 _ _ _⟩

end H265Dec

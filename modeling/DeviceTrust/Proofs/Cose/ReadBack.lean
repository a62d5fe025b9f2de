import DeviceTrust.Proofs.Cose.RoundTrip
import DeviceTrust.Proofs.Cose.Verification

/-!
# Keys and messages that were read back

Plain values that went over the wire may be of another sort: arrays and maps that cannot change,
plain byte strings, numbers without their names. A strict reader sees none of this
(`Cbor.seen_asRead`). So a key verifies the same before and after (`CoseKey.Alike`,
`CoseKey.decode_asRead`), and a message has the same signed parts (`SignedMessage.SameSigned`,
`SignedMessage.decode_asRead`); what verification makes of a message under a key depends on nothing
else (`Provider.verify_congr`). What is no key or no message before is none afterwards.
-/

set_option autoImplicit false

namespace DeviceTrust

/-! ## What can be seen -/

namespace Cbor

/-- **Reading back changes nothing that a strict reader sees.** -/
theorem seen_asRead (v : Value) (frozen : Bool) : (asRead v frozen).seen = v.seen := by
  cases v with
  | list _ | tuple _ | map _ _ => cases frozen <;> rfl
  | _ => rfl

theorem kindOf_asRead (v : Value) (frozen : Bool) : (asRead v frozen).kindOf = v.kindOf :=
  congrArg (·.1) (seen_asRead v frozen)

theorem byteString?_asRead (v : Value) (frozen : Bool) :
    (asRead v frozen).byteString? = v.byteString? :=
  congrArg (·.2.2) (seen_asRead v frozen)

theorem items?_asRead (v : Value) (frozen : Bool) :
    (asRead v frozen).items? = v.items?.map fun items => itemsAsRead items frozen := by
  cases v with
  | list _ | tuple _ => cases frozen <;> rfl
  | map _ _ => cases frozen <;> rfl
  | _ => rfl

end Cbor

/-! ## Keys -/

namespace CoseKey

variable {k k' : CoseKey}

/-- **Keys that are alike to every reader**: both in order, and with the same to be seen under each
registered label. -/
structure Alike (k k' : CoseKey) : Prop where
  left : k.Normal
  right : k'.Normal
  found : ∀ label : KeyLabel,
    (k.find? (.int label.number)).map Value.seen = (k'.find? (.int label.number)).map Value.seen

theorem Alike.refl (h : k.Normal) : k.Alike k := ⟨h, h, fun _ => rfl⟩

/-- **A key is alike to what is read back of it.** -/
theorem alike_asRead (h : k.Normal) : k.Alike k.asRead := by
  refine ⟨h, h.asRead, fun label => ?_⟩
  unfold find? asRead
  rw [Entries.find?_map fun v => Cbor.asRead v false, Option.map_map]
  refine congrArg (fun f => Option.map f _) (funext fun v => ?_)
  exact (Cbor.seen_asRead v false).symm

theorem Alike.seen_get (h : k.Alike k') (label : KeyLabel) :
    (k.get label).seen = (k'.get label).seen := by
  have hfound := h.found label
  unfold get
  cases hk : k.find? (.int label.number) with
  | none =>
      rw [hk, Option.map_none, eq_comm, Option.map_eq_none_iff] at hfound
      rw [hfound]
  | some v =>
      rw [hk, Option.map_some, eq_comm, Option.map_eq_some_iff] at hfound
      obtain ⟨w, hw, hseen⟩ := hfound
      rw [hw]
      exact hseen.symm

theorem Alike.find?_eq_none_iff (h : k.Alike k') (label : KeyLabel) :
    k.find? (.int label.number) = none ↔ k'.find? (.int label.number) = none := by
  rw [← Option.map_eq_none_iff (f := Value.seen), h.found label, Option.map_eq_none_iff]

theorem Alike.seen_get_withDefaultAlgorithm (h : k.Alike k') (s : Suite) (label : KeyLabel) :
    ((s.withDefaultAlgorithm k).get label).seen = ((s.withDefaultAlgorithm k').get label).seen := by
  cases hk : k.find? (.int KeyLabel.alg.number) with
  | none =>
      have hk' := (h.find?_eq_none_iff .alg).1 hk
      rw [Suite.withDefaultAlgorithm_of_find?_eq_none hk,
        Suite.withDefaultAlgorithm_of_find?_eq_none hk',
        get_added h.left (List.append_nil _).symm hk, get_added h.right (List.append_nil _).symm hk']
      by_cases hlabel : label = .alg
      · rw [if_pos hlabel, if_pos hlabel]
      · rw [if_neg hlabel, if_neg hlabel]
        exact h.seen_get label
  | some v =>
      have hnamed : k'.find? (.int KeyLabel.alg.number) ≠ none := by
        intro hnone
        cases hk.symm.trans ((h.find?_eq_none_iff .alg).2 hnone)
      obtain ⟨w, hw⟩ := Option.ne_none_iff_exists'.1 hnamed
      rw [Suite.withDefaultAlgorithm_of_find?_eq_some hk,
        Suite.withDefaultAlgorithm_of_find?_eq_some hw]
      exact h.seen_get label

theorem Alike.publicKeyOf_eq (h : k.Alike k') (p : Platform) (s : Suite) :
    s.publicKeyOf p k = s.publicKeyOf p k' :=
  Suite.publicKeyOf_congr fun label _ => h.seen_get_withDefaultAlgorithm s label

/-- **The key of a map that is read back is the key as it is read back.** -/
theorem new_entriesAsRead {es : Entries} (h : es.Labelled) :
    new (Entries.ofList (Cbor.entriesAsRead es false)) = (new es).asRead := by
  have hentries : Cbor.entriesAsRead es false
      = (es.map fun e => (e.1.plainNumber, e.2.plainNumber)).map
        fun e => (e.1, Cbor.asRead e.2 false) := by
    rw [Cbor.entriesAsRead_eq_map, List.map_map]
    refine List.map_congr_left fun e he => ?_
    exact Prod.ext (h.asRead he true) (Cbor.asRead_plainNumber e.2 false).symm
  have hparameters : Entries.ofList (Cbor.entriesAsRead es false) = (new es).asRead.parameters := by
    rw [hentries, Entries.ofList_map fun v => Cbor.asRead v false]
    rfl
  rw [hparameters]
  exact new_eq_of_normal (normal_new es).asRead

/-- **The reader of keys takes a plain value exactly if it takes what is read back of it**, and gives
keys that are alike. -/
theorem decode_asRead {depth : Nat} {v : Value} (hv : Cbor.Plain depth v)
    (hl : ∀ flavour es, v = .map flavour es → Entries.Labelled es) :
    Agree Alike (decode v) (decode (Cbor.asRead v false)) := by
  -- from bytes, the same map is decoded in both cases
  have hbytes : ∀ b, Agree Alike (decode (.bytes b)) (decode (.bytes b)) := by
    intro b
    cases hk : decode (.bytes b) with
    | error e => exact .error e e
    | ok k =>
        cases decode_eq_ok_iff.1 hk with
        | encoded _ _ => exact .ok (.refl (normal_new _))
  cases v with
  | bytes b | buffer b => exact hbytes b
  | map flavour es =>
      have hnew := new_entriesAsRead (hl flavour es rfl)
      have hdecode : decode (Cbor.asRead (.map flavour es) false) = .ok (new es).asRead :=
        congrArg Except.ok hnew
      rw [hdecode]
      exact .ok (alike_asRead (normal_new es))
  | list _ | tuple _ => exact .error _ _
  | coseKey _ => cases hv
  | _ => exact .error _ _

end CoseKey

/-! ## Messages -/

namespace SignedMessage

/-- **Messages with the same signed parts**: all but the unprotected header. -/
structure SameSigned (m m' : SignedMessage) : Prop where
  protectedHeader : m.protectedHeader = m'.protectedHeader
  payload : m.payload = m'.payload
  signature : m.signature = m'.signature

theorem SameSigned.refl (m : SignedMessage) : m.SameSigned m := ⟨rfl, rfl, rfl⟩

theorem requirePart_asRead (part : MessagePart) (v : Value) (frozen : Bool) :
    requirePart part (Cbor.asRead v frozen) = requirePart part v := by
  rw [requirePart, requirePart, Cbor.kindOf_asRead]

theorem ofArray_asRead (v : Value) (frozen : Bool) :
    Agree SameSigned (ofArray v) (ofArray (Cbor.asRead v frozen)) := by
  unfold ofArray
  rw [Cbor.items?_asRead]
  rcases v.items? with _ | _ | ⟨p, _ | ⟨u, _ | ⟨q, _ | ⟨s, _ | ⟨x, rest⟩⟩⟩⟩⟩
  case some.cons.cons.cons.cons.nil =>
    simp only [Option.map_some, Cbor.itemsAsRead, requirePart_asRead, Cbor.byteString?_asRead]
    refine (Agree.refl Eq.refl _).bind fun _ _ _ => (Agree.refl Eq.refl _).bind fun _ _ _ => ?_
    refine (Agree.refl Eq.refl _).bind fun _ _ _ => (Agree.refl Eq.refl _).bind fun _ _ _ => ?_
    refine (Agree.refl Eq.refl _).bind fun _ _ _ => ?_
    exact .ok ⟨rfl, rfl, rfl⟩
  all_goals exact .error _ _

theorem untagged_tag_of_eq {number : Nat} (h : number = Parameters.messageTag) (content : Value) :
    untagged (.tag number content) = .ok content := if_pos h

theorem untagged_tag_of_ne {number : Nat} (h : number ≠ Parameters.messageTag) (content : Value) :
    untagged (.tag number content) = .error (.messageTag number) := if_neg h

/-- **The reader of messages takes a plain value exactly if it takes what is read back of it**, and
gives messages with the same signed parts. -/
theorem decode_asRead {depth : Nat} {v : Value} (hv : Cbor.Plain depth v) (frozen : Bool) :
    Agree SameSigned (decode v) (decode (Cbor.asRead v frozen)) := by
  have harray := ofArray_asRead v frozen
  cases v with
  | bytes b | buffer b => exact .refl .refl (decode (.bytes b))
  | tag number content =>
      show Agree SameSigned (untagged (.tag number content) >>= ofArray)
        (untagged (.tag number (Cbor.asRead content (frozen || Cbor.freezesContent number)))
          >>= ofArray)
      by_cases hnumber : number = Parameters.messageTag
      · rw [untagged_tag_of_eq hnumber, untagged_tag_of_eq hnumber]
        exact ofArray_asRead content _
      · rw [untagged_tag_of_ne hnumber, untagged_tag_of_ne hnumber]
        exact .error _ _
  | message _ _ _ _ => cases hv
  | list _ | tuple _ | map _ _ => cases frozen <;> exact harray
  | _ => exact harray

end SignedMessage

/-! ## Verification -/

/-- **What verification makes of a message under a key** depends on the signed parts and on what can
be seen of the key. -/
theorem Provider.verify_congr {m m' : SignedMessage} {k k' : CoseKey} (hm : m.SameSigned m')
    (hk : k.Alike k') (p : Platform) (pr : Provider) :
    pr.verify p m k.toValue = pr.verify p m' k'.toValue := by
  obtain ⟨header, u, payload, signature⟩ := m
  obtain ⟨header', u', payload', signature'⟩ := m'
  obtain ⟨rfl, rfl, rfl⟩ := hm
  exact verify_congr_key fun s => hk.publicKeyOf_eq p s

end DeviceTrust

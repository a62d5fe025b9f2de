import DeviceTrust.Proofs.Cbor.Framing
import DeviceTrust.Proofs.Cose.RoundTrip

/-!
# What is published of a key

The secret part of a key is left out by its label, after the key was made of its entries. For scalar
labels the order does not matter (`Entries.withoutSecret_ofList`): what is published are the given
entries but those of the secret part, with plain numbers for named ones (`CoseKey.publicKey_new`).

Whatever stands under its labels, an encoding of such a key is no encoding of a key with a secret part
(`CoseKey.hasPrivate_of_decode`).
-/

set_option autoImplicit false

namespace DeviceTrust

namespace Value

theorem isSecretLabel_plainNumber (v : Value) : v.plainNumber.isSecretLabel = v.isSecretLabel :=
  sameAsInt_plainNumber v _

theorem same_secretLabel (v : Value) : v.same (.int KeyLabel.d.number) = v.isSecretLabel := by
  have hagrees := agrees_int v KeyLabel.d.number
  have hoccurrence : sameOccurrence v (.int KeyLabel.d.number) = false := by
    cases v with
    | object o => cases o <;> rfl
    | _ => rfl
  rwa [agrees, hoccurrence, Bool.false_or] at hagrees

end Value

theorem IsLabel.isScalar {v : Value} (h : IsLabel v) : IsScalar v := by
  cases h with
  | int n => exact .int n
  | text s => exact .text s
  | bytes b => exact .bytes b

theorem IsScalar.isSecretLabel_congr {v w : Value} (hv : IsScalar v) (hw : IsScalar w)
    (h : v.agrees w = true) : v.isSecretLabel = w.isSecretLabel :=
  hv.sameAsInt_congr hw h _

/-! ## Entries -/

namespace Entries

variable {es : Entries} {label : Value}

theorem withoutSecret_cons_of_secret {e : Value × Value} (h : e.1.isSecretLabel = true)
    (es : Entries) : withoutSecret (e :: es) = withoutSecret es :=
  List.filter_cons_of_neg (by simp [h])

theorem withoutSecret_cons_of_not_secret {e : Value × Value} (h : e.1.isSecretLabel = false)
    (es : Entries) : withoutSecret (e :: es) = e :: withoutSecret es :=
  List.filter_cons_of_pos (by simp [h])

theorem withoutSecret_insert_of_secret (hes : ∀ e ∈ es, IsScalar e.1) (hl : IsScalar label)
    (h : label.isSecretLabel = true) (content : Value) :
    (es.insert label content).withoutSecret = es.withoutSecret := by
  induction es with
  | nil => exact withoutSecret_cons_of_secret h []
  | cons e rest ih =>
      have hrest := ih fun e he => hes e (by simp [he])
      rw [insert]
      split
      · -- an entry whose label agrees is part of the secret itself
        rename_i hagrees
        have hsecret : e.1.isSecretLabel = true :=
          (hl.isSecretLabel_congr (hes e (by simp)) hagrees).symm.trans h
        rw [withoutSecret_cons_of_secret hsecret]
        exact withoutSecret_cons_of_secret (e := (e.1, content)) hsecret rest
      · by_cases he : e.1.isSecretLabel = true
        · rw [withoutSecret_cons_of_secret he, withoutSecret_cons_of_secret he, hrest]
        · have he : e.1.isSecretLabel = false := by simpa using he
          rw [withoutSecret_cons_of_not_secret he, withoutSecret_cons_of_not_secret he, hrest]

/-- What is inserted under another label, which is new there, goes to the end. -/
theorem withoutSecret_insert_of_not_secret (hes : ∀ e ∈ es, IsScalar e.1) (hl : IsScalar label)
    (h : label.isSecretLabel = false) (hnew : es.withoutSecret.find? label = none)
    (content : Value) :
    (es.insert label content).withoutSecret = es.withoutSecret ++ [(label, content)] := by
  induction es with
  | nil => exact withoutSecret_cons_of_not_secret h []
  | cons e rest ih =>
      have hrest := ih fun e he => hes e (by simp [he])
      by_cases he : e.1.isSecretLabel = true
      · -- the label is none of the secret part, and so does not agree with one
        have hdiffers : ¬ label.agrees e.1 = true := by
          intro hagrees
          rw [hl.isSecretLabel_congr (hes e (by simp)) hagrees, he] at h
          cases h
        rw [withoutSecret_cons_of_secret he] at hnew ⊢
        rw [insert, if_neg hdiffers, withoutSecret_cons_of_secret he, hrest hnew]
      · have he : e.1.isSecretLabel = false := by simpa using he
        rw [withoutSecret_cons_of_not_secret he, find?_cons] at hnew
        have hdiffers : ¬ label.agrees e.1 = true := by
          intro hagrees
          rw [if_pos hagrees] at hnew
          cases hnew
        rw [if_neg hdiffers] at hnew
        rw [insert, if_neg hdiffers, withoutSecret_cons_of_not_secret he,
          withoutSecret_cons_of_not_secret he, hrest hnew]
        rfl

/-- **Making a map and leaving the secret part out** can change places, if no other label is
repeated. -/
theorem withoutSecret_ofList (hes : ∀ e ∈ es, IsScalar e.1) (hd : es.withoutSecret.Distinct) :
    (ofList es).withoutSecret = es.withoutSecret := by
  -- what was inserted but for the secret part, and what is still to come of the rest
  have hfold : ∀ (es acc : Entries), (∀ e ∈ acc, IsScalar e.1) → (∀ e ∈ es, IsScalar e.1) →
      Distinct (acc.withoutSecret ++ es.withoutSecret) →
      (es.foldl (fun es p => insert es p.1 p.2) acc).withoutSecret
        = acc.withoutSecret ++ es.withoutSecret := by
    intro es
    induction es with
    | nil =>
        intro acc _ _ _
        exact (List.append_nil _).symm
    | cons e rest ih =>
        intro acc hacc hes hd
        have hlabel : IsScalar e.1 := hes e (by simp)
        have hinserted : ∀ x ∈ acc.insert e.1 e.2, IsScalar x.1 := fun x hx =>
          (insert_forall (Q := fun _ => True) (fun y hy => ⟨hacc y hy, trivial⟩) hlabel trivial
            x hx).1
        rw [List.foldl_cons]
        by_cases he : e.1.isSecretLabel = true
        · have hstep := withoutSecret_insert_of_secret hacc hlabel he e.2
          rw [withoutSecret_cons_of_secret he] at hd ⊢
          rw [ih _ hinserted (fun x hx => hes x (by simp [hx])) (by rwa [hstep]), hstep]
        · have he : e.1.isSecretLabel = false := by simpa using he
          rw [withoutSecret_cons_of_not_secret he] at hd ⊢
          have hnew : acc.withoutSecret.find? e.1 = none := by
            rw [find?_eq_none_iff]
            rw [Distinct, labels, List.map_append, List.pairwise_append] at hd
            exact fun k hk => hd.2.2 k hk e.1 (by simp)
          have hstep := withoutSecret_insert_of_not_secret hacc hlabel he hnew e.2
          rw [ih _ hinserted (fun x hx => hes x (by simp [hx])) (by rw [hstep]; simpa using hd),
            hstep]
          simp
  simpa [ofList, withoutSecret] using hfold es [] (by simp) hes (by simpa [withoutSecret] using hd)

theorem distinct_map_plainNumber (h : es.Distinct) :
    Distinct (es.map fun e => (e.1.plainNumber, e.2.plainNumber)) :=
  h.of_labels (by simp [labels])

theorem withoutSecret_map_plainNumber (es : Entries) :
    withoutSecret (es.map fun e => (e.1.plainNumber, e.2.plainNumber))
      = es.withoutSecret.map fun e => (e.1.plainNumber, e.2.plainNumber) := by
  unfold withoutSecret
  rw [List.filter_map]
  refine congrArg _ (List.filter_congr fun e _ => ?_)
  exact congrArg _ (Value.isSecretLabel_plainNumber e.1)

/-- The secret part is what stands under a label that is the same as its number. -/
theorem withoutSecret_eq_filter (es : Entries) :
    es.withoutSecret = es.filter fun e => !e.1.same (.int KeyLabel.d.number) :=
  List.filter_congr fun e _ => by rw [Value.same_secretLabel]

/-- **Entries with scalar labels and no secret part among them.** What stands under them is free. -/
def IsPublic (es : Entries) : Prop := ∀ e ∈ es, IsScalar e.1 ∧ e.1.isSecretLabel = false

theorem isPublic_withoutSecret (h : ∀ e ∈ es, IsScalar e.1) : es.withoutSecret.IsPublic := by
  intro e he
  obtain ⟨hmem, hpublic⟩ := List.mem_filter.1 he
  exact ⟨h e hmem, by simpa using hpublic⟩

namespace IsPublic

theorem hasSecret (h : es.IsPublic) : es.hasSecret = false := by
  simpa [Entries.hasSecret] using fun label content hmem => (h (label, content) hmem).2

theorem ofList (h : es.IsPublic) : (Entries.ofList es).IsPublic := fun e he =>
  (ofList_forall (P := fun v => IsScalar v ∧ v.isSecretLabel = false) (Q := fun _ => True)
    (fun x hx => ⟨h x hx, trivial⟩) e he).1

theorem of_labels (h : es.IsPublic) {fs : Entries}
    (hfs : fs.labels = es.labels.map fun label => Cbor.asRead label true) : fs.IsPublic := by
  intro e he
  have hlabel : e.1 ∈ es.labels.map fun label => Cbor.asRead label true :=
    hfs ▸ List.mem_map_of_mem he
  obtain ⟨label, hmem, hread⟩ := List.mem_map.1 hlabel
  obtain ⟨x, hx, rfl⟩ := List.mem_map.1 hmem
  obtain ⟨hscalar, hpublic⟩ := h x hx
  rw [← hread]
  exact ⟨hscalar.asRead true, (hscalar.sameAsInt_asRead _ true).trans hpublic⟩

end IsPublic

end Entries

/-! ## Keys -/

namespace CoseKey

variable {es : Entries} {k : CoseKey}

/-- **What is published of a key** are the entries it is made of but for the secret part, in their
order, with plain numbers for named ones. -/
theorem publicKey_new (hes : ∀ e ∈ es, IsScalar e.1) (hd : es.withoutSecret.Distinct) :
    (new es).publicKey
      = ⟨es.withoutSecret.map fun e => (e.1.plainNumber, e.2.plainNumber)⟩ := by
  have hscalar : ∀ e ∈ es.map fun e => (e.1.plainNumber, e.2.plainNumber), IsScalar e.1 := by
    intro e he
    obtain ⟨x, hx, rfl⟩ := List.mem_map.1 he
    exact (hes x hx).plainNumber
  have hdistinct := Entries.distinct_map_plainNumber hd
  rw [← Entries.withoutSecret_map_plainNumber] at hdistinct
  rw [publicKey, new, Entries.withoutSecret_ofList hscalar hdistinct,
    Entries.withoutSecret_map_plainNumber]

theorem isScalar_new (h : ∀ e ∈ es, IsScalar e.1) : ∀ e ∈ (new es).parameters, IsScalar e.1 := by
  intro e he
  refine (Entries.ofList_forall (P := IsScalar) (Q := fun _ => True) (fun x hx => ?_) e he).1
  obtain ⟨y, hy, rfl⟩ := List.mem_map.1 hx
  exact ⟨(h y hy).plainNumber, trivial⟩

theorem isPublic_new (h : es.IsPublic) : (new es).parameters.IsPublic := by
  refine Entries.IsPublic.ofList fun e he => ?_
  obtain ⟨x, hx, rfl⟩ := List.mem_map.1 he
  obtain ⟨hscalar, hpublic⟩ := h x hx
  exact ⟨hscalar.plainNumber, (Value.isSecretLabel_plainNumber x.1).trans hpublic⟩

/-! ## Keys on the wire -/

/-- **What is read of public entries has no secret part.** -/
theorem hasPrivate_of_readAs (h : es.IsPublic) {depth : Nat} {frozen : Bool} {v : Value}
    {flavour : MapFlavour} (hv : Cbor.ReadAs depth frozen (.map flavour es) v)
    (hk : decode v = .ok k) : k.hasPrivate = false := by
  obtain ⟨fs, rfl, hfs⟩ := hv.exists_labels fun e he => (h e he).1
  cases hk
  -- the reader makes a map of what it reads, and the key is made of this map
  exact (isPublic_new (h.of_labels hfs).ofList).hasSecret

/-- **Decoding the encoding of public entries gives a key without a secret part**, if any. -/
theorem hasPrivate_of_decode (h : es.IsPublic) {b : Bytes} {flavour : MapFlavour}
    (hb : Cbor.encode? (.map flavour es) = some b) (hlength : b.length < 2 ^ 64)
    (hk : decode (.bytes b) = .ok k) : k.hasPrivate = false := by
  obtain ⟨v, hv, hkey⟩ := bind_eq_ok.1 hk
  have hread := Cbor.readAs_of_decode? hb hlength ((WireItem.key.decode_eq_ok_iff).1 hv)
  obtain ⟨fs, rfl, -⟩ := hread.exists_labels fun e he => (h e he).1
  exact hasPrivate_of_readAs h hread hkey

end CoseKey

end DeviceTrust

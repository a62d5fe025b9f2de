import DeviceTrust.Proofs.Cose.Published
import DeviceTrust.Proofs.Cose.Verification

/-!
# Keys that differ in their secret part only

Two keys whose parameters are the same but for what stands under the label of the secret part
(`CoseKey.AlikeButSecret`). What is published of them is the same (`publicKey_eq`), so is the text
that a message shows (`literal_eq`), and under every other registered label the same is found
(`get_eq`). So every reader of keys, and verification under a key, makes the same of both.
-/

set_option autoImplicit false

namespace DeviceTrust

/-- **Only one registered label stands for the secret part.** -/
theorem Value.eq_d_of_isSecretLabel {v : Value} {label : KeyLabel}
    (h : v.sameAsInt label.number = true) (hsecret : v.isSecretLabel = true) : label = .d := by
  have hnumber : label.number = KeyLabel.d.number → label = .d := KeyLabel.number_injective
  unfold isSecretLabel at hsecret
  cases v with
  | float x => exact hnumber (Binary64.equalsInt_injective h hsecret)
  | simple code => exact hnumber ((beq_iff_eq.1 h).trans (beq_iff_eq.1 hsecret).symm)
  | object o =>
      -- the exact forms of the few registered numbers differ
      have hexact : Exact.ofInt label.number = Exact.ofInt KeyLabel.d.number :=
        Option.some.inj ((beq_iff_eq.1 h).symm.trans (beq_iff_eq.1 hsecret))
      revert hexact
      cases label <;> decide
  | _ => exact hnumber (Option.some.inj ((beq_iff_eq.1 h).symm.trans (beq_iff_eq.1 hsecret)))

/-! ## Texts -/

namespace Value

theorem literal_coseKey (es : Entries) :
    literal (.coseKey es) = "CoseKey(" ++ braced (parameterLiterals es) ++ ")" := rfl

theorem parameterLiterals_cons (e : Value × Value) (es : Entries) :
    parameterLiterals (e :: es) = labelled e.1.literal
      (if e.1.isSecretLabel then redacted
      else match e.2 with
        | bytes b => Text.quoted (Bytes.hex b)
        | v => v.literal) :: parameterLiterals es := by
  obtain ⟨label, content⟩ := e
  cases content <;> rfl

end Value

/-! ## Entries -/

namespace Entries

/-- **Entries that are alike but for the secret part**: the same labels in the same order, and under
each but that of the secret part the same content. -/
def AlikeButSecret (es fs : Entries) : Prop :=
  List.Forall₂ (fun e f => e.1 = f.1 ∧ (e.1.isSecretLabel = false → e.2 = f.2)) es fs

namespace AlikeButSecret

variable {es fs : Entries}

theorem refl (es : Entries) : es.AlikeButSecret es :=
  List.forall₂_same.2 fun _ _ => ⟨rfl, fun _ => rfl⟩

theorem labels_eq (h : es.AlikeButSecret fs) : es.labels = fs.labels := by
  induction h with
  | nil => rfl
  | cons h _ ih => exact congrArg₂ List.cons h.1 ih

theorem distinct (h : es.AlikeButSecret fs) (hd : es.Distinct) : fs.Distinct := by
  unfold Distinct
  rw [← h.labels_eq]
  exact hd

theorem withoutSecret_eq (h : es.AlikeButSecret fs) : es.withoutSecret = fs.withoutSecret := by
  induction h with
  | nil => rfl
  | @cons e f es fs hef _ ih =>
      obtain ⟨hlabel, hcontent⟩ := hef
      by_cases hsecret : e.1.isSecretLabel = true
      · rw [withoutSecret_cons_of_secret hsecret, withoutSecret_cons_of_secret (hlabel ▸ hsecret), ih]
      · have hpublic : e.1.isSecretLabel = false := by simpa using hsecret
        have heq : e = f := Prod.ext hlabel (hcontent hpublic)
        rw [← heq, withoutSecret_cons_of_not_secret hpublic, withoutSecret_cons_of_not_secret hpublic,
          ih]

theorem find?_eq (h : es.AlikeButSecret fs) {label : KeyLabel} (hl : label ≠ .d) :
    es.find? (.int label.number) = fs.find? (.int label.number) := by
  induction h with
  | nil => rfl
  | @cons e f es fs hef _ ih =>
      obtain ⟨hlabel, hcontent⟩ := hef
      rw [find?_cons, find?_cons, ← hlabel, ih]
      by_cases hagrees : (Value.int label.number).agrees e.1 = true
      · -- the entry that is found has no secret label, because this one is another number
        have hpublic : e.1.isSecretLabel = false := by
          rw [← Bool.not_eq_true]
          intro hsecret
          rw [Value.int_agrees] at hagrees
          exact hl (Value.eq_d_of_isSecretLabel hagrees hsecret)
        rw [if_pos hagrees, if_pos hagrees, hcontent hpublic]
      · rw [if_neg hagrees, if_neg hagrees]

theorem parameterLiterals_eq (h : es.AlikeButSecret fs) :
    Value.parameterLiterals es = Value.parameterLiterals fs := by
  induction h with
  | nil => rfl
  | @cons e f es fs hef _ ih =>
      obtain ⟨hlabel, hcontent⟩ := hef
      rw [Value.parameterLiterals_cons, Value.parameterLiterals_cons, ← hlabel, ih]
      by_cases hsecret : e.1.isSecretLabel = true
      · rw [if_pos hsecret, if_pos hsecret]
      · rw [hcontent (by simpa using hsecret)]

theorem map_plainNumber (h : es.AlikeButSecret fs) :
    AlikeButSecret (es.map fun e => (e.1.plainNumber, e.2.plainNumber))
      (fs.map fun e => (e.1.plainNumber, e.2.plainNumber)) := by
  induction h with
  | nil => exact .nil
  | cons hef _ ih =>
      obtain ⟨hlabel, hcontent⟩ := hef
      refine .cons ⟨congrArg Value.plainNumber hlabel, fun hpublic => ?_⟩ ih
      rw [Value.isSecretLabel_plainNumber] at hpublic
      exact congrArg Value.plainNumber (hcontent hpublic)

theorem insert (h : es.AlikeButSecret fs) (label content : Value) :
    AlikeButSecret (Entries.insert es label content) (Entries.insert fs label content) := by
  induction h with
  | nil => exact .refl [(label, content)]
  | @cons e f es fs hef hrest ih =>
      obtain ⟨hlabel, hcontent⟩ := hef
      rw [Entries.insert, Entries.insert, ← hlabel]
      split
      · exact .cons ⟨rfl, fun _ => rfl⟩ hrest
      · exact .cons ⟨rfl, hcontent⟩ ih

end AlikeButSecret

end Entries

/-! ## Keys -/

namespace CoseKey

/-- **Keys that are alike but for the secret part.** -/
structure AlikeButSecret (k k' : CoseKey) : Prop where
  distinct : k.parameters.Distinct
  parameters : k.parameters.AlikeButSecret k'.parameters

theorem alikeButSecret_new {es fs : Entries} (hd : es.Distinct) (h : es.AlikeButSecret fs) :
    (new es).AlikeButSecret (new fs) := by
  have hdistinct := Entries.distinct_map_plainNumber hd
  refine ⟨Entries.distinct_ofList _, ?_⟩
  show (Entries.ofList _).AlikeButSecret (Entries.ofList _)
  -- no label is repeated, so both keys are made of the entries as they are
  rw [Entries.ofList_eq_self hdistinct,
    Entries.ofList_eq_self (h.map_plainNumber.distinct hdistinct)]
  exact h.map_plainNumber

namespace AlikeButSecret

variable {k k' : CoseKey}

theorem publicKey_eq (h : k.AlikeButSecret k') : k.publicKey = k'.publicKey :=
  congrArg CoseKey.mk h.parameters.withoutSecret_eq

theorem literal_eq (h : k.AlikeButSecret k') : k.toValue.literal = k'.toValue.literal := by
  rw [toValue, toValue, Value.literal_coseKey, Value.literal_coseKey,
    h.parameters.parameterLiterals_eq]

theorem find?_eq (h : k.AlikeButSecret k') {label : KeyLabel} (hl : label ≠ .d) :
    k.find? (.int label.number) = k'.find? (.int label.number) :=
  h.parameters.find?_eq hl

theorem get_eq (h : k.AlikeButSecret k') {label : KeyLabel} (hl : label ≠ .d) :
    k.get label = k'.get label := by
  rw [get, get, h.find?_eq hl]

theorem withDefaultAlgorithm (h : k.AlikeButSecret k') (s : Suite) :
    (s.withDefaultAlgorithm k).AlikeButSecret (s.withDefaultAlgorithm k') := by
  have halg := h.find?_eq (show KeyLabel.alg ≠ .d by decide)
  unfold Suite.withDefaultAlgorithm
  rw [← halg]
  split
  · exact h
  · exact alikeButSecret_new (Entries.distinct_insert h.distinct _ _) (h.parameters.insert _ _)

/-- **The strict readers** make the same of both. -/
theorem toRawKey_eq (h : k.AlikeButSecret k') (p : Platform) (c : RawCurve) :
    k.toRawKey p c = k'.toRawKey p c :=
  toRawKey_congr (fun _ hl => congrArg Value.seen (h.get_eq hl)) c

theorem toPoint_eq (h : k.AlikeButSecret k') (p : Platform) : k.toPoint p = k'.toPoint p :=
  toPoint_congr fun _ hl => congrArg Value.seen (h.get_eq hl)

/-- **Verification** makes the same of both. -/
theorem verify_eq (h : k.AlikeButSecret k') (p : Platform) (pr : Provider) (m : SignedMessage) :
    pr.verify p m k.toValue = pr.verify p m k'.toValue :=
  Provider.verify_congr_key fun s => Suite.publicKeyOf_congr fun _ hl =>
    congrArg Value.seen ((h.withDefaultAlgorithm s).get_eq hl)

end AlikeButSecret

end CoseKey

end DeviceTrust

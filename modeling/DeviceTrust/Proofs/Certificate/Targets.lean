import DeviceTrust.Proofs.Cbor.Unwritable
import DeviceTrust.Proofs.Certificate.Issued

/-!
# What becomes of a target

A value that is handed over to be certified has a public structured form or it has none
(`Value.PublicForm`). What has none is refused as a key that cannot be certified, for its curve or for
its type (`Value.FormFault`). The form of a public key can always be encoded; that of a map or a
structured key holds what the caller put there, and with a part in it, at whatever depth, that CBOR has
no item for, the fault of the encoder is passed on as it is: neither a wrong value nor a wrong type,
and no signing failure. There is no fourth outcome (`signPublicKey_of_target`).
-/

set_option autoImplicit false

namespace DeviceTrust

/-! ## Public structured forms -/

/-- **The public structured form of a value**, on a platform that lacks nothing: the parameters of a
public key, or what a map or a structured key holds but for the secret part. -/
inductive Value.PublicForm : Value → CoseKey → Prop
  | publicKey {key : PublicKey} {es : Entries} (h : key.parameters? = some es) :
      PublicForm (.publicKey key) ⟨es⟩
  | map (flavour : MapFlavour) (es : Entries) :
      PublicForm (.map flavour es) (CoseKey.new es).publicKey
  | key (k : CoseKey) : PublicForm k.toValue k.publicKey

/-- **Why a value has no public structured form**: it is a public key on the larger curve, or neither a
public key nor a structured key or map. -/
inductive Value.FormFault : Value → Fault → Prop
  | otherCurve (x y : Nat) : FormFault (.publicKey (.p384 x y)) (.otherCurve p384.name)
  | notPublicKey {v : Value} (hkey : ∀ key, v ≠ .publicKey key) (hmap : v.entries? = none) :
      FormFault v (.notPublicKey v.typeName)

namespace CoseKey

variable {p : Platform} {v : Value} {k : CoseKey} {f : Fault}

theorem ofValue_of_publicForm (hp : p.missing = []) (h : v.PublicForm k) : ofValue p v = .ok k := by
  cases h with
  | publicKey h => exact ofPublicKey_of_parameters? hp h
  | map _ _ | key _ => rfl

theorem ofValue_eq_ok_iff_publicForm (hp : p.missing = []) :
    ofValue p v = .ok k ↔ v.PublicForm k := by
  constructor
  · intro h
    cases v with
    | publicKey key => exact .publicKey (parameters?_of_ofPublicKey h)
    | map flavour es =>
        cases h
        exact .map flavour es
    | coseKey es =>
        cases h
        exact .key ⟨es⟩
    | _ => cases h
  · exact ofValue_of_publicForm hp

theorem ofValue_of_formFault (h : v.FormFault f) : ofValue p v = .error (.fault f) := by
  cases h with
  | otherCurve _ _ => rfl
  | notPublicKey hkey hmap =>
      cases v with
      | publicKey key => exact absurd rfl (hkey key)
      | map _ _ | coseKey _ => cases hmap
      | _ => rfl

end CoseKey

namespace Value

variable {v : Value} {f : Fault}

/-- **Every value has a public structured form or a reason to have none.** -/
theorem publicForm_or_formFault (v : Value) : (∃ k, v.PublicForm k) ∨ ∃ f, v.FormFault f := by
  cases v with
  | publicKey key =>
      cases key with
      | p384 x y => exact .inr ⟨_, .otherCurve x y⟩
      | x25519 _ | ed25519 _ | p256 _ _ => exact .inl ⟨_, .publicKey rfl⟩
  | map flavour es => exact .inl ⟨_, .map flavour es⟩
  | coseKey es => exact .inl ⟨_, .key ⟨es⟩⟩
  | _ => exact .inr ⟨_, .notPublicKey (fun _ h => by cases h) rfl⟩

/-- **It never has both.** -/
theorem not_publicForm_of_formFault (h : v.FormFault f) : ¬ ∃ k, v.PublicForm k := by
  rintro ⟨k, hk⟩
  have hread := CoseKey.ofValue_of_publicForm (p := {}) rfl hk
  rw [CoseKey.ofValue_of_formFault h] at hread
  cases hread

end Value

namespace Certificate

variable {p : Platform} {pr : Provider} {key target : Value} {k : CoseKey} {f : Fault} {e : Error}
  {b : Bytes}

/-! ## The content -/

/-- **The report on a key that cannot be certified.** -/
def refusal : Report := .bare "Cannot encode key to be certified" .signingFailure

theorem content_of_formFault (h : target.FormFault f) :
    content p target = .error (.uncertifiable (.fault f)) := by
  unfold content
  rw [CoseKey.ofValue_of_formFault h]
  cases h with
  | otherCurve _ _ | notPublicKey _ _ => rfl

/-- A form that cannot be encoded is not refused: the fault of the encoder is passed on. -/
theorem content_of_holdUnwritable (hk : CoseKey.ofValue p target = .ok k)
    (h : k.parameters.HoldUnwritable) : content p target = .error (.fault (.plain .unencodable)) := by
  have hencode : (do (← CoseKey.ofValue p target).encode : Except Error Bytes)
      = .error (.fault (.plain .unencodable)) := by
    rw [hk]
    exact CoseKey.encode_eq_error_iff.2 ⟨h, rfl⟩
  unfold content
  rw [hencode]
  rfl

/-- **A target has a content if its public structured form has an encoding.** -/
theorem content_eq_ok_iff (hp : p.missing = []) :
    content p target = .ok b ↔ ∃ k, target.PublicForm k ∧ k.encode = .ok b := by
  constructor
  · intro h
    obtain ⟨k, hk, hb⟩ := exists_of_content_eq_ok h
    exact ⟨k, (CoseKey.ofValue_eq_ok_iff_publicForm hp).1 hk, hb⟩
  · rintro ⟨k, hk, hb⟩
    exact content_eq_ok (CoseKey.ofValue_of_publicForm hp hk) hb

/-- **Without a content** it is refused for want of a form, or its form cannot be encoded. -/
theorem content_eq_error_iff (hp : p.missing = []) : content p target = .error e ↔
    (∃ f, target.FormFault f ∧ e = .uncertifiable (.fault f)) ∨
      (∃ k, target.PublicForm k ∧ k.parameters.HoldUnwritable) ∧
        e = .fault (.plain .unencodable) := by
  constructor
  · intro h
    rcases Value.publicForm_or_formFault target with ⟨k, hk⟩ | ⟨f, hf⟩
    · have hread := CoseKey.ofValue_of_publicForm hp hk
      cases hb : k.encode with
      | ok b => cases h.symm.trans (content_eq_ok hread hb)
      | error _ =>
          obtain ⟨hhold, -⟩ := CoseKey.encode_eq_error_iff.1 hb
          cases h.symm.trans (content_of_holdUnwritable hread hhold)
          exact .inr ⟨⟨k, hk, hhold⟩, rfl⟩
    · cases h.symm.trans (content_of_formFault hf)
      exact .inl ⟨f, hf, rfl⟩
  · rintro (⟨f, hf, rfl⟩ | ⟨⟨k, hk, hhold⟩, rfl⟩)
    · exact content_of_formFault hf
    · exact content_of_holdUnwritable (CoseKey.ofValue_of_publicForm hp hk) hhold

/-- **With a key that can sign, the content decides the outcome**: it is signed, or its error is that
of the signing. -/
theorem result_signPublicKey {s : Suite} (hs : s ∈ pr.suites) {sk : PrivateKey}
    (hsk : s.SignsWith sk) (mark : Mark) :
    (signPublicKey p pr (.privateKey sk mark) target).result
      = (content p target).map (s.issue sk p.nonce) := by
  cases h : content p target with
  | ok b => exact signPublicKey_eq hs hsk mark h
  | error e =>
      unfold signPublicKey
      rw [Traced.result_bind, Traced.result_lift, h]
      rfl

/-! ## The three outcomes -/

/-- **What becomes of a target.** With a key that can sign and a platform that lacks nothing, a target
whose public structured form has an encoding is certified, and the certificate is the message that the
suite makes of this encoding. A target without such a form, and no other, is refused: the report is
that of a key that cannot be certified. And if the form holds, at whatever depth, a label or value that
CBOR has no item for, the fault of the encoder is passed on as it is, and nothing else ever is. -/
theorem signPublicKey_of_target (p : Platform) (hp : p.missing = []) {pr : Provider} {s : Suite}
    (hs : s ∈ pr.suites) {sk : PrivateKey} (hsk : s.SignsWith sk) (mark : Mark) (target : Value) :
    let outcome := (signPublicKey p pr (.privateKey sk mark) target).result
    (∀ m, outcome = .ok m ↔
      ∃ k b, target.PublicForm k ∧ k.encode = .ok b ∧ m = s.issue sk p.nonce b) ∧
    ((∃ e, outcome = .error e ∧ e.report? = some refusal) ↔ ¬ ∃ k, target.PublicForm k) ∧
    ∀ e, (outcome = .error e ∧ e.report? ≠ some refusal) ↔
      e = .fault (.plain .unencodable) ∧ ∃ k, target.PublicForm k ∧ k.parameters.HoldUnwritable := by
  intro outcome
  -- the outcome is that of the content, with the message made of it
  have hsigned : ∀ m, outcome = .ok m ↔
      ∃ b, content p target = .ok b ∧ s.issue sk p.nonce b = m := by
    intro m
    show (signPublicKey p pr (.privateKey sk mark) target).result = .ok m ↔ _
    rw [result_signPublicKey hs hsk]
    cases content p target <;> simp [Except.map]
  have hfailed : ∀ e, outcome = .error e ↔ content p target = .error e := by
    intro e
    show (signPublicKey p pr (.privateKey sk mark) target).result = .error e ↔ _
    rw [result_signPublicKey hs hsk]
    cases content p target <;> simp [Except.map]
  refine ⟨fun m => ?_, ?_, fun e => ?_⟩
  · rw [hsigned]
    constructor
    · rintro ⟨b, hb, rfl⟩
      obtain ⟨k, hk, hencode⟩ := (content_eq_ok_iff hp).1 hb
      exact ⟨k, b, hk, hencode, rfl⟩
    · rintro ⟨k, b, hk, hencode, rfl⟩
      exact ⟨b, (content_eq_ok_iff hp).2 ⟨k, hk, hencode⟩, rfl⟩
  · constructor
    · rintro ⟨e, he, hreport⟩
      rcases (content_eq_error_iff hp).1 ((hfailed e).1 he) with ⟨f, hf, -⟩ | ⟨-, rfl⟩
      · exact Value.not_publicForm_of_formFault hf
      · -- the fault of the encoder has no report
        cases hreport
    · intro hnone
      obtain ⟨f, hf⟩ := (Value.publicForm_or_formFault target).resolve_left hnone
      exact ⟨_, (hfailed _).2 (content_of_formFault hf), rfl⟩
  · rw [hfailed, content_eq_error_iff hp]
    constructor
    · rintro ⟨⟨f, -, rfl⟩ | ⟨hhold, rfl⟩, hreport⟩
      · exact absurd rfl hreport
      · exact ⟨rfl, hhold⟩
    · rintro ⟨rfl, hhold⟩
      exact ⟨.inr ⟨hhold, rfl⟩, fun h => by cases h⟩

/-- A key on the larger curve is refused; an object of an unknown type, in an array in a map, is not. -/
theorem signPublicKey_of_target_unknown :
    let sk : PrivateKey := .ed25519 ⟨Bytes.zeros 32, rfl⟩
    let outcome := fun target => (signPublicKey {} .standard (.privateKey sk 0) target).result
    (∃ e, outcome (.publicKey (.p384 0 0)) = .error e ∧ e.report? = some refusal) ∧
      outcome (.map .plain [(.int 1, .list [.unknown 0])])
        = .error (.fault (.plain .unencodable)) := by
  intro sk outcome
  have hs : Suite.eddsa ∈ Provider.standard.suites := by decide
  have hoverview := signPublicKey_of_target {} rfl hs (.eddsa ⟨Bytes.zeros 32, rfl⟩) 0
  have hlarger : ¬ ∃ k, Value.PublicForm (.publicKey (.p384 0 0)) k :=
    Value.not_publicForm_of_formFault (.otherCurve 0 0)
  -- the unknown object is a part of the content under the label 1
  have hpart : Value.HasPart (.list [.unknown 0]) (.unknown 0) :=
    .nested (List.mem_singleton_self _) (.self _)
  have hform : (CoseKey.new [(.int 1, .list [.unknown 0])]).publicKey
      = ⟨[(.int 1, .list [.unknown 0])]⟩ := rfl
  have hhold : (CoseKey.new [(.int 1, .list [.unknown 0])]).publicKey.parameters.HoldUnwritable := by
    rw [hform]
    exact ⟨_, List.mem_singleton_self _, _, .inr hpart, .unknown 0⟩
  refine ⟨(hoverview (.publicKey (.p384 0 0))).2.1.2 hlarger, ?_⟩
  exact (((hoverview _).2.2 _).2 ⟨rfl, _, .map .plain _, hhold⟩).1

/-- **A target that cannot be encoded can give an error that is none of the library's own**: the fault
of the encoder, for a map with an object of an unknown type. -/
theorem signPublicKey_passes_unencodable :
    let target : Value := .map .plain [(.int 1, .unknown 0)]
    (¬ ∃ b, content {} target = .ok b) ∧
      ∃ e, (signPublicKey {} .standard
        (.privateKey (.ed25519 ⟨Bytes.zeros 32, rfl⟩) 0) target).result = .error e ∧
        e.isReported = false := by
  intro target
  refine ⟨?_, .fault (.plain .unencodable), rfl, rfl⟩
  rintro ⟨b, ⟨⟩⟩

end Certificate

end DeviceTrust

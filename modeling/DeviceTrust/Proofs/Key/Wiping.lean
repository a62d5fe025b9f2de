import DeviceTrust.Proofs.Key.Agreement

/-!
# What is left of a secret

A secret that two keys share stands in a buffer only while a key is derived from it. Every way out
of the derivation leads over the wiping: with a key, for want of the hash, with a length out of
range, and with a key that is lost because its record cannot be written (`Ending`). Whichever way it
is, the buffer is left as zeros, and the key was derived from the secret that stood there before
(`secret_wiped_on_exit`).
-/

set_option autoImplicit false

namespace DeviceTrust.Agreement

theorem length_of_sharedSecret {own peer : Value} {secret : Bytes}
    (h : sharedSecret own peer = .ok secret) : secret.length = 32 := by
  obtain ⟨_, _, _, -, -, rfl, -⟩ := sharedSecret_eq_ok_iff.1 h
  exact X25519.length_shared _ _

/-- **How the derivation of a key for a direction ends**, from the secret and the context. -/
inductive Ending (p : Platform) (n : Int) (secret info : Bytes) : Except Error Bytes → Prop where
  /-- The length is out of range, which is noticed first. -/
  | outside (hn : ¬ (1 ≤ n ∧ n ≤ Parameters.greatestOutputLength)) :
      Ending p n secret info (.error (.fault (.outputLength (toString n))))
  /-- The hash is missing. -/
  | withoutHash (hn : 1 ≤ n ∧ n ≤ Parameters.greatestOutputLength) (hp : .hkdf ∈ p.missing) :
      Ending p n secret info (.error (.missing .hkdf))
  /-- There is a key, but no digest for its record. -/
  | withoutDigest (hn : 1 ≤ n ∧ n ≤ Parameters.greatestOutputLength) (hp : .hkdf ∉ p.missing)
      (hdebug : p.threshold ≤ Level.debug) (hdigest : .sha256 ∈ p.missing) :
      Ending p n secret info (.error (.missing .sha256))
  /-- There is a key. -/
  | derived (hn : 1 ≤ n ∧ n ≤ Parameters.greatestOutputLength) (hp : .hkdf ∉ p.missing)
      (hdigest : p.threshold ≤ Level.debug → .sha256 ∉ p.missing) :
      Ending p n secret info (.ok (Hash.Hkdf.derive secret none info n.toNat))

/-- **A derivation that is logged ends in one of these ways.** -/
theorem ending_of_derived (p : Platform) (d : Direction) (n : Int) (secret info : Bytes)
    (peer : PublicKey) :
    Ending p n secret info (do
      let key ← p.derive secret n info none
      logDerived p d n peer
      return key : Traced Bytes).result := by
  simp only [Traced.result_bind, Traced.result_lift, result_logDerived]
  by_cases hn : 1 ≤ n ∧ n ≤ Parameters.greatestOutputLength
  · by_cases hp : .hkdf ∈ p.missing
    · rw [Platform.derive_of_missing hn hp]
      exact .withoutHash hn hp
    · rw [Platform.derive_eq_ok_iff.2 ⟨hn, hp, rfl⟩]
      by_cases hdigest : p.threshold ≤ Level.debug → .sha256 ∉ p.missing
      · show Ending p n secret info (requireDigest p >>= fun _ => _)
        rw [requireDigest_eq_ok_iff.2 hdigest]
        exact .derived hn hp hdigest
      · obtain ⟨hdebug, hmissing⟩ := Classical.not_imp.1 hdigest
        have hmissing := Decidable.not_not.1 hmissing
        show Ending p n secret info (requireDigest p >>= fun _ => _)
        rw [requireDigest, if_pos hdebug, Platform.require_of_missing hmissing]
        exact .withoutDigest hn hp hdebug hmissing
  · rw [Platform.derive_of_outside hn]
    exact .outside hn

/-- **No secret outlasts its use.** A buffer of any length is wiped to as many zeros, as such or
through a view of it. A secret that two keys share has thirty-two bytes. Whatever is done with a
workspace that holds it is done, with the same outcome, and what is then in the buffer is left as
zeros; so what is derived from the buffer, with or without success, is derived from the secret itself
and leaves thirty-two zeros where it was. This is how the key for a direction is derived, for every
context, length and workspace. -/
theorem secret_wiped_on_exit :
    (∀ buffer : Bytes, wipe buffer = Bytes.zeros buffer.length ∧
      wipeValue (.buffer buffer) = .ok (.buffer (Bytes.zeros buffer.length)) ∧
      wipeView (.buffer buffer) = .ok (.buffer (Bytes.zeros buffer.length))) ∧
    (∀ (α : Type) (own peer : Value) (use : Working α) (w : Workspace) (secret : Bytes),
      sharedSecret own peer = .ok secret →
      secret.length = 32 ∧ ∃ outcome after, use.run { w with buffer := secret } = (outcome, after) ∧
        (withSecret own peer use).run w
          = (outcome, { after with buffer := Bytes.zeros after.buffer.length })) ∧
    (∀ (own peer : Value) (derive : Bytes → Except Error Bytes) (w : Workspace) (secret : Bytes),
      sharedSecret own peer = .ok secret →
      (withSecret own peer do derive (← Working.held)).run w
        = (derive secret, { w with buffer := Bytes.zeros 32 })) ∧
    ∀ (p : Platform) (d : Direction) (own : KeyPair) (peer : PublicKey) (info : Bytes)
      (length? : Option Int) (w : Workspace) (secret : Bytes),
      sharedSecret (.privateKey own.secret 0) (.publicKey peer) = .ok secret →
      ∃ outcome after, (keyInContext p d own peer info length?).run w = (outcome, after) ∧
        after.buffer = Bytes.zeros 32 ∧
        Ending p (length?.getD Parameters.derivedKeyLength) secret info outcome := by
  refine ⟨fun buffer => ?_, fun α own peer use w secret h => ?_,
    fun own peer derive w secret h => ?_, fun p d own peer info length? w secret h => ?_⟩
  · have hvalue : wipeValue (.buffer buffer) = .ok (.buffer (Bytes.zeros buffer.length)) := by
      rw [← wipe_eq]
      rfl
    exact ⟨wipe_eq buffer, hvalue, hvalue⟩
  · exact ⟨length_of_sharedSecret h, _, _, rfl, run_withSecret h use w⟩
  · rw [run_withSecret_held h, length_of_sharedSecret h]
  · exact ⟨_, _, run_keyInContext h p d info length? w,
      congrArg Bytes.zeros (length_of_sharedSecret h), ending_of_derived p d _ secret info peer⟩

/-- One exchange, three times: there is a key, the length is out of range, and the hash is missing. -/
theorem secret_wiped_on_exit_thrice :
    let a : RawKey := ⟨Bytes.zeros 32, rfl⟩
    let b : RawKey := ⟨List.replicate 32 0xff, rfl⟩
    let run (p : Platform) (length? : Option Int) :=
      (keyInContext p .send (x25519Pair a) (.x25519 b.x25519Public) [1] length?).run ⟨[], []⟩
    let secret := X25519.shared a.bytes b.x25519Public.bytes
    ((run {} none).1 = .ok (Hash.Hkdf.derive secret none [1] 16) ∧
        (run {} none).2.buffer = Bytes.zeros 32) ∧
      ((run {} (some 8161)).1 = .error (.fault (.outputLength "8161")) ∧
        (run {} (some 8161)).2.buffer = Bytes.zeros 32) ∧
      (run { missing := [.hkdf] } none).1 = .error (.missing .hkdf) ∧
        (run { missing := [.hkdf] } none).2.buffer = Bytes.zeros 32 := by
  intro a b run secret
  have hnonzero : secret.all (· == 0) = false := by decide +kernel
  have hsecret : sharedSecret (.privateKey (.x25519 a) 0) (.publicKey (.x25519 b.x25519Public))
      = .ok secret := sharedSecret_eq_ok_iff.2 ⟨_, _, _, rfl, rfl, rfl, hnonzero⟩
  have hexit := fun p length? => secret_wiped_on_exit.2.2.2 p .send (x25519Pair a)
    (.x25519 b.x25519Public) [1] length? ⟨[], []⟩ secret hsecret
  refine ⟨?_, ?_, ?_⟩
  · obtain ⟨outcome, after, hrun, hafter, hending⟩ := hexit {} none
    rw [show run {} none = (outcome, after) from hrun]
    refine ⟨?_, hafter⟩
    cases hending with
    | outside hn => exact absurd (by decide) hn
    | withoutHash _ hp => cases hp
    | withoutDigest _ _ _ hdigest => cases hdigest
    | derived => rfl
  · obtain ⟨outcome, after, hrun, hafter, hending⟩ := hexit {} (some 8161)
    rw [show run {} (some 8161) = (outcome, after) from hrun]
    refine ⟨?_, hafter⟩
    cases hending with
    | outside => rfl
    | withoutHash hn | withoutDigest hn | derived hn => exact absurd hn (by decide)
  · obtain ⟨outcome, after, hrun, hafter, hending⟩ := hexit { missing := [.hkdf] } none
    rw [show run { missing := [.hkdf] } none = (outcome, after) from hrun]
    refine ⟨?_, hafter⟩
    cases hending with
    | outside hn => exact absurd (by decide) hn
    | withoutHash => rfl
    | withoutDigest _ hp | derived _ hp => exact absurd (by decide) hp

end DeviceTrust.Agreement

import DeviceTrust.Key.Agreement
import DeviceTrust.Proofs.Outcome

/-!
# Operations on a workspace

What a sequence of operations leaves in its workspace is what its last step leaves there, and that
is the step which fails, if one does (`Working.run_bind`). A buffer that is wiped in the end is wiped
on every way out (`Working.run_finally_wipeHeld`). So a secret is used as it is and left as zeros
(`run_withSecret`).

To those who do not see the workspace, a key for a direction is derived from the secret at once
(`directionalKey_eq`).
-/

set_option autoImplicit false

namespace DeviceTrust.Agreement

/-! ## Wiping -/

variable {α : Type}

theorem overwrite_step (a : α) (items : List α) {next : Nat} (h : next < items.length) :
    (List.replicate next a ++ items.drop next).set next a
      = List.replicate (next + 1) a ++ items.drop (next + 1) := by
  rw [List.drop_eq_getElem_cons h, List.set_append_right _ _ (by simp), List.length_replicate,
    Nat.sub_self, List.set_cons_zero, List.replicate_succ', List.append_assoc,
    List.singleton_append]

/-- **While a list is overwritten**, the places before the next one hold the new item, and the others
what they held. -/
theorem overwrite_invariant (a : α) (items : List α) {next : Nat} (h : next ≤ items.length) :
    (List.range next).foldl (fun items place => items.set place a) items
      = List.replicate next a ++ items.drop next := by
  induction next with
  | zero => rfl
  | succ next ih =>
      rw [List.range_succ, List.foldl_append, ih (by omega)]
      exact overwrite_step a items h

theorem overwrite_eq (a : α) (items : List α) :
    overwrite a items = List.replicate items.length a := by
  rw [overwrite, overwrite_invariant a items (Nat.le_refl _), List.drop_length, List.append_nil]

/-- **A wiped buffer** has as many zeros as it had bytes. -/
theorem wipe_eq (buffer : Bytes) : wipe buffer = Bytes.zeros buffer.length :=
  overwrite_eq 0 buffer

/-! ## Runs -/

namespace Working

variable {β : Type}

/-- **What a sequence leaves behind.** -/
theorem run_bind (x : Working α) (f : α → Working β) (w : Workspace) :
    (x >>= f).run w = match x.run w with
      | (.ok a, after) => (f a).run after
      | (.error e, after) => (.error e, after) := by
  unfold run ExceptT.run StateT.run
  simp only [bind, ExceptT.bind, ExceptT.mk, StateT.bind]
  rcases x w with ⟨_ | _, after⟩ <;> rfl

theorem run_held (f : Bytes → Except Error α) (w : Workspace) :
    (do f (← held) : Working α).run w = (f w.buffer, w) := rfl

/-- Steps that do not see the buffer are taken as one. -/
theorem lift_bind_pure (x : Traced α) (b : β) :
    (liftM x >>= fun _ => pure b : Working β) = liftM (x >>= fun _ => pure b) := by
  funext w
  rcases x with ⟨records, _ | _⟩
  · rfl
  · show _ = (_, Workspace.mk (w.records ++ (records ++ [])) w.buffer)
    rw [List.append_nil]
    rfl

/-- **What is wiped in the end is wiped on every way out**, and the outcome is as it was. -/
theorem run_finally_wipeHeld (x : Working α) (w : Workspace) :
    (do try x finally wipeHeld : Working α).run w
      = ((x.run w).1, { (x.run w).2 with buffer := wipe (x.run w).2.buffer }) := by
  unfold run ExceptT.run StateT.run tryFinally
  simp only [tryFinally', Functor.map, ExceptT.map, ExceptT.mk, bind, StateT.bind, pure]
  rcases x w with ⟨_ | _, after⟩ <;> rfl

end Working

/-! ## Secrets -/

/-- **When two keys share a secret, and which.** -/
theorem sharedSecret_eq_ok_iff {own peer : Value} {secret : Bytes} :
    sharedSecret own peer = .ok secret ↔
      ∃ k mark u, own = .privateKey (.x25519 k) mark ∧ peer = .publicKey (.x25519 u) ∧
        X25519.shared k.bytes u.bytes = secret ∧ secret.all (· == 0) = false := by
  constructor
  · intro h
    unfold sharedSecret at h
    split at h
    · rename_i k mark u
      dsimp only at h
      split at h
      · cases h
      · rename_i hzero
        cases h
        exact ⟨k, mark, u, rfl, rfl, rfl, Bool.eq_false_iff.2 hzero⟩
    · cases h
    · cases h
  · rintro ⟨k, mark, u, rfl, rfl, rfl, hzero⟩
    unfold sharedSecret
    dsimp only
    rw [hzero]
    rfl

/-- **A secret is used as it is, and what the use leaves of it is left as zeros**, whatever it is used
for. -/
theorem run_withSecret {own peer : Value} {secret : Bytes} (h : sharedSecret own peer = .ok secret)
    (use : Working α) (w : Workspace) :
    (withSecret own peer use).run w =
      let (outcome, after) := use.run { w with buffer := secret }
      (outcome, { after with buffer := Bytes.zeros after.buffer.length }) := by
  unfold withSecret
  rw [h]
  simp only [← wipe_eq]
  exact Working.run_finally_wipeHeld use { w with buffer := secret }

theorem run_withSecret_of_error {own peer : Value} {e : Error}
    (h : sharedSecret own peer = .error e) (use : Working α) (w : Workspace) :
    (withSecret own peer use).run w = (.error e, w) := by
  unfold withSecret
  rw [h]
  rfl

theorem run_withSecret_held {own peer : Value} {secret : Bytes}
    (h : sharedSecret own peer = .ok secret) (f : Bytes → Except Error α) (w : Workspace) :
    (withSecret own peer do f (← Working.held)).run w
      = (f secret, { w with buffer := Bytes.zeros secret.length }) := by
  rw [run_withSecret h, Working.run_held]

theorem traced_withSecret_held (own peer : Value) (f : Bytes → Except Error α) :
    (withSecret own peer do f (← Working.held)).traced = liftM (sharedSecret own peer >>= f) := by
  unfold Working.traced
  cases hsecret : sharedSecret own peer with
  | error e =>
      rw [run_withSecret_of_error hsecret]
      rfl
  | ok secret =>
      rw [run_withSecret_held hsecret]
      rfl

/-- **A key for a direction is derived and logged** once there is a secret, and the buffer is left as
zeros. -/
theorem run_keyInContext {own : KeyPair} {peer : PublicKey} {secret : Bytes}
    (h : sharedSecret (.privateKey own.secret 0) (.publicKey peer) = .ok secret) (p : Platform)
    (d : Direction) (info : Bytes) (length? : Option Int) (w : Workspace) :
    (keyInContext p d own peer info length?).run w =
      let derived : Traced Bytes := do
        let key ← p.derive secret (length?.getD Parameters.derivedKeyLength) info none
        logDerived p d (length?.getD Parameters.derivedKeyLength) peer
        return key
      (derived.result, ⟨w.records ++ derived.records, Bytes.zeros secret.length⟩) := by
  unfold keyInContext
  simp only [Working.lift_bind_pure]
  rw [Working.run_bind, run_withSecret_held h]
  cases p.derive secret (length?.getD Parameters.derivedKeyLength) info none with
  | error e =>
      show _ = (_, Workspace.mk (w.records ++ []) _)
      rw [List.append_nil]
      rfl
  | ok key => rfl

/-- **The steps to a key for a direction**, without the workspace. -/
theorem directionalKey_eq (p : Platform) (d : Direction) (own : KeyPair) (peer : PublicKey)
    (length? : Option Int) : directionalKey p d own peer length? = (do
      let info ← d.context p own.publicKey peer
      let secret ← sharedSecret (.privateKey own.secret 0) (.publicKey peer)
      let key ← p.derive secret (length?.getD Parameters.derivedKeyLength) info none
      logDerived p d (length?.getD Parameters.derivedKeyLength) peer
      return key) := by
  unfold directionalKey
  refine Traced.bind_congr fun info _ => ?_
  unfold Working.traced
  cases hsecret : sharedSecret (.privateKey own.secret 0) (.publicKey peer) with
  | error e =>
      unfold keyInContext
      rw [Working.run_bind, run_withSecret_of_error hsecret]
      rfl
  | ok secret =>
      rw [run_keyInContext hsecret]
      rfl

end DeviceTrust.Agreement

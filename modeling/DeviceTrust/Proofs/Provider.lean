import DeviceTrust.Operation
import DeviceTrust.Proofs.Cose.Signing

/-!
# A provider is the set of its suites

A provider is given as a list of suites, and looks for the one it needs from the front. The order of
the list has no part in what is found, nor has repetition: one suite at most has a given number
(`Suite.eq_of_number_beq`), one at most signs with a given key (`Suite.eq_of_accepts`), and errors list
the numbers in increasing order. So providers with the same suites are the same in every operation
(`Operation.run_on_congr`), and a provider with more suites has every result that one with fewer has
(`Operation.keptBy_run_on`): a suite that is added can only turn errors into results.

In particular it makes no difference whether the suites are kept in the list or in a table by number,
where the last one of a number takes the place of the first (`Operation.run_on_table`); the supported
numbers are those of the table (`Provider.supported_eq_sorted`).
-/

set_option autoImplicit false

namespace DeviceTrust

/-! ## What is found -/

/-- What is found where at most one suite qualifies does not depend on places. -/
theorem Suite.find?_congr {q : Suite → Bool} (hq : ∀ s s', q s = true → q s' = true → s = s')
    {l l' : List Suite} (h : ∀ s, s ∈ l ↔ s ∈ l') : l.find? q = l'.find? q := by
  refine Option.ext fun s => ?_
  rw [find?_eq_some_iff hq, find?_eq_some_iff hq, h s]

namespace Provider

variable {pr pr' : Provider} {p : Platform}

/-! ## Providers with the same suites -/

section Congr

variable (h : ∀ s, s ∈ pr.suites ↔ s ∈ pr'.suites)

include h

theorem supported_congr : pr.supported = pr'.supported := by
  have hcontains : pr.suites.contains = pr'.suites.contains := by
    funext s
    rw [Bool.eq_iff_iff, List.contains_iff_mem, List.contains_iff_mem, h s]
  rw [supported, supported, hcontains]

theorem get_congr (v : Value) : pr.get v = pr'.get v := by
  have hfind : ∀ n : Int, pr.suites.find? (fun s => s.number == n)
      = pr'.suites.find? fun s => s.number == n := fun n =>
    Suite.find?_congr Suite.eq_of_number_beq h
  simp only [get, hfind, supported_congr h]

theorem forPrivateKey_congr (key : Value) : pr.forPrivateKey key = pr'.forPrivateKey key := by
  simp only [forPrivateKey, Suite.find?_congr Suite.eq_of_accepts h, supported_congr h]

theorem sign_congr (payload key : Value) : pr.sign p payload key = pr'.sign p payload key := by
  simp only [sign, forPrivateKey_congr h]

theorem verify_congr_suites (m : SignedMessage) (key : Value) :
    pr.verify p m key = pr'.verify p m key := by
  simp only [verify, get_congr h]

end Congr

/-! ## Providers with more suites -/

section Mono

variable (h : pr.suites ⊆ pr'.suites)

include h

theorem supported_sublist : pr.supported.Sublist pr'.supported := by
  have hfilter : Suite.all.filter pr.suites.contains
      = (Suite.all.filter pr'.suites.contains).filter pr.suites.contains := by
    rw [List.filter_filter]
    refine List.filter_congr fun s _ => ?_
    rw [Bool.eq_iff_iff, Bool.and_eq_true, List.contains_iff_mem, List.contains_iff_mem]
    exact ⟨fun hs => ⟨hs, h hs⟩, fun hs => hs.1⟩
  rw [supported, hfilter]
  exact List.filter_sublist.map Suite.number

theorem get_mono {v : Value} {s : Suite} (hs : pr.get v = .ok s) : pr'.get v = .ok s := by
  rw [get_eq_ok_iff] at hs ⊢
  exact ⟨h hs.1, hs.2⟩

theorem forPrivateKey_mono {key : Value} {s : Suite} (hs : pr.forPrivateKey key = .ok s) :
    pr'.forPrivateKey key = .ok s := by
  rw [forPrivateKey_eq_ok_iff] at hs ⊢
  exact ⟨h hs.1, hs.2⟩

theorem sign_mono {payload key : Value} {m : SignedMessage}
    (hm : pr.sign p payload key = .ok m) : pr'.sign p payload key = .ok m := by
  obtain ⟨s, hs, hm⟩ := bind_eq_ok.1 hm
  exact bind_eq_ok.2 ⟨s, forPrivateKey_mono h hs, hm⟩

theorem keptBy_verify (p : Platform) (m : SignedMessage) (key : Value) :
    (pr.verify p m key).KeptBy (pr'.verify p m key) := by
  unfold verify
  exact .bind (.refl _) fun a _ => .bind (.lift fun s => get_mono h) fun s _ => .refl _

end Mono

end Provider

/-! ## Certificates and chains -/

namespace Certificate

variable {pr pr' : Provider}

theorem signPublicKey_congr_suites (h : ∀ s, s ∈ pr.suites ↔ s ∈ pr'.suites) (p : Platform)
    (signingKey target : Value) :
    signPublicKey p pr signingKey target = signPublicKey p pr' signingKey target := by
  simp only [signPublicKey, Provider.sign_congr h]

theorem verify_congr_suites (h : ∀ s, s ∈ pr.suites ↔ s ∈ pr'.suites) (p : Platform)
    (verifying candidate expected : Value) :
    verify p pr verifying candidate expected = verify p pr' verifying candidate expected := by
  simp only [verify, Provider.verify_congr_suites h]

theorem keptBy_signPublicKey (h : pr.suites ⊆ pr'.suites) (p : Platform)
    (signingKey target : Value) :
    (signPublicKey p pr signingKey target).KeptBy (signPublicKey p pr' signingKey target) := by
  unfold signPublicKey
  exact .bind (.refl _) fun payload _ =>
    .bind (.lift fun m => Provider.sign_mono h) fun m _ => .refl _

theorem keptBy_verify (h : pr.suites ⊆ pr'.suites) (p : Platform)
    (verifying candidate expected : Value) :
    (verify p pr verifying candidate expected).KeptBy
      (verify p pr' verifying candidate expected) := by
  unfold verify
  refine .bind (.refl _) fun m _ => .bind (.refl _) fun root _ => .bind (.refl _) fun k _ => ?_
  exact .bind ((Provider.keptBy_verify h p m k.toValue).mapError reworded) fun valid _ => .refl _

end Certificate

namespace Chain

variable {pr pr' : Provider}

theorem validate_congr_suites (h : ∀ s, s ∈ pr.suites ↔ s ∈ pr'.suites) (p : Platform)
    (chain : Value) : validate p pr chain = validate p pr' chain := by
  simp only [validate, linkHolds, Provider.verify_congr_suites h]

theorem build_congr_suites (h : ∀ s, s ∈ pr.suites ↔ s ∈ pr'.suites) (p : Platform)
    (root device published : Value) :
    build p pr root device published = build p pr' root device published := by
  simp only [build, Certificate.signPublicKey_congr_suites h]

theorem keptBy_linkHolds (h : pr.suites ⊆ pr'.suites) (p : Platform) (root device : Value) :
    (linkHolds p pr root device).KeptBy (linkHolds p pr' root device) := by
  unfold linkHolds
  exact .bind (.refl _) fun k _ => .bind (.refl _) fun m _ => Provider.keptBy_verify h p m k.toValue

theorem keptBy_validate (h : pr.suites ⊆ pr'.suites) (p : Platform) (chain : Value) :
    (validate p pr chain).KeptBy (validate p pr' chain) := by
  unfold validate
  refine .bind (.refl _) fun items _ => ?_
  rcases items with _ | ⟨root, _ | ⟨device, _ | ⟨x, rest⟩⟩⟩
  case cons.cons.nil =>
    exact .bind ((keptBy_linkHolds h p root device).mapError reworded) fun valid _ => .refl _
  -- a chain of another length is refused before a provider is asked
  all_goals exact .refl _

theorem keptBy_build (h : pr.suites ⊆ pr'.suites) (p : Platform) (root device published : Value) :
    (build p pr root device published).KeptBy (build p pr' root device published) := by
  unfold build
  -- whichever key is published, it is read before the certificate is signed
  cases published <;>
    exact .bind (.refl _) fun v _ => .bind (.refl _) fun rootKey _ =>
      .bind (Certificate.keptBy_signPublicKey h p root device) fun m _ => .refl _

end Chain

/-! ## All operations -/

namespace Operation

variable {α : Type}

/-- The operation with another provider, if it has one. -/
def on (pr : Provider) : Operation α → Operation α
  | suiteOf _ algorithm => suiteOf pr algorithm
  | signerOf _ key => signerOf pr key
  | sign _ payload key => sign pr payload key
  | verify _ message key => verify pr message key
  | certify _ signingKey target => certify pr signingKey target
  | verifyCertificate _ verifying candidate expected =>
    verifyCertificate pr verifying candidate expected
  | validateChain _ chain => validateChain pr chain
  | buildChain _ root device published => buildChain pr root device published
  | op => op

/-- **Providers with the same suites are the same in every operation**, errors and records
included. -/
theorem run_on_congr {pr pr' : Provider} (h : ∀ s, s ∈ pr.suites ↔ s ∈ pr'.suites)
    (op : Operation α) (p : Platform) : (op.on pr).run p = (op.on pr').run p := by
  cases op with
  | suiteOf _ v => exact congrArg Traced.ofExcept (Provider.get_congr h v)
  | signerOf _ key => exact congrArg Traced.ofExcept (Provider.forPrivateKey_congr h key)
  | sign _ payload key => exact congrArg Traced.ofExcept (Provider.sign_congr h payload key)
  | verify _ m key => exact Provider.verify_congr_suites h m key
  | certify _ signingKey target =>
      exact Certificate.signPublicKey_congr_suites h p signingKey target
  | verifyCertificate _ verifying candidate expected =>
      exact Certificate.verify_congr_suites h p verifying candidate expected
  | validateChain _ chain => exact Chain.validate_congr_suites h p chain
  | buildChain _ root device published =>
      exact Chain.build_congr_suites h p root device published
  | _ => rfl

/-- **A provider with more suites keeps every result.** -/
theorem keptBy_run_on {pr pr' : Provider} (h : pr.suites ⊆ pr'.suites) (op : Operation α)
    (p : Platform) : ((op.on pr).run p).KeptBy ((op.on pr').run p) := by
  cases op with
  | suiteOf _ v => exact .lift fun s => Provider.get_mono h
  | signerOf _ key => exact .lift fun s => Provider.forPrivateKey_mono h
  | sign _ payload key => exact .lift fun m => Provider.sign_mono h
  | verify _ m key => exact Provider.keptBy_verify h p m key
  | certify _ signingKey target => exact Certificate.keptBy_signPublicKey h p signingKey target
  | verifyCertificate _ verifying candidate expected =>
      exact Certificate.keptBy_verify h p verifying candidate expected
  | validateChain _ chain => exact Chain.keptBy_validate h p chain
  | buildChain _ root device published => exact Chain.keptBy_build h p root device published
  | _ => exact .refl _

end Operation

/-! ## The table of suites -/

namespace Provider

/-- A table of suites by number, with one suite more: in the place of the one with its number, or at
the end. -/
def put : List Suite → Suite → List Suite
  | [], s => [s]
  | s' :: rest, s => if s'.number = s.number then s :: rest else s' :: put rest s

/-- The suites of a provider as a table by number, in the order in which the numbers came first. -/
def table (pr : Provider) : List Suite := pr.suites.foldl put []

theorem mem_put {t : List Suite} {s x : Suite} : x ∈ put t s ↔ x = s ∨ x ∈ t := by
  induction t with
  | nil => simp [put]
  | cons s' rest ih =>
      unfold put
      by_cases hnumber : s'.number = s.number
      · -- the suite that makes place is the same
        rw [if_pos hnumber, Suite.number_injective hnumber]
        simp
      · rw [if_neg hnumber, List.mem_cons, List.mem_cons, ih]
        exact or_left_comm

theorem nodup_put {t : List Suite} (h : (t.map Suite.number).Nodup) (s : Suite) :
    ((put t s).map Suite.number).Nodup := by
  induction t with
  | nil => simp [put]
  | cons s' rest ih =>
      obtain ⟨hnew, hrest⟩ := List.nodup_cons.1 h
      unfold put
      by_cases hnumber : s'.number = s.number
      · rw [if_pos hnumber, List.map_cons, ← hnumber]
        exact h
      · rw [if_neg hnumber, List.map_cons]
        refine List.nodup_cons.2 ⟨fun hmem => ?_, ih hrest⟩
        obtain ⟨x, hx, hxnumber⟩ := List.mem_map.1 hmem
        rcases mem_put.1 hx with rfl | hx
        · exact hnumber hxnumber.symm
        · exact hnew (List.mem_map.2 ⟨x, hx, hxnumber⟩)

theorem mem_foldl_put {l t : List Suite} {x : Suite} : x ∈ l.foldl put t ↔ x ∈ l ∨ x ∈ t := by
  induction l generalizing t with
  | nil => simp
  | cons s rest ih =>
      rw [List.foldl_cons, ih, mem_put, List.mem_cons]
      tauto

theorem mem_table {pr : Provider} {s : Suite} : s ∈ pr.table ↔ s ∈ pr.suites := by
  rw [table, mem_foldl_put]
  simp

theorem nodup_table (pr : Provider) : (pr.table.map Suite.number).Nodup := by
  have hfold : ∀ (l t : List Suite), (t.map Suite.number).Nodup →
      ((l.foldl put t).map Suite.number).Nodup := by
    intro l
    induction l with
    | nil => exact fun t h => h
    | cons s rest ih => exact fun t h => ih (put t s) (nodup_put h s)
  exact hfold pr.suites [] List.nodup_nil

theorem mem_supported {pr : Provider} {n : Int} :
    n ∈ pr.supported ↔ ∃ s ∈ pr.suites, s.number = n := by
  have hall : ∀ s : Suite, s ∈ Suite.all := fun s => by cases s <;> decide
  simp [supported, hall]

/-- **The supported numbers are those of the table, in increasing order.** -/
theorem supported_eq_sorted (pr : Provider) :
    pr.supported.Pairwise (· < ·) ∧ pr.supported.Perm (pr.table.map Suite.number) := by
  have hall : (Suite.all.map Suite.number).Pairwise (· < ·) := by decide
  have hsorted : pr.supported.Pairwise (· < ·) :=
    hall.sublist (List.filter_sublist.map Suite.number)
  refine ⟨hsorted, (List.perm_ext_iff_of_nodup (hsorted.imp ne_of_lt) pr.nodup_table).2 fun n => ?_⟩
  simp only [mem_supported, List.mem_map, mem_table]

end Provider

/-- **A provider may keep its suites in the table**: nothing changes. -/
theorem Operation.run_on_table {α : Type} (pr : Provider) (op : Operation α) (p : Platform) :
    (op.on ⟨pr.table⟩).run p = (op.on pr).run p :=
  run_on_congr (fun _ => Provider.mem_table) op p

/-! ## Summary -/

namespace Operation

/-- **The results of a provider depend on the set of its suites, and grow with it.** Lists with the
same suites, in any order and with any repetitions, make providers that support the same algorithms
and give the same outcome of every operation on every platform, errors and records included. A
provider with more suites supports more algorithms, and where the one with fewer suites has a result,
it has the same: no answer changes, nor the suite that is chosen. -/
theorem run_depends_on_suites (l l' : List Suite) :
    ((∀ s, s ∈ l ↔ s ∈ l') → Provider.supported ⟨l⟩ = Provider.supported ⟨l'⟩ ∧
      ∀ (α : Type) (op : Operation α) (p : Platform),
        (op.on ⟨l⟩).run p = (op.on ⟨l'⟩).run p) ∧
    (l ⊆ l' → (Provider.supported ⟨l⟩).Sublist (Provider.supported ⟨l'⟩) ∧
      ∀ (α : Type) (op : Operation α) (p : Platform) (a : α),
        ((op.on ⟨l⟩).run p).result = .ok a → (op.on ⟨l'⟩).run p = (op.on ⟨l⟩).run p) := by
  refine ⟨fun h => ⟨Provider.supported_congr h, fun α op p => run_on_congr h op p⟩, fun h => ?_⟩
  exact ⟨Provider.supported_sublist h, fun α op p a ha => keptBy_run_on h op p a ha⟩

/-- A P-256 key signs with the same suite, whatever stands before it; a provider without that suite
knows none for the key. -/
theorem run_depends_on_suites_p256 :
    let key : Value := .privateKey (.p256 1) 0
    Provider.forPrivateKey ⟨[.es256, .eddsa, .es256]⟩ key = Provider.standard.forPrivateKey key ∧
      Provider.standard.forPrivateKey key = .ok .es256 ∧
      Provider.forPrivateKey ⟨[.eddsa]⟩ key = .error (.noSigner [-8] "ECPrivateKey") := by
  intro key
  have hsame := ((run_depends_on_suites [.es256, .eddsa, .es256] [.eddsa, .es256]).1
    fun s => by cases s <;> decide).2 Suite (.signerOf .standard key) {}
  have hgrown := ((run_depends_on_suites [.es256] [.eddsa, .es256]).2 (by decide)).2 Suite
    (.signerOf .standard key) {} .es256 rfl
  exact ⟨congrArg Traced.result hsame, congrArg Traced.result hgrown, rfl⟩

end Operation

end DeviceTrust

import DeviceTrust.Proofs.Cbor.Coercion
import DeviceTrust.Proofs.Cbor.Ordinary
import DeviceTrust.Proofs.Number.Exact

/-!
# Protected headers on the wire

The labels of a header stand for whole numbers (`Header.NumberedAs`), and labels that stand for one
number become one: the numbers stand in the order in which they first come, each with the content that
comes last (`Header.merged`). What is written for a header is read as its merged entries
(`Header.decode_of_encode`), up to what the wire does not carry of a content; a content that a reader
could have given (`Cbor.Settled`) comes back as it is.
-/

set_option autoImplicit false

namespace DeviceTrust

namespace Cbor

/-! ## Values that come back as they are -/

/-- **A value as a reader gives it**, where arrays and maps are frozen or not: nothing in it is of a
sort that the wire does not carry. -/
inductive Settled : (frozen : Bool) → Value → Prop
  | null {frozen : Bool} : Settled frozen .null
  | undefined {frozen : Bool} : Settled frozen .undefined
  | bool {frozen : Bool} (b : Bool) : Settled frozen (.bool b)
  | simple {frozen : Bool} (code : UInt8) : Settled frozen (.simple code)
  | int {frozen : Bool} (n : Int) : Settled frozen (.int n)
  | float {frozen : Bool} {x : Binary64} (h : x.withoutPayload = x) : Settled frozen (.float x)
  | text {frozen : Bool} (s : String) : Settled frozen (.text s)
  | bytes {frozen : Bool} (b : Bytes) : Settled frozen (.bytes b)
  | list {items : List Value} (h : ∀ x ∈ items, Settled false x) : Settled false (.list items)
  | tuple {items : List Value} (h : ∀ x ∈ items, Settled true x) : Settled true (.tuple items)
  | map {frozen : Bool} {es : Entries} (hd : es.Distinct) (hk : ∀ e ∈ es, Settled true e.1)
      (hv : ∀ e ∈ es, Settled frozen e.2) :
      Settled frozen (.map (if frozen then .frozen else .plain) es)
  | tag {frozen : Bool} (number : Nat) {content : Value}
      (h : Settled (frozen || freezesContent number) content) :
      Settled frozen (.tag number content)

/-- **Such a value comes back as it is.** -/
theorem Settled.asRead_eq {frozen : Bool} {v : Value} (h : Settled frozen v) :
    asRead v frozen = v := by
  induction h with
  | null | undefined | bool _ | simple _ | int _ | text _ | bytes _ => rfl
  | float h => exact congrArg Value.float h
  | @list items _ ih | @tuple items _ ih =>
      rw [asRead, itemsAsRead_eq_map, List.map_congr_left ih, List.map_id']
      rfl
  | @map frozen es hd _ _ ihk ihv =>
      have hentries : es.map (fun e => (asRead e.1 true, asRead e.2 frozen)) = es := by
        refine (List.map_congr_left fun e he => ?_).trans (List.map_id es)
        exact Prod.ext (ihk e he) (ihv e he)
      rw [asRead, entriesAsRead_eq_map, hentries, mapOf, Entries.ofList_eq_self hd]
  | tag number _ ih => exact congrArg (Value.tag number) ih

end Cbor

namespace Header

/-! ## Labels that become one -/

/-- Any decimal number can be a label: its fraction is cut off, and no exponent is too great or too
small for that. -/
theorem toWholeNumber_decimal (x : Decimal) :
    (Value.object (.decimal x)).toWholeNumber
      = .ok ((Binary64.signed x.negative x.coefficient * 10 ^ x.exponent.toNat).tdiv
          (10 ^ (-x.exponent).toNat)) :=
  congrArg Except.ok (Exact.truncate_ofDecimal _ _)

/-- **The labels of a header stand for these numbers**, one after the other, with the contents of the
header under them. -/
def NumberedAs (es : Entries) (ps : List (Int × Value)) : Prop :=
  List.Forall₂ (fun e p => e.1.toWholeNumber = .ok p.1 ∧ e.2 = p.2) es ps

/-- **Contents under numbers, with a number only once**: the numbers stand in the order in which they
first come, each with the content that comes last. -/
def merged (ps : List (Int × Value)) : Entries :=
  (ps.map (·.1)).eraseDups.map fun n => (.int n, (ps.reverse.lookup n).getD .null)

variable {es : Entries} {ps : List (Int × Value)} {h : Value} {b : Bytes}

theorem exists_numberedAs (h : ∀ e ∈ es, ∃ n, e.1.toWholeNumber = .ok n) :
    ∃ ps, NumberedAs es ps := by
  induction es with
  | nil => exact ⟨[], .nil⟩
  | cons e rest ih =>
      obtain ⟨n, hn⟩ := h e (by simp)
      obtain ⟨ps, hps⟩ := ih fun e he => h e (by simp [he])
      exact ⟨(n, e.2) :: ps, .cons ⟨hn, rfl⟩ hps⟩

theorem NumberedAs.unique {ps' : List (Int × Value)} (h : NumberedAs es ps)
    (h' : NumberedAs es ps') : ps = ps' := by
  induction h generalizing ps' with
  | nil =>
      cases h'
      rfl
  | cons hfirst _ ih =>
      cases h' with
      | cons hfirst' hrest =>
          have hnumber := Except.ok.inj (hfirst.1.symm.trans hfirst'.1)
          exact congrArg₂ List.cons (Prod.ext hnumber (hfirst.2.symm.trans hfirst'.2)) (ih hrest)

theorem NumberedAs.forall_contents (h : NumberedAs es ps) {P : Value → Prop}
    (hP : ∀ e ∈ es, P e.2) : ∀ p ∈ ps, P p.2 := by
  intro p hp
  obtain ⟨e, he, -, hcontent⟩ := exists_mem_of_forall₂ h.flip hp
  exact hcontent ▸ hP e he

theorem eraseDups_concat (ns : List Int) (n : Int) :
    (ns ++ [n]).eraseDups = if n ∈ ns then ns.eraseDups else ns.eraseDups ++ [n] := by
  rw [List.eraseDups_append]
  by_cases hn : n ∈ ns <;> simp [List.removeAll, hn, List.eraseDups_cons]

theorem nodup_eraseDups (ns : List Int) : ns.eraseDups.Nodup := by
  induction ns using List.reverseRecOn with
  | nil => exact List.nodup_nil
  | append_singleton ns n ih =>
      rw [eraseDups_concat]
      split
      · exact ih
      · rename_i hn
        rw [← List.concat_eq_append]
        exact ih.concat (mt List.mem_eraseDups.1 hn)

/-- The content that comes last under a number, after one more. -/
theorem lookup_reverse_concat (ps : List (Int × Value)) (p : Int × Value) (n : Int) :
    (ps ++ [p]).reverse.lookup n = if n = p.1 then some p.2 else ps.reverse.lookup n := by
  rw [List.reverse_append, List.reverse_singleton, List.singleton_append, List.lookup_cons]
  by_cases hn : n = p.1
  · simp [hn]
  · simp [hn, beq_false_of_ne hn]

/-- **One more content under a number**: it takes the place of what stands under the number, and under
a new number it goes to the end. -/
theorem insert_numbers {ns : List Int} (hns : ns.Nodup) (content : Int → Value) (n : Int)
    (v : Value) :
    Entries.insert (ns.map fun m => (.int m, content m)) (.int n) v
      = (if n ∈ ns then ns else ns ++ [n]).map
          fun m => (.int m, if m = n then v else content m) := by
  induction ns with
  | nil => simp [Entries.insert]
  | cons m ns ih =>
      obtain ⟨hm, hns⟩ := List.nodup_cons.1 hns
      rw [List.map_cons, Entries.insert]
      by_cases hmn : n = m
      · -- the numbers that follow are others
        subst hmn
        rw [if_pos (Value.int_agrees_int.2 rfl), if_pos (by simp), List.map_cons, if_pos rfl]
        refine congrArg _ (List.map_congr_left fun k hk => ?_)
        rw [if_neg fun (hkn : k = n) => hm (hkn ▸ hk)]
      · rw [if_neg (fun h => hmn (Value.int_agrees_int.1 h)), ih hns]
        by_cases hn : n ∈ ns <;> simp [hn, hmn, Ne.symm hmn]

/-- **Contents under numbers make the map of the merged ones.** -/
theorem ofList_numbers (ps : List (Int × Value)) :
    Entries.ofList (ps.map fun p => (.int p.1, p.2)) = merged ps := by
  -- one content after the other: those before it are merged already
  induction ps using List.reverseRecOn with
  | nil => rfl
  | append_singleton ps p ih =>
      have hstep : Entries.ofList ((ps ++ [p]).map fun p => (.int p.1, p.2))
          = (merged ps).insert (.int p.1) p.2 := by
        rw [← ih, Entries.ofList, Entries.ofList, List.map_append, List.foldl_append]
        rfl
      rw [hstep, merged, insert_numbers (nodup_eraseDups _), merged, List.map_append,
        List.map_singleton, eraseDups_concat]
      simp only [List.mem_eraseDups]
      refine List.map_congr_left fun n _ => ?_
      rw [lookup_reverse_concat]
      by_cases hn : n = p.1 <;> simp [hn]

theorem distinct_merged (ps : List (Int × Value)) : (merged ps).Distinct :=
  ofList_numbers ps ▸ Entries.distinct_ofList _

/-- The labels of merged contents are integers, and every content was there before. -/
theorem merged_forall {P : Value → Prop} (hP : ∀ p ∈ ps, P p.2) :
    ∀ e ∈ merged ps, (∃ n, e.1 = .int n) ∧ P e.2 := by
  rw [← ofList_numbers]
  refine Entries.ofList_forall (P := fun label => ∃ n, label = .int n) fun e he => ?_
  obtain ⟨p, hp, rfl⟩ := List.mem_map.1 he
  exact ⟨⟨p.1, rfl⟩, hP p hp⟩

theorem labelled_merged (ps : List (Int × Value)) : (merged ps).Labelled := by
  intro e he
  obtain ⟨⟨n, hn⟩, -⟩ := merged_forall (P := fun _ => True) (fun _ _ => trivial) e he
  rw [hn]
  exact .int n

/-! ## Writing and reading -/

theorem numbered_eq (h : NumberedAs es ps) : numbered es = .ok (merged ps) := by
  have hpairs : es.mapM (fun e => do return (Value.int (← e.1.toWholeNumber), e.2))
      = Except.ok (ε := Fault) (ps.map fun p => (Value.int p.1, p.2)) := by
    rw [mapM_eq_ok_iff, List.forall₂_map_right_iff]
    refine h.imp fun e p hep => ?_
    rw [hep.1, hep.2]
    rfl
  rw [numbered, hpairs, ← ofList_numbers]
  rfl

theorem isEmpty_of_entries? (hes : h.entries? = some es) : h.isEmpty = es.isEmpty := by
  cases h with
  | map _ _ | coseKey _ =>
      cases hes
      cases es <;> rfl
  | _ => cases hes

theorem encode_of_nil (hes : h.entries? = some []) : encode h = .ok [] := by
  rw [encode, isEmpty_of_entries? hes]
  rfl

/-- **What is written for any other header**: the map of the merged entries. -/
theorem encode_eq_ok_iff (hes : h.entries? = some es) (hne : es ≠ []) (hps : NumberedAs es ps) :
    encode h = .ok b ↔ Cbor.encode? (.map .plain (merged ps)) = some b := by
  have hempty : h.isEmpty = false := by rw [isEmpty_of_entries? hes, List.isEmpty_eq_false_iff.2 hne]
  simp only [encode, hempty, hes, numbered_eq hps]
  cases Cbor.encode? (.map .plain (merged ps)) <;> simp

/-- The map of merged contents is plain if the contents are, one level further in. -/
theorem plain_merged {depth : Nat} (hd : 0 < depth) (h : ∀ p ∈ ps, Cbor.Plain depth p.2) :
    Cbor.Plain (depth + 1) (.map .plain (merged ps)) := by
  refine .map .plain (fun e he => ?_) fun e he => (merged_forall h e he).2
  obtain ⟨⟨n, hn⟩, -⟩ := merged_forall h e he
  rw [hn]
  exact ((IsLabel.int n).plain 0).mono hd

theorem asRead_merged (ps : List (Int × Value)) :
    Cbor.asRead (.map .plain (merged ps)) false
      = .map .plain ((merged ps).map fun e => (e.1, Cbor.asRead e.2 false)) := by
  have hentries : Cbor.entriesAsRead (merged ps) false
      = (merged ps).map fun e => (e.1, Cbor.asRead e.2 false) := by
    rw [Cbor.entriesAsRead_eq_map]
    refine List.map_congr_left fun e he => ?_
    obtain ⟨⟨n, hn⟩, -⟩ := merged_forall (P := fun _ => True) (fun _ _ => trivial) e he
    rw [hn]
    rfl
  rw [Cbor.asRead, Cbor.mapOf, Cbor.ofList_entriesAsRead (distinct_merged ps) (labelled_merged ps),
    hentries]
  rfl

theorem map_asRead_merged (h : ∀ p ∈ ps, Cbor.Settled false p.2) :
    (merged ps).map (fun e => (e.1, Cbor.asRead e.2 false)) = merged ps := by
  refine (List.map_congr_left fun e he => ?_).trans (List.map_id _)
  exact Prod.ext rfl (merged_forall h e he).2.asRead_eq

/-- **What is written for a header with entries encodes the merged ones**, as they are read back. -/
theorem encodesMap_of_encode (hes : h.entries? = some es) (hne : es ≠ []) (hps : NumberedAs es ps)
    (hplain : ∀ p ∈ ps, Cbor.Plain (Cbor.depthLimit - 1) p.2) (hb : encode h = .ok b)
    (hlength : b.length < 2 ^ 64) :
    Cbor.EncodesMap b ((merged ps).map fun e => (e.1, Cbor.asRead e.2 false)) := by
  have hencode := (encode_eq_ok_iff hes hne hps).1 hb
  have hdecode := Cbor.decode?_encode (plain_merged (by decide) hplain) hencode hlength
  exact ⟨.plain, hdecode.trans (congrArg some (asRead_merged ps))⟩

theorem exists_encode (hes : h.entries? = some es) (hps : NumberedAs es ps)
    (hplain : ∀ p ∈ ps, Cbor.Plain (Cbor.depthLimit - 1) p.2) :
    ∃ b, encode h = .ok b ∧ (b = [] ↔ es = []) := by
  by_cases hne : es = []
  · rw [hne] at hes
    exact ⟨[], encode_of_nil hes, iff_of_true rfl hne⟩
  · obtain ⟨b, hencode⟩ := Cbor.exists_encode? (plain_merged (by decide) hplain)
    have hb := (encode_eq_ok_iff hes hne hps).2 hencode
    refine ⟨b, hb, iff_of_false ?_ hne⟩
    rintro rfl
    exact ne_nil_of_encodesMap (encodesMap_of_encode hes hne hps hplain hb (by decide)) rfl

/-- **What is written is read as the merged entries.** -/
theorem decode_of_encode (hes : h.entries? = some es) (hps : NumberedAs es ps)
    (hplain : ∀ p ∈ ps, Cbor.Plain (Cbor.depthLimit - 1) p.2) (hb : encode h = .ok b)
    (hlength : b.length < 2 ^ 64) :
    decode (.bytes b) = .ok ((merged ps).map fun e => (e.1, Cbor.asRead e.2 false)) := by
  by_cases hne : es = []
  · subst hne
    cases hps
    rw [encode_of_nil hes] at hb
    cases hb
    rfl
  · exact decode_of_encodesMap (encodesMap_of_encode hes hne hps hplain hb hlength)

/-- **Protected headers survive the wire, with one spelling for each label.** Take any map whose labels
stand for whole numbers, in whatever spelling, and whose contents are plain, nested one level below the
limit. It is written, as no bytes exactly if it has no entries, and what is written is read as the map
of the numbers to the contents: a number comes once, in the place where it first came, with the content
that came last under it. The contents are as they are read back, and those that a reader could have
given are the same. What is written has to have a length that can be counted.

Of all byte strings, each is read as a map or refused as input that cannot be read. -/
theorem header_survives_wire :
    (∀ (h : Value) (es : Entries), h.entries? = some es →
      (∀ e ∈ es, ∃ n, e.1.toWholeNumber = .ok n) →
      (∀ e ∈ es, Cbor.Plain (Cbor.depthLimit - 1) e.2) →
      (∀ b, encode h = .ok b → (b.length : Int) ≤ Value.greatestCount) →
      ∃ ps b, NumberedAs es ps ∧ encode h = .ok b ∧ (b = [] ↔ es = []) ∧
        ∀ v, v.byteString? = some b →
          decode v = .ok ((merged ps).map fun e => (e.1, Cbor.asRead e.2 false)) ∧
          ((∀ e ∈ es, Cbor.Settled false e.2) → decode v = .ok (merged ps))) ∧
    ∀ (v : Value) (b : Bytes), v.byteString? = some b →
      (∃ es, decode v = .ok es) ∨
        ∃ e, decode v = .error e ∧ e.family? = some .structural ∧
          e.reason? = some .deserialization := by
  refine ⟨fun h es hes hlabels hcontents hcount => ?_, fun v b hv => ?_⟩
  · obtain ⟨ps, hps⟩ := exists_numberedAs hlabels
    have hplain := hps.forall_contents hcontents
    obtain ⟨b, hb, hempty⟩ := exists_encode hes hps hplain
    have hread := decode_of_encode hes hps hplain hb (Value.lt_of_le_greatestCount (hcount b hb))
    refine ⟨ps, b, hps, hb, hempty, fun v hv => ?_⟩
    rw [decode_of_byteString? hv, hread]
    refine ⟨rfl, fun hsettled => ?_⟩
    rw [map_asRead_merged (hps.forall_contents hsettled)]
  · rw [decode_of_byteString? hv]
    rcases (decode_failsOnly b).ok_or_error with ⟨es, hes⟩ | ⟨e, he, hreason⟩
    · exact .inl ⟨es, hes⟩
    · refine .inr ⟨e, he, ?_, hreason⟩
      rw [Error.family?, show e.reason? = _ from hreason]
      rfl

/-- A header in which one label is written in four ways: as a text, an integer, ASCII digits and a
number with a fraction. Another label is a decimal number that is all but zero. -/
def respelled : Entries :=
  [(.text " +1_0 ", .int 0), (.bool true, .text "a"), (.int 10, .null),
    (.object (.decimal ⟨false, 1, -200001⟩), .int 5), (.bytes [0x31, 0x30], .bool false),
    (.float ⟨0x4025000000000000⟩, .list [.int (-7)])]

theorem numberedAs_respelled :
    NumberedAs respelled
      [(10, .int 0), (1, .text "a"), (10, .null), (0, .int 5), (10, .bool false),
        (10, .list [.int (-7)])] := by
  refine .cons ⟨?_, rfl⟩ (.cons ⟨rfl, rfl⟩ (.cons ⟨rfl, rfl⟩ (.cons ⟨?_, rfl⟩
    (.cons ⟨?_, rfl⟩ (.cons ⟨?_, rfl⟩ .nil))))) <;> decide +kernel

theorem plain_respelled : ∀ e ∈ respelled, Cbor.Plain 1 e.2 := by
  simp only [respelled, List.forall_mem_cons, List.not_mem_nil, false_implies, implies_true]
  refine ⟨.int (by decide), .text "a", .null, .int (by decide), .bool false, .list fun x hx => ?_, trivial⟩
  rw [List.mem_singleton.1 hx]
  exact .int (by decide)

theorem settled_respelled : ∀ e ∈ respelled, Cbor.Settled false e.2 := by
  simp only [respelled, List.forall_mem_cons, List.not_mem_nil, false_implies, implies_true]
  refine ⟨.int 0, .text "a", .null, .int 5, .bool false, .list fun x hx => ?_, trivial⟩
  rw [List.mem_singleton.1 hx]
  exact .int (-7)

/-- It comes back with the label once, in the first place and with the last content. -/
theorem header_survives_wire_respelled :
    ∃ b, encode (.map .readOnly respelled) = .ok b ∧
      decode (.buffer b)
        = .ok [(.int 10, .list [.int (-7)]), (.int 1, .text "a"), (.int 0, .int 5)] ∧
      ∃ e, decode (.bytes [0x01]) = .error e ∧ e.reason? = some .deserialization := by
  have hcount : ∀ b, encode (.map .readOnly respelled) = .ok b →
      (b.length : Int) ≤ Value.greatestCount := by
    intro b hb
    have hencode := (encode_eq_ok_iff rfl (by simp [respelled]) numberedAs_respelled).1 hb
    have hbytes : Cbor.encode?
          (.map .plain [(.int 10, .list [.int (-7)]), (.int 1, .text "a"), (.int 0, .int 5)])
        = some [0xa3, 0x0a, 0x81, 0x26, 0x01, 0x61, 0x61, 0x00, 0x05] := by decide +kernel
    cases hbytes.symm.trans hencode
    decide
  have hlabels : ∀ e ∈ respelled, ∃ n, e.1.toWholeNumber = .ok n := by
    intro e he
    obtain ⟨p, -, hp, -⟩ := exists_mem_of_forall₂ numberedAs_respelled he
    exact ⟨p.1, hp⟩
  obtain ⟨hsurvives, hrefused⟩ := header_survives_wire
  obtain ⟨ps, b, hps, hb, -, hread⟩ := hsurvives (.map .readOnly respelled) respelled rfl hlabels
    (fun e he => (plain_respelled e he).mono (by decide)) hcount
  obtain rfl := hps.unique numberedAs_respelled
  refine ⟨b, hb, (hread (.buffer b) rfl).2 settled_respelled, ?_⟩
  rcases hrefused (.bytes [0x01]) [0x01] rfl with ⟨es, hes⟩ | ⟨e, he, -, hreason⟩
  · cases hes
  · exact ⟨e, he, hreason⟩

end Header

end DeviceTrust

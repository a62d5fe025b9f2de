import DeviceTrust.Cbor.Entries

/-!
# Maps without repeated labels

No two labels of a map agree (`Distinct`). Whatever entries a map is made of, it has this property
(`distinct_ofList`), and entries that have it already make the map as they are (`ofList_eq_self`).
The rest says how looking up goes through the ways of putting entries together: appending, changing
the contents, leaving entries out.

Agreement of labels is not transitive: a simple value agrees with the integer of its number, which
agrees with a floating-point number that the simple value does not agree with. So nothing here rests
on more than a comparison of the label at hand with those before it.
-/

set_option autoImplicit false

namespace DeviceTrust.Entries

/-! ## Labels -/

def labels (es : Entries) : List Value := es.map (·.1)

/-- **No repeated label**: no label agrees with an earlier one. -/
def Distinct (es : Entries) : Prop := (labels es).Pairwise fun k l => l.agrees k = false

@[simp] theorem find?_nil (label : Value) : find? [] label = none := rfl

theorem find?_cons (e : Value × Value) (es : Entries) (label : Value) :
    find? (e :: es) label = if label.agrees e.1 then some e.2 else find? es label := rfl

theorem find?_eq_none_iff {es : Entries} {label : Value} :
    find? es label = none ↔ ∀ k ∈ labels es, label.agrees k = false := by
  induction es with
  | nil => simp [labels]
  | cons e rest ih =>
      rw [find?_cons]
      by_cases he : label.agrees e.1 = true
      · simp [labels, he]
      · simp only [he, Bool.false_eq_true, if_false, ih]
        simp [labels, he]

/-! ## Inserting -/

theorem insert_of_find?_eq_none {es : Entries} {label : Value} (h : find? es label = none)
    (content : Value) : insert es label content = es ++ [(label, content)] := by
  induction es with
  | nil => rfl
  | cons e rest ih =>
      rw [find?_cons] at h
      by_cases he : label.agrees e.1 = true
      · simp [he] at h
      · simp only [he, Bool.false_eq_true, if_false] at h
        simp [insert, he, ih h]

theorem labels_insert_of_find?_ne_none {es : Entries} {label : Value}
    (h : find? es label ≠ none) (content : Value) :
    labels (insert es label content) = labels es := by
  induction es with
  | nil => simp at h
  | cons e rest ih =>
      rw [find?_cons] at h
      by_cases he : label.agrees e.1 = true
      · simp [insert, he, labels]
      · simp only [he, Bool.false_eq_true, if_false] at h
        have hrest := ih h
        simp only [labels] at hrest
        simp [insert, he, labels, hrest]

theorem distinct_insert {es : Entries} (h : Distinct es) (label content : Value) :
    Distinct (insert es label content) := by
  by_cases hf : find? es label = none
  · -- the label is new, and so agrees with none before it
    rw [insert_of_find?_eq_none hf, Distinct, labels, List.map_append, List.pairwise_append]
    refine ⟨h, by simp, ?_⟩
    intro k hk l hl
    have hlabel : l = label := by simpa using hl
    rw [hlabel]
    exact find?_eq_none_iff.1 hf k hk
  · rw [Distinct, labels_insert_of_find?_ne_none hf]
    exact h

/-- What holds of an inserted entry and of all entries holds of all entries afterwards. Label and
content are spoken of apart, because an entry can get its content from another. -/
theorem insert_forall {P Q : Value → Prop} {es : Entries} {label content : Value}
    (h : ∀ e ∈ es, P e.1 ∧ Q e.2) (hl : P label) (hc : Q content) :
    ∀ e ∈ insert es label content, P e.1 ∧ Q e.2 := by
  induction es with
  | nil =>
      intro e he
      have heq : e = (label, content) := by simpa [insert] using he
      exact heq ▸ ⟨hl, hc⟩
  | cons x rest ih =>
      have hx := h x (by simp)
      have hrest := ih fun e he => h e (by simp [he])
      intro e he
      rw [insert] at he
      split at he
      · -- the entry that is there keeps its label and gets the new content
        rcases List.mem_cons.1 he with rfl | he
        · exact ⟨hx.1, hc⟩
        · exact h e (by simp [he])
      · rcases List.mem_cons.1 he with rfl | he
        · exact hx
        · exact hrest e he

/-! ## Making a map -/

/-- **A map has no repeated label**, whatever it is made of. -/
theorem distinct_ofList (pairs : List (Value × Value)) : Distinct (ofList pairs) := by
  refine List.foldlRecOn pairs _ ?_ ?_
  · exact List.Pairwise.nil
  · intro es hes p _
    exact distinct_insert hes p.1 p.2

/-- What holds of all labels and of all contents still does after a map is made of them. -/
theorem ofList_forall {P Q : Value → Prop} {pairs : List (Value × Value)}
    (h : ∀ p ∈ pairs, P p.1 ∧ Q p.2) : ∀ e ∈ ofList pairs, P e.1 ∧ Q e.2 := by
  refine List.foldlRecOn (motive := fun es : Entries => ∀ e ∈ es, P e.1 ∧ Q e.2) pairs _ ?_ ?_
  · intro e he
    cases he
  · intro es hes p hp
    exact insert_forall hes (h p hp).1 (h p hp).2

/-- Entries without repeated labels that are inserted one by one are appended. -/
theorem foldl_insert_eq_append (es acc : Entries) (h : Distinct (acc ++ es)) :
    es.foldl (fun es p => insert es p.1 p.2) acc = acc ++ es := by
  -- what was inserted and what is still to come together have no repeated label
  induction es generalizing acc with
  | nil => simp
  | cons e rest ih =>
      have hnew : find? acc e.1 = none := by
        rw [find?_eq_none_iff]
        rw [Distinct, labels, List.map_append, List.pairwise_append] at h
        exact fun k hk => h.2.2 k hk e.1 (by simp)
      have hstep : insert acc e.1 e.2 = acc ++ [e] := insert_of_find?_eq_none hnew e.2
      rw [List.foldl_cons, hstep, ih (acc ++ [e]) (by simpa using h)]
      simp

/-- **Entries without repeated labels make the map as they are.** -/
theorem ofList_eq_self {es : Entries} (h : Distinct es) : ofList es = es := by
  simpa [ofList] using foldl_insert_eq_append es [] (by simpa using h)

/-! ## Looking up -/

theorem find?_append (es fs : Entries) (label : Value) :
    find? (es ++ fs) label = (find? es label).or (find? fs label) := by
  induction es with
  | nil => simp
  | cons e rest ih =>
      rw [List.cons_append, find?_cons, find?_cons, ih]
      split <;> simp

theorem exists_mem_of_find?_eq_some {es : Entries} {label content : Value}
    (h : find? es label = some content) : ∃ k, (k, content) ∈ es ∧ label.agrees k = true := by
  induction es with
  | nil => cases h
  | cons e rest ih =>
      rw [find?_cons] at h
      by_cases he : label.agrees e.1 = true
      · rw [if_pos he] at h
        cases h
        exact ⟨e.1, by simp, he⟩
      · rw [if_neg he] at h
        obtain ⟨k, hk, hagrees⟩ := ih h
        exact ⟨k, by simp [hk], hagrees⟩

/-- What stands under a label is found there, if no label is repeated. -/
theorem find?_of_mem {es : Entries} (h : Distinct es) {label content : Value}
    (hmem : (label, content) ∈ es) (hself : label.agrees label = true) :
    find? es label = some content := by
  induction es with
  | nil => cases hmem
  | cons e rest ih =>
      rw [Distinct, labels, List.map_cons, List.pairwise_cons] at h
      rw [find?_cons]
      rcases List.mem_cons.1 hmem with rfl | hmem
      · exact if_pos hself
      · -- the label comes later, and so does not agree with the first one
        have hfirst : label.agrees e.1 = false := h.1 label (List.mem_map_of_mem hmem)
        rw [hfirst]
        exact ih h.2 hmem

/-- Changing the contents changes what is found, and nothing else. -/
theorem find?_map (f : Value → Value) (es : Entries) (label : Value) :
    find? (es.map fun e => (e.1, f e.2)) label = (find? es label).map f := by
  induction es with
  | nil => rfl
  | cons e rest ih =>
      rw [List.map_cons, find?_cons, find?_cons, ih]
      split <;> simp

theorem insert_map (f : Value → Value) (es : Entries) (label content : Value) :
    insert (es.map fun e => (e.1, f e.2)) label (f content)
      = (insert es label content).map fun e => (e.1, f e.2) := by
  induction es with
  | nil => rfl
  | cons e rest ih =>
      rw [List.map_cons, insert, insert, ih]
      split <;> simp

theorem foldl_insert_map (f : Value → Value) (pairs acc : Entries) :
    (pairs.map fun p => (p.1, f p.2)).foldl (fun es p => insert es p.1 p.2)
        (acc.map fun e => (e.1, f e.2))
      = (pairs.foldl (fun es p => insert es p.1 p.2) acc).map fun e => (e.1, f e.2) := by
  induction pairs generalizing acc with
  | nil => rfl
  | cons p rest ih =>
      rw [List.map_cons, List.foldl_cons, List.foldl_cons, insert_map]
      exact ih _

theorem ofList_map (f : Value → Value) (pairs : Entries) :
    ofList (pairs.map fun p => (p.1, f p.2)) = (ofList pairs).map fun e => (e.1, f e.2) :=
  foldl_insert_map f pairs []

/-- Entries under labels that do not agree with the one looked up can be left out. -/
theorem find?_filter {keep : Value × Value → Bool} {es : Entries} {label : Value}
    (h : ∀ e ∈ es, label.agrees e.1 = true → keep e = true) :
    find? (es.filter keep) label = find? es label := by
  induction es with
  | nil => rfl
  | cons e rest ih =>
      have hrest := ih fun e he => h e (by simp [he])
      by_cases hk : keep e = true
      · rw [List.filter_cons_of_pos hk, find?_cons, find?_cons, hrest]
      · have he : ¬ label.agrees e.1 = true := fun ha => hk (h e (by simp) ha)
        rw [List.filter_cons_of_neg hk, find?_cons, if_neg he, hrest]

end DeviceTrust.Entries

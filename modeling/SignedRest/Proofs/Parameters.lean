import Mathlib.Data.List.Basic
import SignedRest.Params

/-! Parameters looked up, added and divided. -/
namespace SignedRest.Params

theorem get?_eq_none_iff {ps : Params} {name : String} :
    ps.get? name = none ↔ ∀ p ∈ ps.items, p.name ≠ name := by
  simp [get?]

theorem name_of_get? {ps : Params} {name : String} {p : Param} (h : ps.get? name = some p) :
    p.name = name :=
  of_decide_eq_true (List.find?_some (p := fun q : Param => decide (q.name = name)) h)

theorem mem_of_get? {ps : Params} {name : String} {p : Param} (h : ps.get? name = some p) :
    p ∈ ps.items := List.mem_of_find?_eq_some h

theorem find?_place_of_ne {p : Param} {name : String} (h : p.name ≠ name) (items : List Param) :
    (place p items).find? (·.name = name) = items.find? (·.name = name) := by
  induction items with
  | nil => simp [place, h]
  | cons q rest ih =>
    by_cases same : q.name = p.name
    · have hq : q.name ≠ name := same ▸ h
      simp [place, same, h]
    · by_cases hq : q.name = name
      · have hp : ¬ name = p.name := fun e => h e.symm
        simp [place, hq, hp]
      · simp [place, same, hq, ih]

theorem get?_addText_of_ne {name other : String} (h : name ≠ other) (ps : Params)
    (value : String) : (ps.addText name value).get? other = ps.get? other :=
  find?_place_of_ne (p := ⟨name, .text value⟩) h ps.items

theorem find?_place (p : Param) (items : List Param) :
    (place p items).find? (·.name = p.name) = some p := by
  induction items with
  | nil => simp [place]
  | cons q rest ih => by_cases same : q.name = p.name <;> simp [place, same, ih]

/-- Adding a text changes what is found under its own name alone. -/
theorem get?_addText (ps : Params) (name value other : String) :
    (ps.addText name value).get? other =
      if name = other then some ⟨name, .text value⟩ else ps.get? other := by
  split
  · rename_i same
    exact same ▸ find?_place ⟨name, .text value⟩ ps.items
  · rename_i differ
    exact get?_addText_of_ne differ ps value

/-- A name is that of one parameter at most. -/
theorem filter_name (ps : Params) (name : String) :
    ps.items.filter (·.name = name) = (ps.get? name).toList := by
  have every : ∀ items : List Param, (items.map (·.name)).Nodup →
      items.filter (·.name = name) = (items.find? (·.name = name)).toList := by
    intro items
    induction items with
    | nil => simp
    | cons p items ih =>
      intro distinct
      obtain ⟨first, rest⟩ := List.nodup_cons.mp distinct
      by_cases same : p.name = name
      · have others : items.filter (·.name = name) = [] := by
          simp only [List.filter_eq_nil_iff, decide_eq_true_eq]
          rintro q hq rfl
          exact first (List.mem_map.mpr ⟨q, hq, same.symm⟩)
        simp [same, others]
      · simp [same, ih rest]
  exact every ps.items ps.distinct

theorem place_of_absent {p : Param} {items : List Param} (h : ∀ q ∈ items, q.name ≠ p.name) :
    place p items = items ++ [p] := by
  induction items with
  | nil => rfl
  | cons q rest ih =>
    have tail := ih fun r hr => h r (by simp [hr])
    simp [place, h q (by simp), tail]

theorem items_addText_of_absent {ps : Params} {name : String} (h : ps.get? name = none)
    (value : String) : (ps.addText name value).items = ps.items ++ [⟨name, .text value⟩] :=
  place_of_absent (p := ⟨name, .text value⟩) (get?_eq_none_iff.mp h)

theorem pairs_addText_of_absent {ps : Params} {name : String} (h : ps.get? name = none)
    (value : String) : (ps.addText name value).pairs = ps.pairs ++ [(name, value)] := by
  rw [pairs, items_addText_of_absent h, List.filterMap_append]
  rfl

theorem areTexts_addText_of_absent {ps : Params} {name : String} (h : ps.get? name = none)
    (value : String) : (ps.addText name value).areTexts = ps.areTexts := by
  rw [areTexts, items_addText_of_absent h, List.all_append]
  simp [areTexts, Param.isText, Param.text?]

theorem mem_place {p q : Param} {items : List Param} (h : q ∈ place p items) :
    q = p ∨ q ∈ items := by
  induction items with
  | nil => simpa [place] using h
  | cons r rest ih =>
    by_cases same : r.name = p.name
    · simp only [place, same, if_true, List.mem_cons] at h
      exact h.imp_right fun hq => by simp [hq]
    · simp only [place, same, if_false, List.mem_cons] at h
      rcases h with rfl | h
      · simp
      · exact (ih h).imp_right fun hq => by simp [hq]

theorem name_of_pair? {p : Param} {pair : String × String} (h : p.pair? = some pair) :
    pair.1 = p.name := by
  obtain ⟨text, -, rfl⟩ := Option.map_eq_some_iff.mp h
  rfl

theorem mem_place_self (p : Param) (items : List Param) : p ∈ place p items := by
  induction items with
  | nil => simp [place]
  | cons q rest ih => by_cases same : q.name = p.name <;> simp [place, same, ih]

theorem mem_place_of_ne {p q : Param} (other : q.name ≠ p.name) {items : List Param}
    (h : q ∈ items) : q ∈ place p items := by
  induction items with
  | nil => cases h
  | cons r rest ih =>
    rcases List.mem_cons.mp h with rfl | h
    · simp [place, other]
    · by_cases same : r.name = p.name <;> simp [place, same, h, ih h]

theorem mem_pairs_addText (ps : Params) (name value : String) :
    (name, value) ∈ (ps.addText name value).pairs :=
  List.mem_filterMap.mpr ⟨⟨name, .text value⟩, mem_place_self _ _, rfl⟩

theorem mem_pairs_addText_of_ne {ps : Params} {p : String × String} {name : String}
    (other : p.1 ≠ name) (h : p ∈ ps.pairs) (value : String) :
    p ∈ (ps.addText name value).pairs := by
  obtain ⟨q, hq, pair⟩ := List.mem_filterMap.mp h
  rw [name_of_pair? pair] at other
  exact List.mem_filterMap.mpr ⟨q, mem_place_of_ne other hq, pair⟩

theorem areTexts_addText {ps : Params} (h : ps.areTexts = true) (name value : String) :
    (ps.addText name value).areTexts = true := by
  apply List.all_eq_true.mpr
  intro q hq
  rcases mem_place hq with rfl | hq
  · rfl
  · exact List.all_eq_true.mp h q hq

@[simp] theorem pair?_text (name s : String) : Param.pair? ⟨name, .text s⟩ = some (name, s) := rfl

@[simp] theorem pair?_binary (name : String) (content : Bytes) (type : String)
    (file : Option String) : Param.pair? ⟨name, .binary content type file⟩ = none := rfl

@[simp] theorem isText_text (name s : String) : Param.isText ⟨name, .text s⟩ = true := rfl

@[simp] theorem isText_binary (name : String) (content : Bytes) (type : String)
    (file : Option String) : Param.isText ⟨name, .binary content type file⟩ = false := rfl

theorem name_ne_of_mem_pairs {ps : Params} {name : String} (h : ps.get? name = none)
    {p : String × String} (hp : p ∈ ps.pairs) : p.1 ≠ name := by
  obtain ⟨q, hq, eq⟩ := List.mem_filterMap.mp hp
  rw [name_of_pair? eq]
  exact get?_eq_none_iff.mp h q hq

/-- What is taken and what is kept is everything. -/
theorem pairs_drain_perm (ps : Params) (p : Param → Bool) :
    ((ps.drain p).1.filterMap Param.pair? ++ (ps.drain p).2.pairs).Perm ps.pairs := by
  have whole := (List.filter_append_perm p ps.items).filterMap Param.pair?
  rwa [List.filterMap_append] at whole

/-- Texts chosen by their names are pairs chosen by their names. -/
theorem filterMap_filter_name (named : String → Bool) (items : List Param) :
    (items.filter fun p => p.isText && named p.name).filterMap Param.pair? =
      (items.filterMap Param.pair?).filter fun pair => named pair.1 := by
  induction items with
  | nil => rfl
  | cons p items ih =>
    obtain ⟨name, value⟩ := p
    cases value with
    | binary content type file =>
      rw [List.filterMap_cons_none (pair?_binary ..)]
      simpa using ih
    | text s => by_cases hn : named name = true <;> simp [hn, ih]

/-- Without the texts of some names, the pairs of the other names are left. -/
theorem filterMap_filter_not_name (named : String → Bool) (items : List Param) :
    (items.filter fun p => !(p.isText && named p.name)).filterMap Param.pair? =
      (items.filterMap Param.pair?).filter fun pair => !named pair.1 := by
  induction items with
  | nil => rfl
  | cons p items ih =>
    obtain ⟨name, value⟩ := p
    cases value with
    | binary content type file =>
      rw [List.filter_cons_of_pos (by simp), List.filterMap_cons_none (pair?_binary ..),
        List.filterMap_cons_none (pair?_binary ..), ih]
    | text s => by_cases hn : named name = true <;> simp [hn, ← ih]

/-- Pairs chosen by their names are those of the parameters chosen by their names. -/
theorem filterMap_pair?_filter (named : String → Bool) (items : List Param) :
    (items.filter (named ·.name)).filterMap Param.pair? =
      (items.filterMap Param.pair?).filter (named ·.1) := by
  induction items with
  | nil => rfl
  | cons p items ih =>
    cases pair : p.pair? with
    | none => by_cases hn : named p.name = true <;> simp [hn, pair, ih]
    | some own =>
      have same := name_of_pair? pair
      by_cases hn : named p.name = true <;> simp [hn, pair, ih, same]

theorem pairs_filter_name (ps : Params) (name : String) :
    ps.pairs.filter (·.1 = name) = ((ps.get? name).bind Param.pair?).toList := by
  rw [pairs, ← filterMap_pair?_filter (· = name), filter_name]
  cases ps.get? name with
  | none => rfl
  | some p => cases pair : p.pair? <;> simp [pair]

theorem get?_of_mem_pairs {ps : Params} {pair : String × String} (h : pair ∈ ps.pairs) :
    (ps.get? pair.1).bind Param.pair? = some pair := by
  have mem : pair ∈ ps.pairs.filter (·.1 = pair.1) := List.mem_filter.mpr ⟨h, by simp⟩
  rw [pairs_filter_name, Option.mem_toList] at mem
  exact mem

theorem areTexts_drain {ps : Params} {p : Param → Bool} (h : ∀ q, p q = true → q.isText = true) :
    (ps.drain p).2.areTexts = ps.areTexts := by
  have every : ∀ items : List Param,
      (items.filter (!p ·)).all (·.isText) = items.all (·.isText) := by
    intro items
    induction items with
    | nil => rfl
    | cons q items ih =>
      by_cases hq : p q = true
      · simp [hq, h q hq, ih]
      · simp [hq, ih]
  exact every ps.items

section
variable (named : String → Bool) {name : String}

theorem filter_place {p : Param} (h : named p.name = true) (items : List Param) :
    (place p items).filter (named ·.name) = place p (items.filter (named ·.name)) := by
  induction items with
  | nil => simp [place, h]
  | cons q items ih =>
    by_cases same : q.name = p.name
    · simp [place, same, h]
    · by_cases hq : named q.name = true <;> simp [place, same, hq, ih]

theorem filter_place_of_not {p : Param} (h : named p.name = false) (items : List Param) :
    (place p items).filter (named ·.name) = items.filter (named ·.name) := by
  induction items with
  | nil => simp [place, h]
  | cons q items ih =>
    by_cases same : q.name = p.name
    · simp [place, same, h]
    · by_cases hq : named q.name = true <;> simp [place, same, hq, ih]

theorem filter_addText (h : named name = true) (ps : Params) (value : String) :
    (ps.addText name value).filter (named ·.name) =
      (ps.filter (named ·.name)).addText name value :=
  (mk.injEq ..).mpr (filter_place named (p := ⟨name, .text value⟩) h ps.items)

theorem get?_filter (h : named name = true) (ps : Params) :
    (ps.filter (named ·.name)).get? name = ps.get? name := by
  have own : ∀ q : Param, (named q.name = true ∧ q.name = name) ↔ q.name = name := by
    intro q
    by_cases same : q.name = name <;> simp [same, h]
  simp only [get?, filter, List.find?_filter, decide_eq_true_eq, own]

end

theorem filter_of_get?_none {ps : Params} {name : String} (h : ps.get? name = none) :
    ps.filter (·.name ≠ name) = ps := by
  refine (mk.injEq ..).mpr (List.filter_eq_self.mpr fun q hq => ?_)
  simpa using get?_eq_none_iff.mp h q hq

/-- The parameter of a name and the others are everything. -/
theorem perm_of_get? {ps : Params} {name : String} {p : Param} (h : ps.get? name = some p) :
    (p :: (ps.filter (·.name ≠ name)).items).Perm ps.items := by
  obtain ⟨-, before, after, items, -⟩ := List.find?_eq_some_iff_append.mp h
  have same := name_of_get? h
  have distinct := ps.distinct
  rw [items, List.map_append, List.map_cons, same, List.perm_middle.nodup_iff, List.nodup_cons,
    ← List.map_append] at distinct
  have kept : (before ++ after).filter (·.name ≠ name) = before ++ after := by
    refine List.filter_eq_self.mpr fun q hq => decide_eq_true ?_
    rintro rfl
    exact distinct.1 (List.mem_map_of_mem hq)
  have others : (ps.filter (·.name ≠ name)).items = before ++ after := by
    have unfolded : (ps.filter (·.name ≠ name)).items = ps.items.filter (·.name ≠ name) := rfl
    rw [unfolded, items, List.filter_append, List.filter_cons_of_neg (by simp [same]),
      ← List.filter_append, kept]
  rw [others, items]
  exact List.perm_middle.symm

end SignedRest.Params

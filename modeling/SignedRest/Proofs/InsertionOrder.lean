import Mathlib.Data.List.Induction
import Mathlib.Data.List.Nodup
import SignedRest.Proofs.Parameters

/-! Parameters as a map in the order of insertion. Whatever is done to them, what is found under a
name is what was last added and has not been taken out since, and the names come in the order in
which they have been there since. Everything rests on each name being there once: only then is the
first match for reading, replacing and removing the only one. -/
namespace SignedRest

section
variable {Edit α : Type} {adds : Edit → Option α} {ends : Edit → α → Prop}

/-- What one of the edits added and no later one has ended. -/
def Latest (adds : Edit → Option α) (ends : Edit → α → Prop) (edits : List Edit) (a : α) : Prop :=
  ∃ before x after, edits = before ++ x :: after ∧ adds x = some a ∧ ∀ y ∈ after, ¬ ends y a

theorem not_latest_nil (a : α) : ¬ Latest adds ends [] a := by
  rintro ⟨before, x, after, split, -⟩
  simp at split

theorem latest_concat_iff {edits : List Edit} {x : Edit} {a : α} :
    Latest adds ends (edits ++ [x]) a ↔
      adds x = some a ∨ Latest adds ends edits a ∧ ¬ ends x a := by
  constructor
  · rintro ⟨before, y, after, split, added, lasting⟩
    rcases List.eq_nil_or_concat after with rfl | ⟨after, z, rfl⟩
    · obtain ⟨-, last⟩ := List.append_inj' split rfl
      obtain ⟨rfl, -⟩ := List.cons.inj last
      exact .inl added
    · rw [List.concat_eq_append] at split lasting
      rw [← List.cons_append, ← List.append_assoc] at split
      obtain ⟨rfl, last⟩ := List.append_inj' split rfl
      obtain ⟨rfl, -⟩ := List.cons.inj last
      exact .inr ⟨⟨before, y, after, rfl, added, fun w hw => lasting w (by simp [hw])⟩,
        lasting x (by simp)⟩
  · rintro (added | ⟨⟨before, y, after, rfl, added, lasting⟩, spared⟩)
    · exact ⟨edits, x, [], rfl, added, by simp⟩
    · refine ⟨before, y, after ++ [x], by simp, added, fun w hw => ?_⟩
      rcases List.mem_append.mp hw with hw | hw
      · exact lasting w hw
      · rwa [List.mem_singleton.mp hw]

/-- A state in which each edit puts what it adds, and from which it takes what it ends, has what
the edits leave. -/
theorem foldl_iff_latest {σ : Type} (step : σ → Edit → σ) (has : σ → α → Prop)
    (one : ∀ s x a, has (step s x) a ↔ adds x = some a ∨ has s a ∧ ¬ ends x a) {start : σ}
    (empty : ∀ a, ¬ has start a) (edits : List Edit) (a : α) :
    has (edits.foldl step start) a ↔ Latest adds ends edits a := by
  induction edits using List.reverseRecOn with
  | nil => exact iff_of_false (empty a) (not_latest_nil a)
  | append_singleton edits x ih =>
    rw [List.foldl_append, latest_concat_iff, ← ih]
    exact one ..

end

namespace Params

inductive Edit
  | add (p : Param)
  | addText (name value : String)
  | remove (name : String)
  | drain (takes : Param → Bool)

namespace Edit

def perform : Edit → Params → Params
  | add p, ps => ps.add p
  | addText name value, ps => ps.addText name value
  | remove name, ps => (ps.remove name).2
  | drain takes, ps => (ps.drain takes).2

/-- The same on a list of parameters of which nothing is known. -/
def onList : Edit → List Param → List Param
  | add p, items => place p items
  | addText name value, items => place ⟨name, .text value⟩ items
  | remove name, items => items.eraseP (·.name = name)
  | drain takes, items => items.filter (!takes ·)

def added? : Edit → Option Param
  | add p => some p
  | addText name value => some ⟨name, .text value⟩
  | _ => none

def Ends : Edit → Param → Prop
  | add q, p => q.name = p.name
  | addText name _, p => name = p.name
  | remove name, p => name = p.name
  | drain takes, p => takes p = true

theorem items_perform (x : Edit) (ps : Params) : (x.perform ps).items = x.onList ps.items := by
  cases x <;> rfl

end Edit

def run (edits : List Edit) (ps : Params) : Params := edits.foldl (fun ps x => x.perform ps) ps

theorem run_concat (edits : List Edit) (x : Edit) (ps : Params) :
    run (edits ++ [x]) ps = x.perform (run edits ps) := by
  rw [run, List.foldl_append]
  rfl

theorem run_append (first second : List Edit) (ps : Params) :
    run (first ++ second) ps = run second (run first ps) := List.foldl_append ..

theorem ofList_eq_run (list : List Param) : ofList list = run (list.map .add) empty := by
  rw [ofList, run, List.foldl_map]
  rfl

theorem items_run (edits : List Edit) (ps : Params) :
    (run edits ps).items = edits.foldl (fun items x => x.onList items) ps.items := by
  induction edits generalizing ps with
  | nil => rfl
  | cons x edits ih => exact (ih (x.perform ps)).trans (by rw [x.items_perform]; rfl)

section
variable {items : List Param} {name : String}

theorem name_ne_of_nodup {q : Param} (distinct : ((q :: items).map (·.name)).Nodup)
    (own : q.name = name) : ∀ r ∈ items, r.name ≠ name := by
  rintro r hr rfl
  exact (List.nodup_cons.mp distinct).1 (List.mem_map.mpr ⟨r, hr, own.symm⟩)

theorem eraseP_name (distinct : (items.map (·.name)).Nodup) :
    items.eraseP (·.name = name) = items.filter (·.name ≠ name) := by
  induction items with
  | nil => rfl
  | cons q rest ih =>
    by_cases own : q.name = name
    · have others : rest.filter (·.name ≠ name) = rest :=
        List.filter_eq_self.mpr fun r hr => decide_eq_true (name_ne_of_nodup distinct own r hr)
      simp only [ne_eq, decide_not] at others
      simp [own, others]
    · simpa [own] using ih (List.nodup_cons.mp distinct).2

/-- A parameter that is added stands where the one of its name stood; nothing else changes. -/
theorem place_of_present {p : Param} (distinct : (items.map (·.name)).Nodup)
    (present : p.name ∈ items.map (·.name)) :
    place p items = items.map fun q => if q.name = p.name then p else q := by
  induction items with
  | nil => simp at present
  | cons q rest ih =>
    by_cases own : q.name = p.name
    · have others : rest.map (fun r => if r.name = p.name then p else r) = rest :=
        (List.map_congr_left fun r hr => if_neg (name_ne_of_nodup distinct own r hr)).trans
          (List.map_id rest)
      simp [place, own, others]
    · have later : p.name ∈ rest.map (·.name) := by simpa [Ne.symm own] using present
      simp [place, own, ih (List.nodup_cons.mp distinct).2 later]

theorem mem_place_iff {p q : Param} (distinct : (items.map (·.name)).Nodup) :
    q ∈ place p items ↔ q = p ∨ q ∈ items ∧ p.name ≠ q.name := by
  refine ⟨fun h => ?_, fun h => ?_⟩
  · by_cases same : p.name = q.name
    · exact .inl (List.inj_on_of_nodup_map (nodup_place p distinct) h (mem_place_self p items)
        same.symm)
    · exact (mem_place h).imp_right fun hq => ⟨hq, same⟩
  · rcases h with rfl | ⟨hq, other⟩
    · exact mem_place_self q items
    · exact mem_place_of_ne (Ne.symm other) hq

end

/-- An edit leaves what it does not end, and what it adds. -/
theorem mem_perform {x : Edit} {ps : Params} {q : Param} :
    q ∈ (x.perform ps).items ↔ x.added? = some q ∨ q ∈ ps.items ∧ ¬ x.Ends q := by
  rw [x.items_perform]
  cases x with
  | add p =>
    simp only [Edit.onList, Edit.added?, Edit.Ends, mem_place_iff ps.distinct, Option.some.injEq,
      eq_comm, ne_eq]
  | addText name value =>
    simp only [Edit.onList, Edit.added?, Edit.Ends, mem_place_iff ps.distinct, Option.some.injEq,
      eq_comm, ne_eq]
  | remove name =>
    rw [Edit.onList, eraseP_name ps.distinct, List.mem_filter, decide_eq_true_eq, ne_comm]
    simp [Edit.added?, Edit.Ends]
  | drain takes => simp [Edit.onList, Edit.added?, Edit.Ends]

/-- The names after an edit are some of those before it, or one more. -/
theorem names_perform (x : Edit) (ps : Params) :
    ((x.perform ps).items.map (·.name)).Sublist (ps.items.map (·.name)) ∨
      ∃ p, x.added? = some p ∧ p.name ∉ ps.items.map (·.name) ∧
        (x.perform ps).items.map (·.name) = ps.items.map (·.name) ++ [p.name] := by
  have placed : ∀ p : Param, ((place p ps.items).map (·.name)).Sublist (ps.items.map (·.name)) ∨
      p.name ∉ ps.items.map (·.name) ∧
        (place p ps.items).map (·.name) = ps.items.map (·.name) ++ [p.name] := by
    intro p
    rw [names_place]
    split
    · exact .inl (.refl _)
    · exact .inr ⟨‹_›, rfl⟩
  rw [x.items_perform]
  cases x with
  | add p => exact (placed p).imp_right fun h => ⟨p, rfl, h⟩
  | addText name value => exact (placed ⟨name, .text value⟩).imp_right fun h => ⟨_, rfl, h⟩
  | remove name => exact .inl (List.eraseP_sublist.map _)
  | drain takes => exact .inl (List.filter_sublist.map _)

/-- The parameter is the one that its name was last given, and it has not been taken out since. -/
def Stands (edits : List Edit) (p : Param) : Prop := Latest Edit.added? Edit.Ends edits p

def Present (edits : List Edit) (name : String) : Prop := ∃ p, Stands edits p ∧ p.name = name

/-- The edit of this place added a name that was not there, and that has been there since. -/
structure Entered (edits : List Edit) (i : Nat) (name : String) : Prop where
  inside : i < edits.length
  before : ¬ Present (edits.take i) name
  since : ∀ j, i < j → j ≤ edits.length → Present (edits.take j) name

theorem mem_run {edits : List Edit} {p : Param} :
    p ∈ (run edits empty).items ↔ Stands edits p :=
  foldl_iff_latest (fun ps x => x.perform ps) (fun ps q => q ∈ ps.items)
    (fun _ _ _ => mem_perform) (fun _ => List.not_mem_nil) edits p

theorem mem_names_run {edits : List Edit} {name : String} :
    name ∈ (run edits empty).items.map (·.name) ↔ Present edits name := by
  simp only [List.mem_map, mem_run, Present]

section
variable {edits : List Edit} {x : Edit} {name : String} {i j : Nat}

theorem Entered.unique (first : Entered edits i name) (second : Entered edits j name) : i = j := by
  rcases Nat.lt_trichotomy i j with less | same | less
  · exact absurd (first.since j less (Nat.le_of_lt second.inside)) second.before
  · exact same
  · exact absurd (second.since i less (Nat.le_of_lt first.inside)) first.before

theorem Entered.concat (h : Entered edits i name) (still : Present (edits ++ [x]) name) :
    Entered (edits ++ [x]) i name := by
  refine ⟨by simp [Nat.lt_succ_of_lt h.inside], ?_, fun j less most => ?_⟩
  · rw [List.take_append_of_le_length (Nat.le_of_lt h.inside)]
    exact h.before
  · rcases Nat.lt_or_eq_of_le most with short | rfl
    · rw [List.length_append, List.length_singleton, Nat.lt_succ_iff] at short
      rw [List.take_append_of_le_length short]
      exact h.since j less short
    · rwa [List.take_length]

theorem entered_concat (absent : ¬ Present edits name) (now : Present (edits ++ [x]) name) :
    Entered (edits ++ [x]) edits.length name := by
  refine ⟨by simp, ?_, fun j less most => ?_⟩
  · rwa [List.take_append_of_le_length (Nat.le_refl _), List.take_length]
  · have last : j = (edits ++ [x]).length := by
      rw [List.length_append, List.length_singleton] at most ⊢
      omega
    rwa [last, List.take_length]

end

/-- One name has been there for longer than the other. -/
def EnteredBefore (edits : List Edit) (a b : String) : Prop :=
  ∃ i j, Entered edits i a ∧ Entered edits j b ∧ i < j

/-- The names stand in the order in which they came, and all of them came. -/
theorem entered_run (edits : List Edit) :
    ((run edits empty).items.map (·.name)).Pairwise (EnteredBefore edits) ∧
      ∀ name ∈ (run edits empty).items.map (·.name), ∃ i, Entered edits i name := by
  -- over the edits from the last one on: it takes names out of the order or puts one behind it
  induction edits using List.reverseRecOn with
  | nil => simp [run, empty]
  | append_singleton edits x ih =>
    obtain ⟨order, came⟩ := ih
    have still : ∀ name ∈ (run (edits ++ [x]) empty).items.map (·.name),
        Present (edits ++ [x]) name := fun name => mem_names_run.mp
    have kept : ∀ {name}, name ∈ (run (edits ++ [x]) empty).items.map (·.name) → ∀ {i},
        Entered edits i name → Entered (edits ++ [x]) i name :=
      fun mem _ entered => entered.concat (still _ mem)
    rcases names_perform x (run edits empty) with fewer | ⟨p, added, absent, names⟩
    · rw [← run_concat] at fewer
      refine ⟨(order.sublist fewer).imp_of_mem fun ha hb => ?_, fun name mem => ?_⟩
      · rintro ⟨i, j, first, second, less⟩
        exact ⟨i, j, kept ha first, kept hb second, less⟩
      · obtain ⟨i, entered⟩ := came name (fewer.subset mem)
        exact ⟨i, kept mem entered⟩
    · rw [← run_concat] at names
      rw [mem_names_run] at absent
      rw [names] at still kept ⊢
      have newest := entered_concat absent (still p.name (by simp))
      refine ⟨List.pairwise_append.mpr ⟨order.imp_of_mem fun ha hb => ?_, by simp, ?_⟩, ?_⟩
      · rintro ⟨i, j, first, second, less⟩
        exact ⟨i, j, kept (by simp [ha]) first, kept (by simp [hb]) second, less⟩
      · intro a ha b hb
        obtain ⟨i, entered⟩ := came a ha
        rw [List.mem_singleton.mp hb]
        exact ⟨i, edits.length, kept (List.mem_append_left _ ha) entered, newest, entered.inside⟩
      · intro name mem
        rcases List.mem_append.mp mem with old | new
        · obtain ⟨i, entered⟩ := came name old
          exact ⟨i, kept mem entered⟩
        · exact ⟨edits.length, List.mem_singleton.mp new ▸ newest⟩

/-- Parameters that are what a history says: once each, found as they were last added, in the
order in which they came; and what the next operation makes of them. -/
structure InsertionOrdered (edits : List Edit) (ps : Params) : Prop where
  items : ps.items = edits.foldl (fun items x => x.onList items) []
  distinct : (ps.items.map (·.name)).Nodup
  get : ∀ name p, ps.get? name = some p ↔ Stands edits p ∧ p.name = name
  order : ps.items.Pairwise fun p q => EnteredBefore edits p.name q.name
  entered : ∀ p ∈ ps.items, ∃ i, Entered edits i p.name ∧ ∀ j, Entered edits j p.name → j = i
  added : ∀ p, ps.get? p.name = none → (ps.add p).items = ps.items ++ [p]
  replaced : ∀ p old, ps.get? p.name = some old →
    (ps.add p).items = ps.items.map fun q => if q.name = p.name then p else q
  removed : ∀ name, (ps.remove name).1 = ps.get? name ∧
    (ps.remove name).2.items = ps.items.filter (·.name ≠ name)
  taken : ∀ takes, (ps.drain takes).1.Sublist ps.items ∧
    ∀ p, p ∈ (ps.drain takes).1 ↔ Stands edits p ∧ takes p = true
  left : ∀ takes, (ps.drain takes).2.items.Sublist ps.items ∧
    ∀ p, p ∈ (ps.drain takes).2.items ↔ Stands edits p ∧ takes p = false

theorem get?_eq_some_iff {ps : Params} {name : String} {p : Param} :
    ps.get? name = some p ↔ p ∈ ps.items ∧ p.name = name := by
  rw [← Option.mem_toList, ← filter_name, List.mem_filter, decide_eq_true_eq]

theorem insertionOrdered (edits : List Edit) : InsertionOrdered edits (run edits empty) := by
  obtain ⟨order, came⟩ := entered_run edits
  constructor
  case items => exact items_run edits empty
  case distinct => exact (run edits empty).distinct
  case get =>
    intro name p
    rw [get?_eq_some_iff, mem_run]
  case order => exact List.pairwise_map.mp order
  case entered =>
    intro p mem
    obtain ⟨i, entered⟩ := came p.name (List.mem_map_of_mem mem)
    exact ⟨i, entered, fun j other => other.unique entered⟩
  case added => exact fun p absent => place_of_absent (get?_eq_none_iff.mp absent)
  case replaced =>
    intro p old found
    obtain ⟨mem, same⟩ := get?_eq_some_iff.mp found
    exact place_of_present (run edits empty).distinct (List.mem_map.mpr ⟨old, mem, same⟩)
  case removed => exact fun name => ⟨rfl, eraseP_name (run edits empty).distinct⟩
  case taken =>
    refine fun takes => ⟨List.filter_sublist, fun p => ?_⟩
    rw [← mem_run]
    exact List.mem_filter
  case left =>
    refine fun takes => ⟨List.filter_sublist, fun p => ?_⟩
    rw [← mem_run, ← Bool.not_eq_true']
    exact List.mem_filter

/-- Whatever list parameters are made from, and whatever is then done to them, they are a map in
the order of insertion. -/
theorem run_insertionOrdered (list : List Param) (edits : List Edit) :
    InsertionOrdered (list.map .add ++ edits) (run edits (ofList list)) := by
  rw [ofList_eq_run, ← run_append]
  exact insertionOrdered _

/-- A text that becomes a file keeps its place; one that is taken out comes back at the end. -/
example : (run [.remove "q", .addText "a" "3", .add ⟨"b", .binary [0xFF] "image/png" none⟩,
      .addText "q" "2"] (ofList [⟨"q", .text "1"⟩, ⟨"b", .text "x"⟩])).items =
    [⟨"b", .binary [0xFF] "image/png" none⟩, ⟨"a", .text "3"⟩, ⟨"q", .text "2"⟩] := by decide

end Params
end SignedRest

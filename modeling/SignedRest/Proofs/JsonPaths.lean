import Mathlib.Data.List.Forall2
import SignedRest.Json.Basic

/-! Paths into JSON values. A path is a row of segments, and a longer one is followed from where a
shorter one has led. What a segment means is settled by the value that it is met at: in an object
it is a key, in an array an index, and elsewhere it leads nowhere. -/
namespace SignedRest.Json

/-- A step down. An index is a machine word. -/
inductive Step
  | key (name : String)
  | index (i : UInt64)
  deriving DecidableEq, Repr

/-- Where a step leads: an object has a member for a key, the first of that key, and an array an
item at an index. -/
inductive Leads : Json → Step → Json → Prop
  | member {before after : List (String × Json)} {name : String} {v : Json}
      (first : name ∉ before.map (·.1)) :
      Leads (.object (before ++ (name, v) :: after)) (.key name) v
  | item {items : List Json} {i : UInt64} {v : Json} (there : items[i.toNat]? = some v) :
      Leads (.array items) (.index i) v

inductive Descends : Json → List Step → Json → Prop
  | here (v : Json) : Descends v [] v
  | down {root v w : Json} {step : Step} {rest : List Step} (first : Leads root step v)
      (more : Descends v rest w) : Descends root (step :: rest) w

namespace Step

def text : Step → String
  | key name => name
  | index i => toString i.toNat

/-- The steps that a segment can stand for. -/
inductive Reads : Step → String → Prop
  | key (name : String) : Reads (.key name) name
  | index {i : UInt64} {segment : String} (digits : Decimal.Spells segment.toList i.toNat) :
      Reads (.index i) segment

theorem reads_text (step : Step) : step.Reads step.text := by
  cases step with
  | key name => exact .key name
  | index i =>
    refine .index ⟨Nat.toDigits 10 i.toNat, .inl Nat.toList_repr, Nat.toDigits_ne_nil, ?_, ?_⟩
    · exact List.all_eq_true.mpr fun c mem =>
        Nat.isDigit_of_mem_toDigits (by decide) (by decide) mem
    · have value := Nat.ofDigitChars_toDigits (b := 10) (n := i.toNat) (by decide) (by decide)
      simpa [Nat.ofDigitChars_eq_foldl, Decimal.ofDigits, Nat.mul_comm] using value

end Step

def isScalar : Json → Bool
  | .array _ | .object _ => false
  | _ => true

/-- Why a segment leads nowhere. -/
inductive Stuck : Json → String → Prop
  | missing {members : List (String × Json)} {segment : String}
      (absent : segment ∉ members.map (·.1)) : Stuck (.object members) segment
  | unreadable {items : List Json} {segment : String}
      (foreign : ∀ i : UInt64, ¬ Decimal.Spells segment.toList i.toNat) :
      Stuck (.array items) segment
  | outside {items : List Json} {segment : String} {i : UInt64}
      (digits : Decimal.Spells segment.toList i.toNat) (beyond : items.length ≤ i.toNat) :
      Stuck (.array items) segment
  | scalar {v : Json} {segment : String} (scalar : v.isScalar = true) : Stuck v segment

theorem member?_object (members : List (String × Json)) (name : String) :
    (Json.object members).member? name = (members.find? (·.1 == name)).map (·.2) := rfl

theorem member?_eq_some_iff {members : List (String × Json)} {name : String} {v : Json} :
    (Json.object members).member? name = some v ↔
      ∃ before after, members = before ++ (name, v) :: after ∧ name ∉ before.map (·.1) := by
  simp only [member?_object, Option.map_eq_some_iff, List.find?_eq_some_iff_append]
  constructor
  · rintro ⟨⟨key, _⟩, ⟨same, before, after, rfl, others⟩, rfl⟩
    obtain rfl : key = name := by simpa using same
    refine ⟨before, after, rfl, fun mem => ?_⟩
    obtain ⟨m, mem, same⟩ := List.mem_map.mp mem
    simpa [same] using others m mem
  · rintro ⟨before, after, rfl, first⟩
    refine ⟨(name, v), ⟨by simp, before, after, rfl, ?_⟩, rfl⟩
    intro m mem
    have other : m.1 ≠ name := fun same => first (List.mem_map.mpr ⟨m, mem, same⟩)
    simpa using other

theorem member?_eq_none_iff {members : List (String × Json)} {name : String} :
    (Json.object members).member? name = none ↔ name ∉ members.map (·.1) := by
  simp only [member?_object, Option.map_eq_none_iff, List.find?_eq_none, beq_iff_eq, List.mem_map,
    not_exists, not_and]

theorem index?_eq_some_iff {segment : String} {n : Nat} :
    index? segment = some n ↔ ∃ i : UInt64, i.toNat = n ∧ Decimal.Spells segment.toList n := by
  rw [index?, Decimal.unsigned?_eq_some_iff]
  constructor
  · rintro ⟨digits, small⟩
    exact ⟨UInt64.ofNat n, UInt64.toNat_ofNat_of_lt' small, digits⟩
  · rintro ⟨i, rfl, digits⟩
    exact ⟨digits, i.toNat_lt⟩

theorem descend_eq_some_iff {v w : Json} {segment : String} :
    descend v segment = some w ↔ ∃ step : Step, step.Reads segment ∧ Leads v step w := by
  constructor
  · intro h
    cases v with
    | object members =>
      obtain ⟨before, after, rfl, first⟩ := member?_eq_some_iff.mp h
      exact ⟨.key segment, .key segment, .member first⟩
    | array items =>
      obtain ⟨n, read, there⟩ := Option.bind_eq_some_iff.mp h
      obtain ⟨i, rfl, digits⟩ := index?_eq_some_iff.mp read
      exact ⟨.index i, .index digits, .item there⟩
    | _ => cases h
  · rintro ⟨step, reads, leads⟩
    cases leads with
    | member first =>
      cases reads with
      | key name => exact member?_eq_some_iff.mpr ⟨_, _, rfl, first⟩
    | item there =>
      cases reads with
      | index digits =>
        have read := index?_eq_some_iff.mpr ⟨_, rfl, digits⟩
        simp [descend, read, there]

theorem descend_eq_none_iff {v : Json} {segment : String} :
    descend v segment = none ↔ Stuck v segment := by
  constructor
  · intro h
    cases v with
    | object members => exact .missing (member?_eq_none_iff.mp h)
    | array items =>
      cases read : index? segment with
      | none =>
        refine .unreadable fun i digits => ?_
        rw [index?_eq_some_iff.mpr ⟨i, rfl, digits⟩] at read
        cases read
      | some n =>
        obtain ⟨i, rfl, digits⟩ := index?_eq_some_iff.mp read
        simp only [descend, read, Option.bind_some, List.getElem?_eq_none_iff] at h
        exact .outside digits h
    | _ => exact .scalar rfl
  · intro h
    cases h with
    | missing absent => exact member?_eq_none_iff.mpr absent
    | unreadable foreign =>
      cases read : index? segment with
      | none => simp [descend, read]
      | some n =>
        obtain ⟨i, rfl, digits⟩ := index?_eq_some_iff.mp read
        exact absurd digits (foreign i)
    | outside digits beyond =>
      have read := index?_eq_some_iff.mpr ⟨_, rfl, digits⟩
      simp [descend, read, beyond]
    | scalar scalar => cases v <;> first | rfl | cases scalar

theorem descends_nil_iff {v w : Json} : Descends v [] w ↔ v = w := by
  constructor
  · rintro ⟨⟩
    rfl
  · rintro rfl
    exact .here v

theorem descends_cons_iff {root w : Json} {step : Step} {rest : List Step} :
    Descends root (step :: rest) w ↔ ∃ v, Leads root step v ∧ Descends v rest w := by
  constructor
  · rintro ⟨⟩
    exact ⟨_, ‹_›, ‹_›⟩
  · rintro ⟨v, first, more⟩
    exact .down first more

/-- Segments read as steps lead from one value to another. -/
def Reaches (root : Json) (segments : List String) (v : Json) : Prop :=
  ∃ steps : List Step, List.Forall₂ Step.Reads steps segments ∧ Descends root steps v

theorem reaches_nil_iff {v w : Json} : Reaches v [] w ↔ v = w := by
  simp [Reaches, descends_nil_iff]

theorem reaches_cons_iff {root w : Json} {segment : String} {rest : List String} :
    Reaches root (segment :: rest) w ↔
      ∃ v, descend root segment = some v ∧ Reaches v rest w := by
  simp only [Reaches, List.forall₂_cons_right_iff, descend_eq_some_iff]
  constructor
  · rintro ⟨_, ⟨step, steps, reads, more, rfl⟩, descends⟩
    obtain ⟨v, leads, below⟩ := descends_cons_iff.mp descends
    exact ⟨v, ⟨step, reads, leads⟩, steps, more, below⟩
  · rintro ⟨v, ⟨step, reads, leads⟩, steps, more, below⟩
    exact ⟨step :: steps, ⟨step, steps, reads, more, rfl⟩, descends_cons_iff.mpr ⟨v, leads, below⟩⟩

theorem Descends.reaches {root v : Json} {steps : List Step} (h : Descends root steps v) :
    Reaches root (steps.map Step.text) v := by
  refine ⟨steps, ?_, h⟩
  rw [List.forall₂_map_right_iff, List.forall₂_same]
  exact fun step _ => step.reads_text

theorem foldlM_descend_eq_some_iff {root v : Json} {segments : List String} :
    segments.foldlM descend root = some v ↔ Reaches root segments v := by
  induction segments generalizing root with
  | nil => simp [reaches_nil_iff]
  | cons segment rest ih => simp [reaches_cons_iff, Option.bind_eq_some_iff, ih]

/-- Segments that lead nowhere lead to a value at which the next one is stuck. -/
theorem foldlM_descend_eq_none_iff {root : Json} {segments : List String} :
    segments.foldlM descend root = none ↔ ∃ before segment after v,
      segments = before ++ segment :: after ∧ Reaches root before v ∧ Stuck v segment := by
  -- the first segment is stuck at the root, or leads to a value that the others start from
  induction segments generalizing root with
  | nil => simp
  | cons segment rest ih =>
    cases next : descend root segment with
    | none =>
      simp only [List.foldlM_cons, next, Option.bind_eq_bind, Option.bind_none, true_iff]
      exact ⟨[], segment, rest, root, rfl, reaches_nil_iff.mpr rfl, descend_eq_none_iff.mp next⟩
    | some v =>
      simp only [List.foldlM_cons, next, Option.bind_eq_bind, Option.bind_some, ih]
      constructor
      · rintro ⟨before, failing, after, u, rfl, reaches, stuck⟩
        exact ⟨segment :: before, failing, after, u, rfl, reaches_cons_iff.mpr ⟨v, next, reaches⟩,
          stuck⟩
      · rintro ⟨before, failing, after, u, split, reaches, stuck⟩
        cases before with
        | nil =>
          obtain ⟨rfl, -⟩ := List.cons.inj split
          obtain rfl := reaches_nil_iff.mp reaches
          rw [descend_eq_none_iff.mpr stuck] at next
          cases next
        | cons first before =>
          obtain ⟨rfl, rfl⟩ := List.cons.inj split
          obtain ⟨w, step, below⟩ := reaches_cons_iff.mp reaches
          rw [next] at step
          cases step
          exact ⟨before, failing, after, u, rfl, below, stuck⟩

theorem segments_append (a b : String) : segments (a ++ "/" ++ b) = segments a ++ segments b := by
  simp [segments, List.splitOn_append_cons_self]

@[simp] theorem segments_empty : segments "" = [] := by
  simp [segments]

def slashes (n : Nat) : String := String.ofList (List.replicate n '/')

theorem slashes_succ (n : Nat) : slashes (n + 1) = "" ++ "/" ++ slashes n := by
  simp [slashes, List.replicate_succ, String.ofList_cons]

theorem slashes_succ' (n : Nat) : slashes (n + 1) = slashes n ++ "/" := by
  simp [slashes, List.replicate_succ', String.ofList_append]

@[simp] theorem segments_slashes (n : Nat) : segments (slashes n) = [] := by
  induction n with
  | zero => simp [slashes]
  | succ n ih => rw [slashes_succ, segments_append, segments_empty, ih, List.nil_append]

theorem segments_slashes_append (n : Nat) (a : String) :
    segments (slashes n ++ a) = segments a := by
  cases n with
  | zero => simp [slashes]
  | succ n => rw [slashes_succ', segments_append, segments_slashes, List.nil_append]

theorem segments_append_slashes (a : String) (n : Nat) :
    segments (a ++ slashes n) = segments a := by
  cases n with
  | zero => simp [slashes]
  | succ n =>
    rw [slashes_succ, String.empty_append, ← String.append_assoc, segments_append,
      segments_slashes, List.append_nil]

def IsSegment (s : String) : Prop := s ≠ "" ∧ '/' ∉ s.toList

instance (s : String) : Decidable (IsSegment s) := inferInstanceAs (Decidable (_ ∧ _))

theorem isSegment_text_index (i : UInt64) : IsSegment (Step.index i).text := by
  have digits : (Step.index i).text.toList = Nat.toDigits 10 i.toNat := Nat.toList_repr
  constructor
  · intro empty
    rw [empty] at digits
    exact Nat.toDigits_ne_nil digits.symm
  · intro mem
    rw [digits] at mem
    exact absurd (Nat.isDigit_of_mem_toDigits (by decide) (by decide) mem) (by decide)

def path (segments : List String) : String := "/".intercalate segments

/-- Pieces between slashes are the segments, but for the empty ones. -/
theorem segments_path {pieces : List String} (free : ∀ s ∈ pieces, '/' ∉ s.toList) :
    segments (path pieces) = pieces.filter (· ≠ "") := by
  by_cases bare : pieces = []
  · simp [bare, path]
  · have cut : (['/'].intercalate (pieces.map String.toList)).splitOn '/' =
        pieces.map String.toList := by
      refine List.splitOn_intercalate '/' ?_ (by simpa using bare)
      simpa using free
    have slash : "/".toList = ['/'] := by simp
    have kept : ∀ s : String, (!s.toList.isEmpty) = decide (s ≠ "") := by
      intro s
      by_cases empty : s = "" <;> simp [empty]
    rw [segments, path, String.toList_intercalate, slash, cut, List.filter_map, List.map_map]
    simp [Function.comp_def, kept]

theorem lookup_append (root : Json) (a b : String) :
    lookup root (a ++ "/" ++ b) = (lookup root a).bind (lookup · b) := by
  simp only [lookup, segments_append, List.foldlM_append]
  rfl

/-- A path is followed piece by piece, however many slashes stand between, before and behind the
pieces. A row of keys and indices leads to the same value as its path does, and where a path leads
nowhere there is a value at which a segment is stuck. -/
theorem lookup_paths (root : Json) :
    (∀ a b, lookup root (a ++ "/" ++ b) = (lookup root a).bind (lookup · b)) ∧
    (∀ a b n, lookup root (a ++ slashes (n + 1) ++ b) = lookup root (a ++ "/" ++ b) ∧
      lookup root (slashes n ++ a) = lookup root a ∧
      lookup root (a ++ slashes n) = lookup root a) ∧
    (∀ steps v, Descends root steps v → (∀ name, .key name ∈ steps → IsSegment name) →
      lookup root (path (steps.map Step.text)) = some v) ∧
    ∀ pieces : List String, (∀ s ∈ pieces, '/' ∉ s.toList) →
      (∀ v, lookup root (path pieces) = some v ↔ Reaches root (pieces.filter (· ≠ "")) v) ∧
      (lookup root (path pieces) = none ↔ ∃ before segment after v,
        pieces.filter (· ≠ "") = before ++ segment :: after ∧ Reaches root before v ∧
          Stuck v segment) := by
  refine ⟨lookup_append root, ?_, ?_, ?_⟩
  · intro a b n
    refine ⟨?_, ?_, ?_⟩
    · rw [slashes_succ', ← String.append_assoc, lookup, segments_append, segments_append_slashes,
        lookup, segments_append]
    · rw [lookup, segments_slashes_append, lookup]
    · rw [lookup, segments_append_slashes, lookup]
  · intro steps v descends sound
    have plain : ∀ s ∈ steps.map Step.text, IsSegment s := by
      intro s mem
      obtain ⟨step, among, rfl⟩ := List.mem_map.mp mem
      cases step with
      | key name => exact sound name among
      | index i => exact isSegment_text_index i
    have whole : (steps.map Step.text).filter (· ≠ "") = steps.map Step.text :=
      List.filter_eq_self.mpr fun s mem => by simpa using (plain s mem).1
    rw [lookup, segments_path fun s mem => (plain s mem).2, whole, foldlM_descend_eq_some_iff]
    exact descends.reaches
  · intro pieces free
    simp only [lookup, segments_path free]
    exact ⟨fun _ => foldlM_descend_eq_some_iff, foldlM_descend_eq_none_iff⟩

def keyedZero : Json := .object [("0", .array [.string "first", .object [("0", .null)]])]

theorem keyedZero_paths :
    Descends keyedZero [.key "0", .index 1, .key "0"] .null ∧
      lookup keyedZero "0/1/0" = some .null ∧
      Reaches keyedZero ["0", "+01"] (.object [("0", .null)]) ∧
      lookup keyedZero "/0//+01/" = some (.object [("0", .null)]) ∧
      lookup keyedZero "0/2" = none := by
  obtain ⟨-, -, down, rows⟩ := lookup_paths keyedZero
  have items : Leads keyedZero (.key "0") (.array [.string "first", .object [("0", .null)]]) :=
    @Leads.member [] [] "0" _ (by simp)
  have one : Leads (.array [.string "first", .object [("0", .null)]]) (.index 1)
      (.object [("0", .null)]) := .item rfl
  have inside : Leads (.object [("0", .null)]) (.key "0") .null :=
    @Leads.member [] [] "0" _ (by simp)
  have steps : Descends keyedZero [.key "0", .index 1, .key "0"] .null :=
    .down items (.down one (.down inside (.here _)))
  have reaches : Reaches keyedZero ["0", "+01"] (.object [("0", .null)]) := by
    refine ⟨[.key "0", .index 1], .cons (.key "0") (.cons (.index ?_) .nil),
      .down items (.down one (.here _))⟩
    exact ⟨['0', '1'], .inr (by decide), by decide, by decide, by decide⟩
  have stuck : Stuck (.array [.string "first", .object [("0", .null)]]) "2" :=
    .outside (i := 2) ⟨['2'], .inl (by decide), by decide, by decide, by decide⟩ (by decide)
  refine ⟨steps, ?_, reaches, ?_, ?_⟩
  · exact down _ _ steps (by simpa using (by decide : IsSegment "0"))
  · exact ((rows ["", "0", "", "+01", ""] (by decide)).1 _).mpr reaches
  · refine (rows ["0", "2"] (by decide)).2.mpr ⟨["0"], "2", [], _, rfl, ?_, stuck⟩
    exact ⟨[.key "0"], .cons (.key "0") .nil, .down items (.here _)⟩

end SignedRest.Json

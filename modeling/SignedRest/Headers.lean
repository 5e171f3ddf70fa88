import SignedRest.Text.Ascii

/-! The headers of a call. Names are the same when they differ in ASCII case only; adding a
header again replaces it where it stands, spelling included. -/
namespace SignedRest

structure Headers where
  items : List (String × String)
  distinct : (items.map (Ascii.lower ·.1)).Nodup
  deriving DecidableEq, Repr

namespace Headers

def empty : Headers := ⟨[], by simp⟩

def place (name value : String) : List (String × String) → List (String × String)
  | [] => [(name, value)]
  | (n, v) :: rest =>
    if Ascii.lower n = Ascii.lower name then (name, value) :: rest
    else (n, v) :: place name value rest

theorem names_place (name value : String) (items : List (String × String)) :
    (place name value items).map (Ascii.lower ·.1) =
      if Ascii.lower name ∈ items.map (Ascii.lower ·.1) then items.map (Ascii.lower ·.1)
      else items.map (Ascii.lower ·.1) ++ [Ascii.lower name] := by
  induction items with
  | nil => simp [place]
  | cons q rest ih =>
    obtain ⟨n, v⟩ := q
    by_cases h : Ascii.lower n = Ascii.lower name
    · simp [place, h]
    · have h' : ¬ Ascii.lower name = Ascii.lower n := fun e => h e.symm
      simp only [place, h, if_false, List.map_cons, ih, List.mem_cons, h', false_or]
      split <;> simp

theorem nodup_place (name value : String) {items : List (String × String)}
    (h : (items.map (Ascii.lower ·.1)).Nodup) :
    ((place name value items).map (Ascii.lower ·.1)).Nodup := by
  rw [names_place]
  split
  · exact h
  · rename_i absent
    rw [List.nodup_append]
    refine ⟨h, by simp, ?_⟩
    intro a ha b hb e
    simp only [List.mem_singleton] at hb
    exact absent (hb ▸ e ▸ ha)

def add (hs : Headers) (name value : String) : Headers :=
  ⟨place name value hs.items, nodup_place name value hs.distinct⟩

def remove (hs : Headers) (name : String) : Headers :=
  ⟨hs.items.filter (fun h => !Ascii.sameLetters h.1 name),
    hs.distinct.sublist ((List.filter_sublist ..).map _)⟩

def lookup? (items : List (String × String)) (name : String) : Option String :=
  (items.find? (fun h => Ascii.sameLetters h.1 name)).map (·.2)

def get? (hs : Headers) (name : String) : Option String := lookup? hs.items name

end Headers
end SignedRest

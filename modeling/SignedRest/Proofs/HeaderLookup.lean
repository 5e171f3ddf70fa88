import SignedRest.Call.Basic

/-! Headers looked up after changes, and in the request that is made of them. -/
namespace SignedRest

namespace Headers

theorem lookup?_cons (h : String × String) (rest : List (String × String)) (name : String) :
    lookup? (h :: rest) name =
      if Ascii.sameLetters h.1 name then some h.2 else lookup? rest name := by
  by_cases same : Ascii.sameLetters h.1 name = true <;> simp [lookup?, same]

theorem lookup?_place (name value : String) (items : List (String × String)) :
    lookup? (place name value items) name = some value := by
  induction items with
  | nil => simp [place, lookup?_cons, Ascii.sameLetters]
  | cons h rest ih =>
    by_cases same : Ascii.lower h.1 = Ascii.lower name
    · simp [place, lookup?_cons, Ascii.sameLetters, same]
    · simp [place, lookup?_cons, Ascii.sameLetters, same, ih]

theorem get?_add (hs : Headers) (name value : String) :
    (hs.add name value).get? name = some value :=
  lookup?_place name value hs.items

/-- Adding a header leaves those of other names, in their order. -/
theorem filter_add (hs : Headers) (name value : String) :
    (hs.add name value).items.filter (!Ascii.sameLetters ·.1 name) =
      hs.items.filter (!Ascii.sameLetters ·.1 name) := by
  have own : Ascii.sameLetters name name = true := Ascii.sameLetters_iff.mpr rfl
  have every : ∀ items, (place name value items).filter (!Ascii.sameLetters ·.1 name) =
      items.filter (!Ascii.sameLetters ·.1 name) := by
    intro items
    induction items with
    | nil => simp [place, own]
    | cons h rest ih =>
      by_cases same : Ascii.lower h.1 = Ascii.lower name
      · simp [place, same, own, Ascii.sameLetters_iff]
      · simp [place, same, List.filter_cons, ih]
  exact every hs.items

theorem lookup?_filter_of_ne {name other : String} (h : ¬ Ascii.sameLetters other name = true)
    (items : List (String × String)) :
    lookup? (items.filter fun p => !Ascii.sameLetters p.1 name) other = lookup? items other := by
  rw [lookup?, lookup?, List.find?_filter]
  congr 2
  funext p
  by_cases match_ : Ascii.sameLetters p.1 other = true
  · have differ : Ascii.sameLetters p.1 name = false := by
      rw [Bool.eq_false_iff, ne_eq, Ascii.sameLetters_iff, Ascii.sameLetters_iff.mp match_,
        ← Ascii.sameLetters_iff]
      exact h
    simp [match_, differ]
  · simp [match_]

theorem lookup?_append (front back : List (String × String)) (name : String) :
    lookup? (front ++ back) name = (lookup? front name).or (lookup? back name) := by
  rw [lookup?, List.find?_append, Option.map_or]
  rfl

theorem lookup?_remove (hs : Headers) (name : String) : (hs.remove name).get? name = none := by
  simp [get?, lookup?, remove, List.find?_eq_none]

end Headers

namespace Call

/-- The body's own type is the one that a server sees. -/
theorem contentType_requestHeaders (headers : Headers) (p : Payload) :
    Headers.lookup? (requestHeaders headers (some p)) contentType = some p.contentType := by
  have gone := Headers.lookup?_remove headers contentType
  rw [Headers.get?] at gone
  rw [requestHeaders, Headers.lookup?_append, gone]
  simp [Headers.lookup?, Ascii.sameLetters]

theorem lookup?_requestHeaders {name : String} (h : ¬ Ascii.sameLetters name contentType = true)
    (headers : Headers) (payload : Option Payload) :
    Headers.lookup? (requestHeaders headers payload) name = headers.get? name := by
  cases payload with
  | none => rfl
  | some p =>
    have other : Ascii.sameLetters contentType name = false := by
      rw [Bool.eq_false_iff, ne_eq, Ascii.sameLetters_iff, eq_comm, ← Ascii.sameLetters_iff]
      exact h
    have last : Headers.lookup? [(contentType, p.contentType)] name = none := by
      simp [Headers.lookup?, other]
    rw [requestHeaders, Headers.lookup?_append, last, Option.or_none]
    exact Headers.lookup?_filter_of_ne h headers.items

end Call
end SignedRest

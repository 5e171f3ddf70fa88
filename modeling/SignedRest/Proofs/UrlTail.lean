import Mathlib.Data.List.TakeWhile
import SignedRest.Url.Change

/-! A URL's text is read in two halves: what stands before the first `?` or `#`, and the tail.
The tail decides query and fragment, and almost nothing else: only a lone `@` in the place of an
authority is refused when something follows it and read when nothing does. -/
namespace SignedRest.Url

section
variable {α : Type} {p : α → Bool} {tail : List α}

theorem takeWhile_append_of_stop (h : tail.takeWhile p = []) (list : List α) :
    (list ++ tail).takeWhile p = list.takeWhile p := by
  induction list with
  | nil => exact h
  | cons a list ih => by_cases ha : p a = true <;> simp [ha, ih]

theorem dropWhile_of_stop (h : tail.takeWhile p = []) : tail.dropWhile p = tail := by
  have whole := List.takeWhile_append_dropWhile (p := p) (l := tail)
  rwa [h, List.nil_append] at whole

theorem dropWhile_append_of_stop (h : tail.takeWhile p = []) (list : List α) :
    (list ++ tail).dropWhile p = list.dropWhile p ++ tail := by
  induction list with
  | nil => exact dropWhile_of_stop h
  | cons a list ih => by_cases ha : p a = true <;> simp [ha, ih]

end

theorem cutLast_eq_some {sep : Char} {cs before after : List Char}
    (h : cutLast sep cs = some (before, after)) : cs = before ++ sep :: after := by
  unfold cutLast at h
  by_cases hc : cs.contains sep = true
  · rw [if_pos hc] at h
    obtain ⟨rfl, rfl⟩ := Prod.mk.inj (Option.some.inj h)
    have mem : sep ∈ cs.reverse := List.mem_reverse.mpr (List.contains_iff_mem.mp hc)
    have whole := List.takeWhile_append_dropWhile (p := (· ≠ sep)) (l := cs.reverse)
    cases hd : cs.reverse.dropWhile (· ≠ sep) with
    | nil =>
      rw [List.dropWhile_eq_nil_iff] at hd
      exact absurd rfl (of_decide_eq_true (hd sep mem))
    | cons c rest =>
      have head : c = sep := by
        have := List.head?_dropWhile_not (· ≠ sep) cs.reverse
        rw [hd] at this
        simpa using this
      subst head
      rw [hd] at whole
      have back := congrArg List.reverse whole
      simpa using back.symm
  · rw [if_neg hc] at h
    cases h

theorem cutHost_append (inside : Bool) (cs : List Char) :
    (cutHost inside cs).1 ++ (cutHost inside cs).2 = cs := by
  induction cs generalizing inside with
  | nil => rfl
  | cons c rest ih =>
    unfold cutHost
    split
    · rfl
    · simp only [List.cons_append, ih]

theorem mem_of_portNumber {cs rest : List Char} {port : Option Nat}
    (h : portNumber cs = .ok (port, rest)) {c : Char} (hc : c ∈ rest) : c ∈ cs := by
  unfold portNumber at h
  simp only at h
  split at h
  · cases h
  · split at h
    · obtain ⟨-, rfl⟩ := Prod.mk.inj (Except.ok.inj h)
      exact (List.dropWhile_sublist _).subset hc
    · cases h

theorem mem_of_hostAndPort {scheme : String} {cs rest : List Char} {host : Host}
    {port : Option Nat} (h : hostAndPort scheme cs = .ok (host, port, rest)) {c : Char}
    (hc : c ∈ rest) : c ∈ cs := by
  have after : ∀ d ∈ (cutHost false cs).2, d ∈ cs := fun d hd => by
    rw [← cutHost_append false cs]
    exact List.mem_append_right _ hd
  unfold hostAndPort at h
  simp only [bind, Except.bind, pure, Except.pure] at h
  split at h
  · cases h
  · split at h
    · rename_i digits eq
      split at h
      · cases h
      · split at h
        · cases h
        · rename_i result more
          obtain ⟨port', rest'⟩ := result
          obtain ⟨-, -, rfl⟩ := Prod.mk.inj (Except.ok.inj h) |>.imp id Prod.mk.inj
          have := mem_of_portNumber more hc
          exact after c (by rw [eq]; exact List.mem_cons_of_mem _ this)
    · obtain ⟨-, -, rfl⟩ := Prod.mk.inj (Except.ok.inj h) |>.imp id Prod.mk.inj
      exact after c hc

theorem mem_of_authorityOf {scheme : String} {closed : Bool} {cs rest : List Char} {a : Authority}
    (h : authorityOf scheme closed cs = .ok (a, rest)) {c : Char} (hc : c ∈ rest) : c ∈ cs := by
  unfold authorityOf at h
  simp only [bind, Except.bind, pure, Except.pure] at h
  split at h
  · split at h
    · cases h
    · rename_i result read
      obtain ⟨host, port, left⟩ := result
      obtain ⟨-, rfl⟩ := Prod.mk.inj (Except.ok.inj h)
      exact mem_of_hostAndPort read hc
  · rename_i user after cutEq
    split at h
    · cases h
    · split at h
      · cases h
      · rename_i result read
        obtain ⟨host, port, left⟩ := result
        split at h
        · cases h
        · obtain ⟨-, rfl⟩ := Prod.mk.inj (Except.ok.inj h)
          rw [cutLast_eq_some cutEq]
          exact List.mem_append_right _ (List.mem_cons_of_mem _ (mem_of_hostAndPort read hc))

/-- Whether something follows an authority matters to a lone `@` only, which web addresses refuse
in either case. -/
theorem authorityOf_closed {scheme : String} {cs : List Char}
    (h : cs = ['@'] → kindOf scheme ≠ .other) (closed : Bool) :
    authorityOf scheme closed cs = authorityOf scheme false cs := by
  cases closed with
  | false => rfl
  | true =>
    by_cases lone : cs = ['@']
    · subst lone
      have user : cutLast '@' ['@'] = some ([], []) := by decide
      have noHost : hostOf (kindOf scheme) [] = .error .emptyHost := by
        cases hk : kindOf scheme with
        | other => exact absurd hk (h rfl)
        | file => rfl
        | web => rfl
      simp [authorityOf, user, hostAndPort, cutHost, noHost, bind, Except.bind]
    · unfold authorityOf
      split
      · rfl
      · rename_i user after cutEq
        have some_ : (user.isEmpty && after.isEmpty) = false := by
          cases user <;> cases after <;> simp_all [cutLast_eq_some cutEq]
        simp only [some_, Bool.false_and]

def withTail (u : Url) (tail : List Char) : Url :=
  { u with query := (cutTail u.kind tail).1, fragment := (cutTail u.kind tail).2 }

def IsTail (tail : List Char) : Prop := tail.takeWhile (!endsPath ·) = []

theorem isTail_dropWhile (cs : List Char) : IsTail (cs.dropWhile (!endsPath ·)) := by
  unfold IsTail
  induction cs with
  | nil => rfl
  | cons c cs ih => by_cases h : endsPath c = true <;> simp_all

theorem stop_of_isTail {tail : List Char} (h : IsTail tail) {p : Char → Bool}
    (hp : ∀ c, endsPath c = true → p c = false) : tail.takeWhile p = [] := by
  cases tail with
  | nil => rfl
  | cons c rest =>
    have hc : endsPath c = true := by
      by_contra hc
      simp [IsTail, hc] at h
    simp [hp c hc]

theorem endsPath_cases {c : Char} (h : endsPath c = true) : c = '?' ∨ c = '#' := by
  simpa [endsPath] using h

theorem not_isSlash_of_endsPath {kind : Kind} {c : Char} (h : endsPath c = true) :
    isSlash kind c = false := by
  rcases endsPath_cases h with rfl | rfl <;> cases kind <;> decide

theorem endsAuthority_of_endsPath {kind : Kind} {c : Char} (h : endsPath c = true) :
    endsAuthority kind c = true := by
  rcases endsPath_cases h with rfl | rfl <;> cases kind <;> decide

theorem takeWhile_body {body tail : List Char} (hb : ∀ c ∈ body, endsPath c = false)
    (ht : IsTail tail) : (body ++ tail).takeWhile (!endsPath ·) = body := by
  rw [takeWhile_append_of_stop ht]
  exact List.takeWhile_eq_self_iff.mpr fun c hc => by simp [hb c hc]

theorem dropWhile_body {body tail : List Char} (hb : ∀ c ∈ body, endsPath c = false)
    (ht : IsTail tail) : (body ++ tail).dropWhile (!endsPath ·) = tail := by
  rw [dropWhile_append_of_stop ht, List.dropWhile_eq_nil_iff.mpr fun c hc => by simp [hb c hc],
    List.nil_append]

theorem afterSlashes_eq (scheme : String) (cs : List Char) :
    afterSlashes scheme cs =
      (authorityOf scheme (!(cs.dropWhile (!endsAuthority (kindOf scheme) ·)).isEmpty)
        (cs.takeWhile (!endsAuthority (kindOf scheme) ·))).map fun r =>
        let rest := r.2 ++ cs.dropWhile (!endsAuthority (kindOf scheme) ·)
        withTail ⟨scheme, some r.1, pathAfter (kindOf scheme) (rest.takeWhile (!endsPath ·)),
          none, none⟩ (rest.dropWhile (!endsPath ·)) := by
  simp only [afterSlashes, bind, Except.bind]
  cases authorityOf scheme _ _ <;> rfl

theorem afterSlashes_append {scheme : String} {body tail : List Char}
    (hb : ∀ c ∈ body, endsPath c = false) (ht : IsTail tail)
    (lone : body = ['@'] → kindOf scheme ≠ .other) :
    afterSlashes scheme (body ++ tail) = (afterSlashes scheme body).map (·.withTail tail) := by
  have stop : tail.takeWhile (!endsAuthority (kindOf scheme) ·) = [] :=
    stop_of_isTail ht fun c hc => by simp [endsAuthority_of_endsPath hc]
  rw [afterSlashes_eq, afterSlashes_eq, takeWhile_append_of_stop stop,
    dropWhile_append_of_stop stop]
  have whole := List.takeWhile_append_dropWhile (p := (!endsAuthority (kindOf scheme) ·))
    (l := body)
  generalize body.takeWhile (!endsAuthority (kindOf scheme) ·) = text at whole
  generalize body.dropWhile (!endsAuthority (kindOf scheme) ·) = rest at whole
  have closed : authorityOf scheme (!(rest ++ tail).isEmpty) text =
      authorityOf scheme (!rest.isEmpty) text := by
    cases rest with
    | cons c more => rfl
    | nil =>
      rw [List.append_nil] at whole
      exact authorityOf_closed (whole ▸ lone) _
  rw [closed]
  cases read : authorityOf scheme (!rest.isEmpty) text with
  | error e => rfl
  | ok r =>
    obtain ⟨a, left⟩ := r
    have plain : ∀ c ∈ left ++ rest, endsPath c = false := by
      intro c hc
      apply hb
      rw [← whole]
      rcases List.mem_append.mp hc with hc | hc
      · exact List.mem_append_left _ (mem_of_authorityOf read hc)
      · exact List.mem_append_right _ hc
    have bare : IsTail [] := rfl
    have body₀ := takeWhile_body plain bare
    have tail₀ := dropWhile_body plain bare
    rw [List.append_nil] at body₀ tail₀
    simp only [Except.map, ← List.append_assoc, takeWhile_body plain ht, dropWhile_body plain ht,
      body₀, tail₀]
    rfl

theorem withoutAuthority_append (scheme : String) (other : kindOf scheme = .other)
    {body tail : List Char} (hb : ∀ c ∈ body, endsPath c = false) (ht : IsTail tail) :
    withoutAuthority scheme (body ++ tail) = (withoutAuthority scheme body).withTail tail := by
  have bare : IsTail [] := rfl
  have body₀ := takeWhile_body hb bare
  have tail₀ := dropWhile_body hb bare
  rw [List.append_nil] at body₀ tail₀
  simp only [withoutAuthority, takeWhile_body hb ht, dropWhile_body hb ht, body₀, tail₀, withTail,
    kind, other]

theorem afterFile_append {body tail : List Char} (hb : ∀ c ∈ body, endsPath c = false)
    (ht : IsTail tail) : afterFile (body ++ tail) = (afterFile body).map (·.withTail tail) := by
  have bare : IsTail [] := rfl
  have body₀ := takeWhile_body hb bare
  have tail₀ := dropWhile_body hb bare
  rw [List.append_nil] at body₀ tail₀
  simp only [afterFile, takeWhile_body hb ht, dropWhile_body hb ht, body₀, tail₀]
  split
  · split
    · split
      · rfl
      · cases fileHost _ <;> rfl
    · rfl
  · rfl

theorem afterScheme_other {scheme : String} (other : kindOf scheme = .other) {cs : List Char}
    (h : ∀ rest, cs ≠ '/' :: '/' :: rest) :
    afterScheme scheme cs = .ok (withoutAuthority scheme cs) := by
  simp only [afterScheme, other]

theorem append_ne_slashes {body tail : List Char} (ht : IsTail tail)
    (h : ∀ rest, body ≠ '/' :: '/' :: rest) (rest : List Char) :
    body ++ tail ≠ '/' :: '/' :: rest := by
  have slash : ∀ more, tail ≠ '/' :: more := by
    rintro more rfl
    simp [IsTail, endsPath] at ht
  match body, h with
  | [], _ => exact slash _
  | [c], _ =>
    intro eq
    exact slash _ (List.cons_eq_cons.mp eq).2
  | c :: d :: more, h =>
    intro eq
    simp only [List.cons_append, List.cons.injEq] at eq
    obtain ⟨rfl, rfl, -⟩ := eq
    exact h more rfl

/-- The condition leaves out `//@` behind a scheme that is neither `file` nor a web one. -/
theorem afterScheme_append {scheme : String} {body tail : List Char}
    (hb : ∀ c ∈ body, endsPath c = false) (ht : IsTail tail)
    (lone : body = ['/', '/', '@'] → kindOf scheme ≠ .other) :
    afterScheme scheme (body ++ tail) = (afterScheme scheme body).map (·.withTail tail) := by
  cases hk : kindOf scheme with
  | file =>
    simp only [afterScheme, hk]
    exact afterFile_append hb ht
  | web =>
    have stop : tail.takeWhile (isSlash .web) = [] :=
      stop_of_isTail ht fun c hc => not_isSlash_of_endsPath hc
    simp only [afterScheme, hk]
    rw [dropWhile_append_of_stop stop]
    refine afterSlashes_append (fun c hc => hb c ((List.dropWhile_sublist _).subset hc)) ht ?_
    simp [hk]
  | other =>
    by_cases slashes : ∃ rest, body = '/' :: '/' :: rest
    · obtain ⟨rest, rfl⟩ := slashes
      simp only [List.cons_append, afterScheme, hk]
      refine afterSlashes_append (fun c hc => hb c (by simp [hc])) ht ?_
      rintro rfl
      exact lone rfl
    · have plain : ∀ rest, body ≠ '/' :: '/' :: rest := fun rest eq => slashes ⟨rest, eq⟩
      rw [afterScheme_other hk (append_ne_slashes ht plain), afterScheme_other hk plain,
        withoutAuthority_append scheme hk hb ht]
      rfl

end SignedRest.Url

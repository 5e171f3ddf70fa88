import SignedRest.Proofs.HostControls
import SignedRest.Proofs.QueryAppending

/-! Blanks and controls that are dropped at the end of a web address count when something follows
them. Then the address is another one: its host or port is refused, or its path is longer. -/
namespace SignedRest.Url

section
variable {loose : List Char} (low : ∀ c ∈ loose, isLow c = true)
include low

theorem not_mem_loose {d : Char} (high : isLow d = false) : d ∉ loose := fun h => by
  rw [low d h] at high
  cases high

theorem cutHost_loose (inside : Bool) : cutHost inside loose = (loose, []) := by
  induction loose generalizing inside with
  | nil => rfl
  | cons c rest ih =>
    have colon : c ≠ ':' := by
      rintro rfl
      have first := low ':' (by simp)
      revert first
      decide
    have more := ih (fun d hd => low d (by simp [hd]))
    simp [cutHost, colon, more]

theorem cutHost_append_loose (inside : Bool) (cs : List Char) :
    cutHost inside (cs ++ loose) =
      if (cutHost inside cs).2 = [] then (cs ++ loose, [])
      else ((cutHost inside cs).1, (cutHost inside cs).2 ++ loose) := by
  induction cs generalizing inside with
  | nil => simp [cutHost, cutHost_loose low]
  | cons c cs ih =>
    by_cases stop : (c = ':' && !inside) = true
    · simp [cutHost, stop]
    · simp only [List.cons_append, cutHost, if_neg stop]
      generalize (if c = '[' then true else if c = ']' then false else inside) = within
      rw [ih within]
      by_cases empty : (cutHost within cs).2 = [] <;> simp [empty]

theorem cutLast_append_loose {sep : Char} (high : isLow sep = false) (cs : List Char) :
    cutLast sep (cs ++ loose) =
      (cutLast sep cs).map fun (before, after) => (before, after ++ loose) := by
  have absent := not_mem_loose low high
  by_cases mem : sep ∈ cs
  · have keep : ∀ c ∈ loose.reverse, (c ≠ sep : Bool) = true := by
      intro c hc
      have other : c ≠ sep := by
        rintro rfl
        exact absent (List.mem_reverse.mp hc)
      simpa using other
    simp only [cutLast, List.contains_iff_mem, List.mem_append, mem, true_or, if_true,
      List.reverse_append, List.takeWhile_append_of_pos keep, List.dropWhile_append_of_pos keep,
      List.reverse_append, List.reverse_reverse, Option.map_some]
  · simp [cutLast, mem, absent]

variable (nonempty : loose ≠ [])
include nonempty

theorem parse_append_loose (cs : List Char) (host : Host) :
    Host.parse (cs ++ loose) ≠ .ok host := by
  have last := List.getLast?_eq_some_getLast nonempty
  have mem := List.getLast_mem nonempty
  refine Host.parse_low (low _ mem) (List.mem_append_right cs mem) ?_ host
  rw [List.getLast?_append, last]
  intro bracket
  have closing := low _ mem
  rw [Option.some.inj bracket] at closing
  revert closing
  decide

omit low nonempty in
theorem isDigit_of_portNumber {cs : List Char} {r : Option Nat × List Char}
    (h : portNumber cs = .ok r) (noSlash : '\\' ∉ cs) : ∀ c ∈ cs, c.isDigit = true := by
  rw [← List.dropWhile_eq_nil_iff]
  cases rest : cs.dropWhile Char.isDigit with
  | nil => rfl
  | cons c more =>
    have mem : c ∈ cs := (List.dropWhile_sublist _).subset (by rw [rest]; simp)
    have other : c ≠ '\\' := by
      rintro rfl
      exact noSlash mem
    simp only [portNumber, rest] at h
    split at h
    · cases h
    · simp [other] at h

theorem portNumber_append_loose {cs : List Char} (noSlash : '\\' ∉ cs)
    (r : Option Nat × List Char) : portNumber (cs ++ loose) ≠ .ok r := by
  have noSlash' : '\\' ∉ cs ++ loose := by
    simp [noSlash, not_mem_loose low (show isLow '\\' = false by decide)]
  intro read
  obtain ⟨c, hc⟩ := List.exists_mem_of_ne_nil loose nonempty
  have digit := isDigit_of_portNumber read noSlash' c (List.mem_append_right cs hc)
  have small := of_decide_eq_true (low c hc)
  simp only [Char.isDigit, Bool.and_eq_true, decide_eq_true_eq, ge_iff_le,
    UInt32.le_iff_toNat_le] at digit
  have zero : '0'.val.toNat = 48 := rfl
  have code : c.val.toNat = c.toNat := rfl
  omega

omit low nonempty in
theorem colon_of_cutHost {inside : Bool} {cs more : List Char} {c : Char}
    (h : (cutHost inside cs).2 = c :: more) : c = ':' := by
  induction cs generalizing inside with
  | nil => cases h
  | cons d cs ih =>
    by_cases stop : (d = ':' && !inside) = true
    · simp only [cutHost, if_pos stop] at h
      rw [← (List.cons_eq_cons.mp h).1]
      simp only [Bool.and_eq_true, decide_eq_true_eq] at stop
      exact stop.1
    · simp only [cutHost, if_neg stop] at h
      exact ih h

theorem hostAndPort_append_loose {scheme : String} (web : kindOf scheme = .web) {cs : List Char}
    (noSlash : '\\' ∉ cs) (r : Host × Option Nat × List Char) :
    hostAndPort scheme (cs ++ loose) ≠ .ok r := by
  have append := cutHost_append_loose low false cs
  intro read
  cases after : (cutHost false cs).2 with
  | nil =>
    rw [after, if_pos rfl] at append
    have some_ : (cs ++ loose).isEmpty = false := by simp [nonempty]
    cases host : hostOf .web (cs ++ loose) with
    | error e => simp [hostAndPort, append, web, host, bind, Except.bind] at read
    | ok name =>
      simp only [hostOf, some_, Bool.false_eq_true, if_false] at host
      exact parse_append_loose low nonempty cs name host
  | cons c digits =>
    obtain rfl := colon_of_cutHost after
    rw [after, if_neg (by simp), List.cons_append] at append
    have noSlash' : '\\' ∉ digits := by
      intro mem
      apply noSlash
      rw [← cutHost_append false cs, after]
      simp [mem]
    cases port : portNumber (digits ++ loose) with
    | ok p => exact portNumber_append_loose low nonempty noSlash' p port
    | error e =>
      simp only [hostAndPort, append, port, bind, Except.bind] at read
      split at read
      · cases read
      · split at read <;> cases read

theorem authorityOf_append_loose {scheme : String} (web : kindOf scheme = .web)
    {cs : List Char} (noSlash : '\\' ∉ cs) (closed : Bool) (r : Authority × List Char) :
    authorityOf scheme closed (cs ++ loose) ≠ .ok r := by
  have cut := cutLast_append_loose low (show isLow '@' = false by decide) cs
  have some_ : ∀ after : List Char, (after ++ loose).isEmpty = false := by simp [nonempty]
  intro read
  cases user : cutLast '@' cs with
  | none =>
    rw [user, Option.map_none] at cut
    cases host : hostAndPort scheme (cs ++ loose) with
    | error e => simp [authorityOf, cut, host, bind, Except.bind] at read
    | ok v => exact hostAndPort_append_loose low nonempty web noSlash v host
  | some cutUser =>
    obtain ⟨before, after⟩ := cutUser
    rw [user, Option.map_some] at cut
    have noSlash' : '\\' ∉ after := by
      intro mem
      apply noSlash
      rw [cutLast_eq_some user]
      simp [mem]
    cases host : hostAndPort scheme (after ++ loose) with
    | error e => simp [authorityOf, cut, some_, host, bind, Except.bind] at read
    | ok v => exact hostAndPort_append_loose low nonempty web noSlash' v host

omit nonempty in
theorem cut_append_loose (kind : Kind) (cs : List Char) :
    ∃ init s, cut kind cs = init ++ [s] ∧ cut kind (cs ++ loose) = init ++ [s ++ loose] := by
  have plain : ∀ c ∈ loose, (c = '/' || (kind.isSpecial && c = '\\')) = false := by
    intro c hc
    have slash : c ≠ '/' := by
      rintro rfl
      exact not_mem_loose low (by decide) hc
    have back : c ≠ '\\' := by
      rintro rfl
      exact not_mem_loose low (by decide) hc
    simp [slash, back]
  unfold cut
  -- from behind: a separator in front of the text leaves its last segment alone
  induction cs with
  | nil => exact ⟨[], [], rfl, List.splitOnP_eq_singleton plain⟩
  | cons c cs ih =>
    obtain ⟨init, s, old, new⟩ := ih
    rw [List.cons_append, List.splitOnP_cons_eq_if_modifyHead,
      List.splitOnP_cons_eq_if_modifyHead, old, new]
    by_cases stop : (c = '/' || (kind.isSpecial && c = '\\')) = true
    · exact ⟨[] :: init, s, by simp [stop], by simp [stop]⟩
    · cases init with
      | nil => exact ⟨[], c :: s, by simp [stop], by simp [stop]⟩
      | cons first init => exact ⟨(c :: first) :: init, s, by simp [stop], by simp [stop]⟩

omit low nonempty in
/-- The segments before the last one are the same, whatever the last one is. -/
theorem addSegments_last (kind : Kind) (init : List (List Char)) (done : List String) :
    ∃ done', ∀ s, addSegments kind done (init ++ [s]) = addSegments kind done' [s] := by
  induction init generalizing done with
  | nil => exact ⟨done, fun s => rfl⟩
  | cons first init ih =>
    have more : ∀ s : List Char, (init ++ [s]).isEmpty = false := by simp
    by_cases two : isTwoDots first = true
    · obtain ⟨done', same⟩ := ih (dropLastSegment done)
      exact ⟨done', fun s => by simp [addSegments, two, more, same]⟩
    · by_cases dot : isDot first = true
      · obtain ⟨done', same⟩ := ih done
        exact ⟨done', fun s => by simp [addSegments, two, dot, more, same]⟩
      · obtain ⟨done', same⟩ := ih (done ++ [segmentText kind done.isEmpty first])
        exact ⟨done', fun s => by simp [addSegments, two, dot, same]⟩

omit low nonempty in
theorem dropDot_chars {s rest : List Char} (h : dropDot s = some rest) :
    ∀ c ∈ s, isLow c = true → c ∈ rest := by
  intro c hc low
  unfold dropDot at h
  split at h
  · obtain rfl := Option.some.inj h
    rcases List.mem_cons.mp hc with rfl | hc
    · exact absurd low (by decide)
    · exact hc
  · rename_i e more
    split at h
    · rename_i letter
      obtain rfl := Option.some.inj h
      simp only [List.mem_cons] at hc
      rcases hc with rfl | rfl | rfl | hc
      · exact absurd low (by decide)
      · exact absurd low (by decide)
      · simp only [Bool.or_eq_true, decide_eq_true_eq] at letter
        rcases letter with rfl | rfl <;> exact absurd low (by decide)
      · exact hc
    · cases h
  · cases h

theorem not_dots_append_loose (s : List Char) :
    isTwoDots (s ++ loose) = false ∧ isDot (s ++ loose) = false := by
  obtain ⟨c, hc⟩ := List.exists_mem_of_ne_nil loose nonempty
  have mem : c ∈ s ++ loose := List.mem_append_right s hc
  constructor
  · cases first : dropDot (s ++ loose) with
    | none => simp [isTwoDots, first]
    | some rest =>
      have mem' := dropDot_chars first c mem (low c hc)
      cases second : dropDot rest with
      | none => simp [isTwoDots, first, second]
      | some rest' =>
        have mem'' := dropDot_chars second c mem' (low c hc)
        have some_ : rest' ≠ [] := List.ne_nil_of_mem mem''
        simp [isTwoDots, first, second, some_]
  · cases first : dropDot (s ++ loose) with
    | none => simp [isDot, first]
    | some rest =>
      have some_ : rest ≠ [] := List.ne_nil_of_mem (dropDot_chars first c mem (low c hc))
      simp [isDot, first, some_]

omit nonempty in
theorem escape_loose {keep : UInt8 → Bool} (never : ∀ b : UInt8, b.toNat ≤ 0x20 → keep b = false) :
    escape keep loose =
      String.ofList (Percent.encodeBytes (fun _ => false) (Utf8.narrow loose)) := by
  have small : ∀ c ∈ loose, c.toNat ≤ 0x20 := fun c hc => of_decide_eq_true (low c hc)
  have ascii : ∀ c ∈ loose, c.toNat < 0x80 := fun c hc => by
    have := small c hc
    omega
  have refused : ∀ b ∈ Utf8.narrow loose, keep b = false := by
    intro b hb
    obtain ⟨c, hc, rfl⟩ := List.mem_map.mp hb
    apply never
    rw [Utf8.toNat_ofNat_of_lt (by have := small c hc; omega)]
    exact small c hc
  rw [escape, Utf8.encode_ascii ascii, Percent.encodeBytes, Percent.encodeBytes,
    List.flatMap_def, List.flatMap_def]
  congr 2
  exact List.map_congr_left fun b hb => by simp [refused b hb]

theorem getLast?_escape_loose {keep : UInt8 → Bool}
    (never : ∀ b : UInt8, b.toNat ≤ 0x20 → keep b = false) :
    ∃ c, (escape keep loose).toList.getLast? = some c ∧ c ≠ '/' := by
  have digits : ∀ n ∈ List.range 16, Ascii.hexUpper n ≠ '/' := by decide
  obtain ⟨init, c, rfl⟩ : ∃ init c, loose = init ++ [c] :=
    ⟨_, _, (List.dropLast_concat_getLast nonempty).symm⟩
  refine ⟨Ascii.hexUpper ((UInt8.ofNat c.toNat).toNat % 16), ?_,
    digits _ (List.mem_range.mpr (Nat.mod_lt _ (by decide)))⟩
  rw [escape_loose low never, String.toList_ofList, Utf8.narrow, List.map_append,
    Percent.encodeBytes_append, List.getLast?_append]
  rfl

omit low nonempty in
theorem toList_write_append (done : List String) (s : String) :
    (Path.write (.segments (done ++ [s]))).toList =
      (Path.write (.segments done)).toList ++ '/' :: s.toList := by
  simp [Path.write, String.join_append]

omit low nonempty in
theorem segmentText_web (isFirst : Bool) (s : List Char) :
    segmentText .web isFirst s = escape inPath s := by
  unfold segmentText
  split <;> simp

/-- Dots at the end, which are resolved, stay as they are before something that counts; and
every other segment is longer with it. -/
theorem pathOf_append_loose (cs : List Char) :
    ∃ l l', pathOf .web cs = .segments l ∧ pathOf .web (cs ++ loose) = .segments l' ∧
      (Path.segments l').write ≠ (Path.segments l).write := by
  obtain ⟨init, s, old, new⟩ := cut_append_loose low .web cs
  obtain ⟨done, same⟩ := addSegments_last .web init []
  obtain ⟨noTwo, noDot⟩ := not_dots_append_loose low nonempty s
  have never : ∀ b : UInt8, b.toNat ≤ 0x20 → inPath b = false :=
    Percent.forall_byte (by decide +kernel)
  obtain ⟨c, last, slash⟩ := getLast?_escape_loose low nonempty never
  have longer : addSegments .web done [s ++ loose] =
      done ++ [escape inPath s ++ escape inPath loose] := by
    simp [addSegments, noTwo, noDot, segmentText_web, escape_append]
  have ending : (Path.segments (addSegments .web done [s ++ loose])).write.toList.getLast? =
      some c := by
    rw [longer, toList_write_append, String.toList_append, List.getLast?_append,
      List.getLast?_cons, List.getLast?_append, last]
    rfl
  refine ⟨addSegments .web done [s], addSegments .web done [s ++ loose], ?_, ?_, ?_⟩
  · simp [pathOf, settle, old, same]
  · simp [pathOf, settle, new, same]
  · intro eq
    have resolved : ∀ done', addSegments .web done [s] ≠ done' ++ [""] := by
      intro done' dots
      rw [eq, dots, toList_write_append] at ending
      simp only [String.toList_empty, List.getLast?_append, List.getLast?_singleton,
        Option.some_or, Option.some.injEq] at ending
      exact slash ending.symm
    by_cases two : isTwoDots s = true
    · exact resolved (dropLastSegment done) (by simp [addSegments, two])
    · by_cases dot : isDot s = true
      · exact resolved done (by simp [addSegments, two, dot])
      · have short : addSegments .web done [s] = done ++ [escape inPath s] := by
          simp [addSegments, two, dot, segmentText_web]
        have texts := congrArg String.toList eq
        rw [longer, short, toList_write_append, toList_write_append, String.toList_append] at texts
        have lengths := congrArg List.length texts
        have some_ : (escape inPath loose).toList ≠ [] := by
          intro none_
          rw [none_] at last
          cases last
        have positive := List.length_pos_iff.mpr some_
        simp only [List.length_append, List.length_cons] at lengths
        omega

omit low nonempty in
theorem not_endsAuthority {c : Char} (h : isLow c = true) : endsAuthority .web c = false := by
  have other : ∀ d, isLow d = false → c ≠ d := by
    rintro d high rfl
    rw [h] at high
    cases high
  simp [endsAuthority, isSlash, other '/' (by decide), other '\\' (by decide),
    other '?' (by decide), other '#' (by decide)]

omit low nonempty in
theorem pathAfter_web (c : Char) (cs : List Char) :
    ∃ text, ∀ more, pathAfter .web (c :: cs ++ more) = pathOf .web (text ++ more) := by
  by_cases slash : isSlash .web c = true
  · exact ⟨cs, fun more => by simp [pathAfter, slash]⟩
  · exact ⟨c :: cs, fun more => by simp [pathAfter, slash]⟩

omit low nonempty in
theorem afterSlashes_plain (scheme : String) {cs : List Char}
    (plain : ∀ c ∈ cs, endsPath c = false) :
    afterSlashes scheme cs =
      (authorityOf scheme (!(cs.dropWhile (!endsAuthority (kindOf scheme) ·)).isEmpty)
        (cs.takeWhile (!endsAuthority (kindOf scheme) ·))).map fun r =>
        ⟨scheme, some r.1, pathAfter (kindOf scheme)
          (r.2 ++ cs.dropWhile (!endsAuthority (kindOf scheme) ·)), none, none⟩ := by
  rw [afterSlashes_eq]
  cases read : authorityOf scheme (!(cs.dropWhile (!endsAuthority (kindOf scheme) ·)).isEmpty)
      (cs.takeWhile (!endsAuthority (kindOf scheme) ·)) with
  | error e => rfl
  | ok r =>
    obtain ⟨a, left⟩ := r
    have plain' : ∀ c ∈ left ++ cs.dropWhile (!endsAuthority (kindOf scheme) ·),
        endsPath c = false := by
      intro c hc
      apply plain
      rcases List.mem_append.mp hc with hc | hc
      · exact (List.takeWhile_sublist _).subset (mem_of_authorityOf read hc)
      · exact (List.dropWhile_sublist _).subset hc
    have bare : IsTail [] := rfl
    have body := takeWhile_body plain' bare
    have tail := dropWhile_body plain' bare
    rw [List.append_nil] at body tail
    simp only [Except.map, body, tail]
    rfl

omit low nonempty in
theorem afterSlashes_of_plain {scheme : String} {cs : List Char}
    (plain : ∀ c ∈ cs, endsPath c = false) {u : Url} (h : afterSlashes scheme cs = .ok u) :
    ∃ a left, authorityOf scheme (!(cs.dropWhile (!endsAuthority (kindOf scheme) ·)).isEmpty)
        (cs.takeWhile (!endsAuthority (kindOf scheme) ·)) = .ok (a, left) ∧
      u = ⟨scheme, some a, pathAfter (kindOf scheme)
        (left ++ cs.dropWhile (!endsAuthority (kindOf scheme) ·)), none, none⟩ := by
  rw [afterSlashes_plain scheme plain] at h
  cases read : authorityOf scheme (!(cs.dropWhile (!endsAuthority (kindOf scheme) ·)).isEmpty)
      (cs.takeWhile (!endsAuthority (kindOf scheme) ·)) with
  | error e =>
    rw [read] at h
    cases h
  | ok r =>
    rw [read] at h
    exact ⟨r.1, r.2, rfl, (Except.ok.inj h).symm⟩

/-- No authority can have a loose end that counts, so that it ends before that. -/
theorem stops_of_authorityOf {scheme : String} (web : kindOf scheme = .web) {cs : List Char}
    {closed : Bool} {r : Authority × List Char}
    (read : authorityOf scheme closed
      ((cs ++ loose).takeWhile (!endsAuthority .web ·)) = .ok r) :
    ∃ d ∈ cs, (!endsAuthority .web d) = false := by
  by_contra none_
  have all : ∀ d ∈ cs, (!endsAuthority .web d) = true := by
    intro d hd
    by_contra ends
    exact none_ ⟨d, hd, by simpa using ends⟩
  have noSlash : '\\' ∉ cs := fun mem => by
    have ends := all '\\' mem
    revert ends
    decide
  have text : (cs ++ loose).takeWhile (!endsAuthority .web ·) = cs ++ loose := by
    apply List.takeWhile_eq_self_iff.mpr
    intro c hc
    rcases List.mem_append.mp hc with hc | hc
    · exact all c hc
    · simp [not_endsAuthority (low c hc)]
  rw [text] at read
  exact absurd read (authorityOf_append_loose low nonempty web noSlash _ _)

theorem afterSlashes_append_loose {scheme : String} (web : kindOf scheme = .web)
    {cs : List Char} (plain : ∀ c ∈ cs, endsPath c = false) {u v : Url}
    (hu : afterSlashes scheme cs = .ok u) (hv : afterSlashes scheme (cs ++ loose) = .ok v) :
    ∃ a l l', u = ⟨scheme, some a, .segments l, none, none⟩ ∧
      v = ⟨scheme, some a, .segments l', none, none⟩ ∧
      (Path.segments l').write ≠ (Path.segments l).write := by
  have plain' : ∀ c ∈ cs ++ loose, endsPath c = false := by
    intro c hc
    rcases List.mem_append.mp hc with hc | hc
    · exact plain c hc
    · cases ends : endsPath c with
      | false => rfl
      | true => rw [← not_endsAuthority (low c hc), endsAuthority_of_endsPath ends]
  obtain ⟨a, left, read, hu⟩ := afterSlashes_of_plain plain hu
  obtain ⟨a', left', read', hv⟩ := afterSlashes_of_plain plain' hv
  rw [web] at read hu read' hv
  have stop := stops_of_authorityOf low nonempty web read'
  obtain ⟨c, more, rest⟩ : ∃ c more, cs.dropWhile (!endsAuthority .web ·) = c :: more := by
    obtain ⟨d, hd, ends⟩ := stop
    refine List.exists_cons_of_ne_nil fun none_ => ?_
    have counts := List.dropWhile_eq_nil_iff.mp none_ d hd
    rw [ends] at counts
    cases counts
  have text : (cs ++ loose).takeWhile (!endsAuthority .web ·) =
      cs.takeWhile (!endsAuthority .web ·) := takeWhile_append_of_stopped stop loose
  have rest' : (cs ++ loose).dropWhile (!endsAuthority .web ·) = c :: more ++ loose := by
    rw [List.dropWhile_append, rest]
    rfl
  rw [rest] at read hu
  rw [text, rest'] at read'
  rw [rest'] at hv
  obtain ⟨rfl, rfl⟩ := Prod.mk.inj (Except.ok.inj (read.symm.trans read'))
  obtain ⟨d, ds, path⟩ : ∃ d ds, left ++ c :: more = d :: ds :=
    List.exists_cons_of_ne_nil (by simp)
  obtain ⟨text, paths⟩ := pathAfter_web d ds
  obtain ⟨l, l', old, new, differ⟩ := pathOf_append_loose low nonempty text
  have first := paths []
  rw [List.append_nil, List.append_nil, old] at first
  have second := paths loose
  rw [new] at second
  refine ⟨a, l, l', ?_, ?_, differ⟩
  · rw [hu, path, first]
  · rw [hv, ← List.append_assoc, path, second]

theorem afterScheme_append_loose {scheme : String} (web : kindOf scheme = .web)
    {cs : List Char} (plain : ∀ c ∈ cs, endsPath c = false) {u v : Url}
    (hu : afterScheme scheme cs = .ok u) (hv : afterScheme scheme (cs ++ loose) = .ok v) :
    ∃ a l l', u = ⟨scheme, some a, .segments l, none, none⟩ ∧
      v = ⟨scheme, some a, .segments l', none, none⟩ ∧
      (Path.segments l').write ≠ (Path.segments l).write := by
  have stop : loose.takeWhile (isSlash .web) = [] :=
    takeWhile_eq_nil_of_forall fun c hc => by
      have inside := not_endsAuthority (low c hc)
      simp only [endsAuthority, Bool.or_eq_false_iff] at inside
      exact inside.1.1
  simp only [afterScheme, web] at hu hv
  rw [dropWhile_append_of_stop stop] at hv
  exact afterSlashes_append_loose low nonempty web
    (fun c hc => plain c ((List.dropWhile_sublist _).subset hc)) hu hv

end

end SignedRest.Url

import SignedRest.OAuth2.Token

/-! When the tokens of a reply expire. The expiration is the exact sum of a start and a lifetime;
a reply whose sum lies outside the calendar is refused, and no other sum is. Of the three bounds on
the way, the one on the lifetime alone refuses nothing that the others would not. -/
namespace SignedRest

namespace Json.Source

theorem token?_formFeed (rest : Bytes) : token? 0x0C rest = none := by
  have noDigit : digits (0x0C :: rest) = ([], 0x0C :: rest) := by
    simp [digits, Ascii.isDigit]
  have noMark : mark? 0x0C = none := by decide
  simp [token?, noMark, numberBody, noDigit, isWhole]

/-- ASCII knows one blank that JSON does not, and no value begins with that. -/
theorem parse_of_blank {bs : Bytes} (blank : bs.all Ascii.isSpace = true) : parse bs = none := by
  have nothing : ∀ ts, tokens bs = some ts → ts = [] := by
    induction bs with
    | nil =>
      intro ts h
      rw [tokens] at h
      exact (Option.some.inj h).symm
    | cons c rest ih =>
      intro ts h
      rw [List.all_cons, Bool.and_eq_true] at blank
      obtain ⟨space, more⟩ := blank
      rw [tokens] at h
      by_cases known : isBlank c = true
      · rw [if_pos known] at h
        exact ih more ts h
      · have feed : c = 0x0C := by
          simp only [Ascii.isSpace, isBlank, Bool.or_eq_true, decide_eq_true_eq] at space known
          grind
        rw [if_neg known, feed] at h
        split at h
        · cases h
        · rename_i token
          rw [token?_formFeed] at token
          cases token
  cases found : tokens bs with
  | none => rw [parse, found]
  | some ts =>
    rw [parse, found, nothing ts found]
    rfl

/-- An integer that is read fits a word of 64 bits. -/
theorem word_of_integer? {s : Source} {n : Int} (h : s.integer? = some (some n)) :
    -Int.pow 2 63 ≤ n ∧ n < Int.pow 2 63 := by
  unfold integer? at h
  split at h
  · cases h
  · split at h
    · split at h
      · rename_i word
        obtain rfl := Option.some.inj (Option.some.inj h)
        exact word
      · cases h
    · cases h
  · cases h

end Json.Source

namespace Instant

/-- A second of the calendar, and no leap second. -/
structure Ordinary (t : Instant) : Prop where
  secs : inRange t.secs = true
  nanos : t.nanos < 1000000000

theorem addSeconds?_of_ordinary {t : Instant} (h : t.Ordinary) (delta : Int) :
    t.addSeconds? delta =
      if inRange (t.secs + delta) then some ⟨t.secs + delta, t.nanos⟩ else none := by
  have same : t.leaving delta = t := by simp [leaving, h.nanos]
  rw [addSeconds?, same]

section
variable {start delta : Int} (h : inRange start = true)
include h

/-- The calendar is shorter than the longest span, so that both ends of a longer one are never
in it. -/
theorem span?_of_inRange (sum : inRange (start + delta) = true) : span? delta = some delta := by
  rw [inRange_iff] at h sum
  rw [span?, if_pos]
  simp only [minSecs, maxSecs, maxSpan] at *
  omega

/-- A span leads from a second of the calendar to one that can be told in 64 bits. -/
theorem word_of_span (short : span? delta = some delta) :
    -Int.pow 2 63 ≤ start + delta ∧ start + delta < Int.pow 2 63 := by
  have word : Int.pow 2 63 = 9223372036854775808 := by decide
  rw [inRange_iff] at h
  unfold span? at short
  split at short
  · simp only [minSecs, maxSecs, maxSpan, word] at *
    omega
  · cases short

end

theorem moved_of_ordinary {t : Instant} (h : t.Ordinary) (delta : Int) :
    (span? delta).bind t.addSeconds? =
      if inRange (t.secs + delta) then some ⟨t.secs + delta, t.nanos⟩ else none := by
  by_cases sum : inRange (t.secs + delta) = true
  · rw [span?_of_inRange h.secs sum, Option.bind_some, addSeconds?_of_ordinary h]
  · rw [if_neg sum]
    cases short : span? delta with
    | none => rfl
    | some own =>
      have same : own = delta := by
        unfold span? at short
        split at short
        · exact (Option.some.inj short).symm
        · cases short
      rw [Option.bind_some, same, addSeconds?_of_ordinary h, if_neg sum]

end Instant

namespace OAuth2

/-- What a lifetime is counted from. -/
def startOf (now : Instant) (createdAt : Option Int) : Instant :=
  (createdAt.map fun seconds => ⟨seconds, 0⟩).getD now

/-- A time of creation that is given lies in the calendar. -/
def Datable (createdAt : Option Int) : Prop :=
  ∀ seconds, createdAt = some seconds → Instant.inRange seconds = true

/-- The second at which a lifetime ends. -/
def endOf (now : Instant) (lifetime : Int) (createdAt : Option Int) : Int :=
  (startOf now createdAt).secs + lifetime

/-- The expiration that a lifetime and a time of creation give. -/
inductive Expires (now : Instant) : Option Int → Option Int → Option Instant → Prop
  | never (createdAt : Option Int) : Expires now none createdAt none
  | atSum (lifetime : Int) (createdAt : Option Int) (datable : Datable createdAt)
      (within : Instant.inRange (endOf now lifetime createdAt) = true) :
      Expires now (some lifetime) createdAt
        (some ⟨endOf now lifetime createdAt, (startOf now createdAt).nanos⟩)

/-- Why they give none. -/
inductive Dateless (now : Instant) : Option Int → Option Int → ResponseFault → Prop
  | created (lifetime seconds : Int) (outside : Instant.inRange seconds = false) :
      Dateless now (some lifetime) (some seconds) (.createdAt seconds)
  | sum (lifetime : Int) (createdAt : Option Int) (datable : Datable createdAt)
      (outside : Instant.inRange (endOf now lifetime createdAt) = false) :
      Dateless now (some lifetime) createdAt (.expiresIn lifetime)

section
variable {now : Instant} {expiresIn createdAt : Option Int}

theorem ordinary_startOf (ordinary : now.Ordinary) (datable : Datable createdAt) :
    (startOf now createdAt).Ordinary := by
  cases createdAt with
  | none => exact ordinary
  | some seconds => exact ⟨datable seconds rfl, Nat.zero_lt_succ _⟩

def dated (lifetime : Int) (sum : Option Instant) : Except Error (Option Instant) :=
  sum.elim (.error (.invalidResponse (.expiresIn lifetime))) fun t => .ok (some t)

theorem expirationOf_now (now : Instant) (lifetime : Int) :
    expirationOf now (some lifetime) none =
      dated lifetime ((Instant.span? lifetime).bind now.addSeconds?) := by
  simp only [expirationOf, pure_bind]
  cases (Instant.span? lifetime).bind now.addSeconds? <;> rfl

theorem expirationOf_created {seconds : Int} {base : Instant}
    (there : Instant.ofSeconds? seconds = some base) (now : Instant) (lifetime : Int) :
    expirationOf now (some lifetime) (some seconds) =
      dated lifetime ((Instant.span? lifetime).bind base.addSeconds?) := by
  simp only [expirationOf, there, pure_bind]
  cases (Instant.span? lifetime).bind base.addSeconds? <;> rfl

theorem expirationOf_of_datable (ordinary : now.Ordinary) (datable : Datable createdAt)
    (lifetime : Int) :
    expirationOf now (some lifetime) createdAt =
      if Instant.inRange (endOf now lifetime createdAt) then
        .ok (some ⟨endOf now lifetime createdAt, (startOf now createdAt).nanos⟩)
      else .error (.invalidResponse (.expiresIn lifetime)) := by
  have moved := Instant.moved_of_ordinary (ordinary_startOf ordinary datable) lifetime
  have summed : expirationOf now (some lifetime) createdAt =
      dated lifetime ((Instant.span? lifetime).bind (startOf now createdAt).addSeconds?) := by
    cases createdAt with
    | none => exact expirationOf_now now lifetime
    | some seconds => exact expirationOf_created (if_pos (datable seconds rfl)) now lifetime
  rw [summed, moved, ← endOf]
  cases Instant.inRange (endOf now lifetime createdAt) <;> rfl

theorem expirationOf_of_expires (ordinary : now.Ordinary) {expiration : Option Instant}
    (h : Expires now expiresIn createdAt expiration) :
    expirationOf now expiresIn createdAt = .ok expiration := by
  cases h with
  | never createdAt => rfl
  | atSum lifetime createdAt datable within =>
    rw [expirationOf_of_datable ordinary datable, if_pos within]

theorem expirationOf_of_dateless (ordinary : now.Ordinary) {fault : ResponseFault}
    (h : Dateless now expiresIn createdAt fault) :
    expirationOf now expiresIn createdAt = .error (.invalidResponse fault) := by
  cases h with
  | created lifetime seconds outside =>
    have nowhere : Instant.ofSeconds? seconds = none := if_neg (by simp [outside])
    simp only [expirationOf, nowhere]
    rfl
  | sum lifetime createdAt datable outside =>
    rw [expirationOf_of_datable ordinary datable, if_neg (by simp [outside])]

theorem expires_or_dateless (now : Instant) (expiresIn createdAt : Option Int) :
    (∃ expiration, Expires now expiresIn createdAt expiration) ∨
      ∃ fault, Dateless now expiresIn createdAt fault := by
  cases expiresIn with
  | none => exact .inl ⟨none, .never createdAt⟩
  | some lifetime =>
    by_cases datable : Datable createdAt
    · cases within : Instant.inRange (endOf now lifetime createdAt) with
      | true => exact .inl ⟨_, .atSum lifetime createdAt datable within⟩
      | false => exact .inr ⟨_, .sum lifetime createdAt datable within⟩
    · simp only [Datable, Classical.not_forall] at datable
      obtain ⟨seconds, rfl, outside⟩ := datable
      exact .inr ⟨_, .created lifetime seconds (by simpa using outside)⟩

theorem expirationOf_eq_ok_iff (ordinary : now.Ordinary) {expiration : Option Instant} :
    expirationOf now expiresIn createdAt = .ok expiration ↔
      Expires now expiresIn createdAt expiration := by
  refine ⟨fun h => ?_, expirationOf_of_expires ordinary⟩
  rcases expires_or_dateless now expiresIn createdAt with ⟨own, expires⟩ | ⟨fault, dateless⟩
  · rw [expirationOf_of_expires ordinary expires] at h
    exact Except.ok.inj h ▸ expires
  · rw [expirationOf_of_dateless ordinary dateless] at h
    cases h

theorem expirationOf_eq_error_iff (ordinary : now.Ordinary) {e : Error} :
    expirationOf now expiresIn createdAt = .error e ↔
      ∃ fault, e = .invalidResponse fault ∧ Dateless now expiresIn createdAt fault := by
  constructor
  · intro h
    rcases expires_or_dateless now expiresIn createdAt with ⟨own, expires⟩ | ⟨fault, dateless⟩
    · rw [expirationOf_of_expires ordinary expires] at h
      cases h
    · rw [expirationOf_of_dateless ordinary dateless] at h
      exact ⟨fault, (Except.error.inj h).symm, dateless⟩
  · rintro ⟨fault, rfl, dateless⟩
    exact expirationOf_of_dateless ordinary dateless

end

section
variable {body : Bytes} {now : Instant} {reply : TokenReply} {access : String}

theorem words_of_ofJson? (h : TokenReply.ofJson? body = some reply) {n : Int}
    (mem : reply.expiresIn = some n ∨ reply.createdAt = some n) :
    -Int.pow 2 63 ≤ n ∧ n < Int.pow 2 63 := by
  simp only [TokenReply.ofJson?, Option.bind_eq_bind, Option.bind_eq_some_iff] at h
  obtain ⟨source, -, fields, -, h⟩ := h
  split at h
  · simp only [Option.bind_eq_some_iff, Option.pure_def, Option.some.injEq] at h
    obtain ⟨_, -, _, -, expiresIn, expires, createdAt, created, rfl⟩ := h
    rcases mem with rfl | rfl
    · exact Json.Source.word_of_integer? expires
    · exact Json.Source.word_of_integer? created
  · cases h

theorem readTokens_of_reply (read : TokenReply.ofJson? body = some reply)
    (held : reply.accessToken = some access) (now : Instant) :
    readTokens body now = (expirationOf now reply.expiresIn reply.createdAt).map fun expiration =>
      ⟨some access, reply.refreshToken, expiration⟩ := by
  have filled : ¬ body.all Ascii.isSpace = true := by
    intro blank
    rw [TokenReply.ofJson?, Json.Source.parse_of_blank blank] at read
    cases read
  simp only [readTokens, if_neg filled, read, held]

theorem dated_error {lifetime : Int} {sum : Option Instant} {e : Error}
    (h : dated lifetime sum = .error e) : ∃ fault, e = .invalidResponse fault := by
  cases sum with
  | none => exact ⟨_, (Except.error.inj h).symm⟩
  | some t => cases h

theorem expirationOf_error {expiresIn createdAt : Option Int} {e : Error}
    (h : expirationOf now expiresIn createdAt = .error e) :
    ∃ fault, e = .invalidResponse fault := by
  cases expiresIn with
  | none => cases h
  | some lifetime =>
    cases createdAt with
    | none => exact dated_error ((expirationOf_now now lifetime).symm.trans h)
    | some seconds =>
      cases there : Instant.ofSeconds? seconds with
      | none =>
        simp only [expirationOf, there] at h
        exact ⟨_, (Except.error.inj h).symm⟩
      | some base => exact dated_error ((expirationOf_created there now lifetime).symm.trans h)

/-- What is not blank is read or called invalid. -/
theorem readTokens_of_filled (filled : ¬ body.all Ascii.isSpace = true) {e : Error}
    (h : readTokens body now = .error e) : ∃ fault, e = .invalidResponse fault := by
  rw [readTokens, if_neg filled] at h
  split at h
  · exact ⟨_, (Except.error.inj h).symm⟩
  · rename_i own _
    split at h
    · exact ⟨_, (Except.error.inj h).symm⟩
    · cases expires : expirationOf now own.expiresIn own.createdAt with
      | ok expiration => simp [expires, Except.map] at h
      | error fault =>
        simp only [expires, Except.map, Except.error.injEq] at h
        exact h ▸ expirationOf_error expires

theorem readTokens_eq_emptyPayload_iff :
    readTokens body now = .error .emptyPayload ↔ ∀ b ∈ body, Ascii.isSpace b = true := by
  rw [← List.all_eq_true]
  by_cases blank : body.all Ascii.isSpace = true
  · exact iff_of_true (if_pos blank) blank
  · refine iff_of_false (fun h => ?_) blank
    obtain ⟨fault, other⟩ := readTokens_of_filled blank h
    cases other

/-- A reply with an access token, read without any loss: the numbers that it can hold, what they
give, why they may give nothing, and that no sum on the way leaves a word. -/
structure ReadExactly (body : Bytes) (now : Instant) (reply : TokenReply) (access : String) :
    Prop where
  words : ∀ n, reply.expiresIn = some n ∨ reply.createdAt = some n →
    -Int.pow 2 63 ≤ n ∧ n < Int.pow 2 63
  ok : ∀ t, readTokens body now = .ok t ↔ ∃ expiration,
    Expires now reply.expiresIn reply.createdAt expiration ∧
      t = ⟨some access, reply.refreshToken, expiration⟩
  error : ∀ e, readTokens body now = .error e ↔ ∃ fault, e = .invalidResponse fault ∧
    Dateless now reply.expiresIn reply.createdAt fault
  sums : Datable reply.createdAt → ∀ lifetime, Instant.span? lifetime = some lifetime →
    -Int.pow 2 63 ≤ endOf now lifetime reply.createdAt ∧
      endOf now lifetime reply.createdAt < Int.pow 2 63

theorem readExactly (ordinary : now.Ordinary) (read : TokenReply.ofJson? body = some reply)
    (held : reply.accessToken = some access) : ReadExactly body now reply access := by
  have same := readTokens_of_reply read held now
  refine ⟨fun n => words_of_ofJson? read, fun t => ?_, fun e => ?_, fun datable lifetime => ?_⟩
  · rw [same, ← exists_congr fun expiration => and_congr_left' (expirationOf_eq_ok_iff ordinary)]
    cases expirationOf now reply.expiresIn reply.createdAt <;> simp [Except.map, eq_comm]
  · rw [same, ← expirationOf_eq_error_iff ordinary]
    cases expirationOf now reply.expiresIn reply.createdAt <;> simp [Except.map]
  · exact Instant.word_of_span (ordinary_startOf ordinary datable).secs

/-- A blank body is an empty one, and only that; anything else that is not read is invalid. What
has an access token is read exactly when its expiration, if it has one, lies in the calendar. -/
theorem expiry_exact (body : Bytes) (now : Instant) :
    (readTokens body now = .error .emptyPayload ↔ ∀ b ∈ body, Ascii.isSpace b = true) ∧
    (∀ e, readTokens body now = .error e → e ≠ .emptyPayload →
      ∃ fault, e = .invalidResponse fault) ∧
    (now.Ordinary → ∀ reply access, TokenReply.ofJson? body = some reply →
      reply.accessToken = some access → ReadExactly body now reply access) := by
  refine ⟨readTokens_eq_emptyPayload_iff, fun e h filled => ?_,
    fun ordinary reply access read held => readExactly ordinary read held⟩
  refine readTokens_of_filled (fun blank => filled ?_) h
  rw [readTokens, if_pos blank] at h
  exact (Except.error.inj h).symm

/-- A token made in the first second of the calendar that lives as long as there is time. -/
def longestReply : Bytes := Utf8.encode
  "\x7b\"access_token\":\"a\",\"expires_in\":16544868105599,\"created_at\":-8334601228800\x7d"

theorem longestReply_read :
    let now : Instant := ⟨1191242096, 999999999⟩
    now.Ordinary ∧ TokenReply.ofJson? longestReply =
        some ⟨some "a", none, some 16544868105599, some (-8334601228800)⟩ ∧
      readTokens longestReply now = .ok ⟨some "a", none, some ⟨8210266876799, 0⟩⟩ := by
  intro now
  have ordinary : now.Ordinary := ⟨by decide, by decide⟩
  have read : TokenReply.ofJson? longestReply =
      some ⟨some "a", none, some 16544868105599, some (-8334601228800)⟩ := by decide +kernel
  obtain ⟨-, -, exact_⟩ := expiry_exact longestReply now
  have datable : Datable (some (-8334601228800)) := by
    rintro seconds ⟨⟩
    decide
  exact ⟨ordinary, read, ((exact_ ordinary _ _ read rfl).ok _).mpr
    ⟨_, .atSum 16544868105599 _ datable (by decide), rfl⟩⟩

/-- One second more is too much. -/
example : expirationOf ⟨1191242096, 0⟩ (some 16544868105600) (some (-8334601228800)) =
    .error (.invalidResponse (.expiresIn 16544868105600)) := rfl

end

end OAuth2
end SignedRest

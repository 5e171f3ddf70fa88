import SignedRest.Proofs.WireVerification

/-! The `Authorization` header as its grammar has it, which leaves more than one way of writing the
same fields. The header of a signed call can be read in one way only, and then says exactly which
realm was configured and which parameters the call has given up for it. -/
namespace SignedRest.OAuth1

namespace Authorization

/-- A token, and behind an equals sign a quoted string. -/
inductive Field : List Char → Pair → Prop
  | intro {name value : String} {text : List Char} (token : Ascii.isToken name = true)
      (quoted : Quoted text value.toList) :
      Field (name.toList ++ '=' :: '"' :: (text ++ ['"'])) (name, value)

def isBlank (c : Char) : Bool := c = ' ' || c = '\t'

/-- Fields with commas between them, and blanks around the commas. -/
inductive Fields : List Char → List Pair → Prop
  | one {text : List Char} {field : Pair} : Field text field → Fields text [field]
  | more {text before after rest : List Char} {field : Pair} {fields : List Pair} :
      Field text field → before.all isBlank = true → after.all isBlank = true →
      Fields rest fields → Fields (text ++ (before ++ ',' :: (after ++ rest))) (field :: fields)

/-- The scheme, blanks, and fields. -/
def Reading (header : String) (fields : List Pair) : Prop :=
  ∃ blanks text, header.toList = "OAuth".toList ++ (blanks ++ text) ∧ blanks ≠ [] ∧
    blanks.all isBlank = true ∧ Fields text fields

theorem equals_not_mem_of_isToken {name : String} (token : Ascii.isToken name = true) :
    '=' ∉ name.toList := fun mem => by
  simp only [Ascii.isToken, Bool.and_eq_true, List.all_eq_true] at token
  exact absurd (token.2 '=' mem) (by decide)

/-- The reader that stops at the end of a field agrees with the grammar. -/
theorem readField_append {text : List Char} {field : Pair} (h : Field text field)
    (rest : List Char) : readField (text ++ rest) = some (field, rest) := by
  obtain ⟨token, quoted⟩ := h
  rename_i name value inner
  have whole : name.toList ++ '=' :: '"' :: (inner ++ ['"']) ++ rest =
      name.toList ++ '=' :: '"' :: (inner ++ '"' :: rest) := by simp
  rw [whole, readField, cutAt_append (equals_not_mem_of_isToken token)]
  simp [readQuoted_append quoted]

/-- Blanks end where something else begins. -/
theorem eq_behind_blanks {blanks blanks' rest rest' : List Char} (all : blanks.all isBlank = true)
    (all' : blanks'.all isBlank = true) (stop : rest.dropWhile isBlank = rest)
    (stop' : rest'.dropWhile isBlank = rest') (same : blanks ++ rest = blanks' ++ rest') :
    rest = rest' := by
  have behind := congrArg (List.dropWhile isBlank) same
  rwa [List.dropWhile_append_of_pos (List.all_eq_true.mp all),
    List.dropWhile_append_of_pos (List.all_eq_true.mp all'), stop, stop'] at behind

theorem dropWhile_fields {text : List Char} {fields : List Pair} (h : Fields text fields) :
    text.dropWhile isBlank = text := by
  have start : ∀ {text : List Char} {field : Pair}, Field text field → ∀ more,
      (text ++ more).dropWhile isBlank = text ++ more := by
    rintro _ _ ⟨token, quoted⟩ more
    rename_i name value inner
    cases chars : name.toList with
    | nil => simp [Ascii.isToken, chars] at token
    | cons c cs =>
      have blank : isBlank c = false := by
        simp only [Ascii.isToken, chars, Bool.and_eq_true, List.all_cons] at token
        by_contra blank
        simp only [isBlank, Bool.not_eq_false, Bool.or_eq_true, decide_eq_true_eq] at blank
        rcases blank with rfl | rfl <;> exact absurd token.2.1 (by decide)
      simp [blank]
  cases h with
  | one field => simpa using start field []
  | more field _ _ _ => exact start field _

/-- What the reader of one field finds at the start of several. -/
theorem Fields.readField {text : List Char} {fields : List Pair} (h : Fields text fields) :
    (∃ field, Authorization.readField text = some (field, []) ∧ fields = [field]) ∨
      ∃ field before after rest more,
        Authorization.readField text = some (field, before ++ ',' :: (after ++ rest)) ∧
          before.all isBlank = true ∧ after.all isBlank = true ∧ Fields rest more ∧
            fields = field :: more := by
  cases h with
  | one field =>
    have read := readField_append field []
    rw [List.append_nil] at read
    exact .inl ⟨_, read, rfl⟩
  | more field before after rest =>
    exact .inr ⟨_, _, _, _, _, readField_append field _, before, after, rest, rfl⟩

theorem Fields.unique {text : List Char} {fields fields' : List Pair} (h : Fields text fields)
    (h' : Fields text fields') : fields = fields' := by
  -- both readings begin with the field that the reader of one field finds
  induction h generalizing fields' with
  | one field =>
    have read := readField_append field []
    rw [List.append_nil] at read
    obtain ⟨field', read', rfl⟩ | ⟨_, _, _, _, _, read', -⟩ := h'.readField
    · rw [read] at read'
      obtain ⟨rfl, -⟩ := Prod.mk.inj (Option.some.inj read')
      rfl
    · rw [read] at read'
      have rest := (Prod.mk.inj (Option.some.inj read')).2
      simp at rest
  | @more text before after rest _ _ field blank blank' fields ih =>
    have read := readField_append field (before ++ ',' :: (after ++ rest))
    obtain ⟨field', read', rfl⟩ |
        ⟨_, before', after', rest', _, read', other, other', fields', rfl⟩ := h'.readField
    · rw [read] at read'
      have rest := (Prod.mk.inj (Option.some.inj read')).2
      simp at rest
    · rw [read] at read'
      obtain ⟨rfl, behind⟩ := Prod.mk.inj (Option.some.inj read')
      have commas := eq_behind_blanks blank other rfl rfl behind
      rw [ih (eq_behind_blanks blank' other' (dropWhile_fields fields) (dropWhile_fields fields')
        (List.cons.inj commas).2 ▸ fields')]

theorem field_fieldText {field : Pair} (token : Ascii.isToken field.1 = true) :
    Field (fieldText field) field := by
  have parts : fieldText field =
      field.1.toList ++ '=' :: '"' :: (field.2.toList.flatMap escapeChar ++ ['"']) := by
    simp [fieldText]
  rw [parts]
  exact .intro token (quoted_escape field.2.toList)

theorem fields_intercalate {fields : List Pair} (nonempty : fields ≠ [])
    (tokens : ∀ field ∈ fields, Ascii.isToken field.1 = true) :
    Fields ([',', ' '].intercalate (fields.map fieldText)) fields := by
  induction fields with
  | nil => exact absurd rfl nonempty
  | cons field more ih =>
    have own := field_fieldText (tokens field (by simp))
    cases more with
    | nil => simpa using Fields.one own
    | cons next rest =>
      have further := ih (by simp) fun f hf => tokens f (by simp [List.mem_cons.mp hf])
      have blank : [' '].all isBlank = true := by decide
      have whole := Fields.more own (rfl : [].all isBlank = true) blank further
      rw [List.map_cons, List.map_cons, List.intercalate_cons_cons, ← List.map_cons]
      simpa using whole

theorem isToken_encode {name : String} (some_ : name ≠ "") :
    Ascii.isToken (Percent.encode name) = true := by
  have nonempty : (Percent.encode name).toList ≠ [] := by
    intro none_
    apply some_
    apply Percent.encode_injective
    exact String.toList_inj.mp none_
  simp only [Ascii.isToken, Bool.and_eq_true, List.all_eq_true]
  refine ⟨by simpa using nonempty, fun c hc => ?_⟩
  have own := Percent.isEncodedChar_of_mem_encode hc
  simp only [Percent.isEncodedChar, Bool.or_eq_true, List.contains_eq_mem, decide_eq_true_eq] at own
  simp only [Ascii.isTokenChar, Bool.or_eq_true, List.contains_eq_mem, decide_eq_true_eq]
  refine own.imp_right fun mem => ?_
  revert mem
  simp only [List.mem_cons, List.not_mem_nil, or_false]
  rintro (rfl | rfl | rfl | rfl | rfl) <;> decide

theorem isToken_of_mem_written {realm : Option String} {pairs : List Pair}
    (named : ∀ p ∈ pairs, p.1 ≠ "") {field : Pair} (h : field ∈ written realm pairs) :
    Ascii.isToken field.1 = true := by
  rcases List.mem_append.mp h with h | h
  · obtain ⟨text, -, rfl⟩ := Option.map_eq_some_iff.mp (Option.mem_toList.mp h)
    have token : Ascii.isToken "realm" = true := by decide
    exact token
  · obtain ⟨p, hp, rfl⟩ := List.mem_map.mp h
    exact isToken_encode (named p hp)

/-- The fields that were written are the only ones that can be read. -/
theorem reading_write_iff (realm : Option String) {pairs : List Pair} (some_ : pairs ≠ [])
    (named : ∀ p ∈ pairs, p.1 ≠ "") (fields : List Pair) :
    Reading (write realm pairs) fields ↔ fields = written realm pairs := by
  have nonempty : written realm pairs ≠ [] := by simp [written, some_]
  have own := fields_intercalate nonempty fun _ => isToken_of_mem_written named
  have blank : [' '].all isBlank = true := by decide
  have scheme : "OAuth ".toList = "OAuth".toList ++ [' '] := by decide
  have text := toList_write realm pairs
  rw [scheme, List.append_assoc] at text
  constructor
  · rintro ⟨blanks, read, whole, -, all, found⟩
    rw [text] at whole
    have behind := eq_behind_blanks blank all (dropWhile_fields own) (dropWhile_fields found)
      (List.append_cancel_left whole)
    exact found.unique (behind ▸ own)
  · rintro rfl
    exact ⟨[' '], _, text, by simp, blank, own⟩

/-- A realm, if the first field is one, and the parameters of all other fields. -/
def meaning : List Pair → Option String × List Pair
  | [] => (none, [])
  | field :: rest =>
    if isRealm field then (some field.2, rest.map decodePair)
    else (none, (field :: rest).map decodePair)

theorem meaning_written (realm : Option String) {pairs : List Pair}
    (h : ∀ p ∈ pairs, p.1 ≠ "realm") : meaning (written realm pairs) = (realm, pairs) := by
  cases realm with
  | some text =>
    have own : written (some text) pairs = ("realm", text) :: pairs.map encodePair := rfl
    rw [own, meaning, map_decodePair_encodePair]
    rfl
  | none =>
    have own : written none pairs = pairs.map encodePair := rfl
    rw [own]
    cases pairs with
    | nil => rfl
    | cons p rest =>
      have other : isRealm (encodePair p) = false := isRealm_encodePair (h p (by simp))
      rw [List.map_cons, meaning, other, if_neg (by simp), ← List.map_cons,
        map_decodePair_encodePair]

/-- A header that can be read, and that says this whichever way it is read: the realm, and
parameters that are texts. -/
structure Tells (header : String) (realm : Option String) (params : List Param) : Prop where
  readable : ∃ fields, Reading header fields
  realm : ∀ fields, Reading header fields → (meaning fields).1 = realm
  params : ∀ fields, Reading header fields →
    (meaning fields).2.map some = params.map Param.pair?

end Authorization

open Authorization (Tells)

theorem ne_empty_of_isProtocolName {name : String} (h : isProtocolName name = true) :
    name ≠ "" := by
  rintro rfl
  revert h
  decide

theorem signature_mem_taken {s : Signer} {e : Endpoint} {m : Moment} {d : Draft}
    (sg : Signing s e m d) :
    (⟨"oauth_signature", .text sg.signature⟩ : Param) ∈
      (sg.draft.params.drain isProtocolParam).1 := by
  have own : isProtocolName "oauth_signature" = true := by decide
  refine List.mem_filter.mpr ⟨Params.mem_place_self _ _, ?_⟩
  simp [isProtocolParam, own]

theorem tells_write (realm : Option String) {taken : List Param}
    (protocol : ∀ p ∈ taken, isProtocolParam p = true) (some_ : taken ≠ []) :
    Tells (Authorization.write realm (taken.filterMap Param.pair?)) realm taken := by
  have texts : (taken.filterMap Param.pair?).map some = taken.map Param.pair? := by
    rw [List.map_filterMap_some_eq_filter_map_isSome, List.filter_eq_self]
    intro pair hp
    obtain ⟨p, mem, rfl⟩ := List.mem_map.mp hp
    have text := (Bool.and_eq_true_iff.mp (protocol p mem)).1
    rwa [Param.pair?, Option.isSome_map]
  have named : ∀ pair ∈ taken.filterMap Param.pair?, isProtocolName pair.1 = true := by
    intro pair hp
    obtain ⟨p, mem, own⟩ := List.mem_filterMap.mp hp
    rw [Params.name_of_pair? own]
    exact (Bool.and_eq_true_iff.mp (protocol p mem)).2
  have nonempty : taken.filterMap Param.pair? ≠ [] := by
    intro none_
    rw [none_] at texts
    exact some_ (List.map_eq_nil_iff.mp texts.symm)
  have reading := Authorization.reading_write_iff realm nonempty
    fun pair hp => ne_empty_of_isProtocolName (named pair hp)
  have told := Authorization.meaning_written realm
    fun pair hp => ne_realm_of_isProtocolName (named pair hp)
  refine ⟨⟨_, (reading _).mpr rfl⟩, fun fields read => ?_, fun fields read => ?_⟩
  · rw [(reading fields).mp read, told]
  · rw [(reading fields).mp read, told, texts]

/-- The header of a signed call says which realm was configured and which parameters were taken
out of the call, the signature among them, and nothing else. -/
theorem header_unambiguous {s : Signer} {realm : Option String}
    (placed : s.placement = .header realm) {e : Endpoint} {m : Moment} {d : Draft}
    (signs : (s.signCall e m d).result = .ok ()) :
    ∃ (sg : Signing s e m d) (header : String) (taken : List Param),
      sg.draft.params.drain isProtocolParam = (taken, (s.signCall e m d).state.params) ∧
        (s.signCall e m d).state.headers.get? "Authorization" = some header ∧
        Tells header realm taken ∧ ⟨"oauth_signature", .text sg.signature⟩ ∈ taken := by
  obtain ⟨sg⟩ := signing_of_ok signs
  have left := sg.left
  rw [placed] at left
  have own := signature_mem_taken sg
  refine ⟨sg, Authorization.write realm
    ((sg.draft.params.drain isProtocolParam).1.filterMap Param.pair?), _, ?_, ?_, ?_, own⟩
  · rw [left]
    rfl
  · rw [left]
    exact Headers.get?_add sg.draft.headers "Authorization" _
  · refine tells_write realm (fun p hp => ?_) (List.ne_nil_of_mem own)
    exact (List.mem_filter.mp hp).2

/-- A signer whose realm imitates a field of its own. -/
def forgingSigner : Signer :=
  { Signer.ofCredentials (.ofConsumer "key" "secret") with
    placement := .header (some "a\", oauth_token=\"b\\") }

def forgingParam : Param := ⟨"oauth_\u00FC=\"", .text "x\", realm=\"y"⟩

def forgingDraft : Draft := Draft.empty.addText "oauth_\u00FC=\"" "x\", realm=\"y"

theorem forging_unambiguous :
    let e : Endpoint := .ofConfig (.ofTemplate "http://photos.example.net/photos")
    let m : Moment := ⟨⟨1191242096, 0⟩, "kllo9940pd9333jh", "boundary"⟩
    (forgingSigner.signCall e m forgingDraft).result = .ok () ∧
      ∃ header taken,
        (forgingSigner.signCall e m forgingDraft).state.headers.get? "Authorization" =
          some header ∧
        Tells header (some "a\", oauth_token=\"b\\") taken ∧ forgingParam ∈ taken := by
  intro e m
  have signs : (forgingSigner.signCall e m forgingDraft).result = .ok () := by decide +kernel
  obtain ⟨sg, header, taken, drained, written, told, -⟩ :=
    header_unambiguous (s := forgingSigner) rfl signs
  have given : forgingParam ∈ (forgingSigner.controlled m forgingDraft).params.items := by
    decide +kernel
  have other : forgingParam.name ≠ Verification.signatureName := by decide
  have protocol : isProtocolParam forgingParam = true := by decide
  have mem : forgingParam ∈ (sg.draft.params.drain isProtocolParam).1 :=
    List.mem_filter.mpr ⟨Params.mem_place_of_ne other given, protocol⟩
  rw [drained] at mem
  exact ⟨signs, header, taken, written, told, mem⟩

end SignedRest.OAuth1

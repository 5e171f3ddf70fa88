import SignedRest.OAuth1.Authorization
import SignedRest.Proofs.BaseString

/-! The header of a signed call says to its reader what it was written with. The realm is told
apart from the parameters by its name alone, so that no parameter may be called like it. -/
namespace SignedRest.OAuth1.Authorization

def fieldText (field : Pair) : List Char :=
  field.1.toList ++ ['=', '"'] ++ field.2.toList.flatMap escapeChar ++ ['"']

theorem toList_realmField (realm : String) :
    (realmField realm).toList = fieldText ("realm", realm) := by
  simp [realmField, quote, fieldText]

theorem escapeChar_of_ne {c : Char} (slash : c ≠ '\\') (mark : c ≠ '"') : escapeChar c = [c] := by
  simp [escapeChar, slash, mark]

theorem flatMap_escapeChar {text : List Char} (h : ∀ c ∈ text, c ≠ '\\' ∧ c ≠ '"') :
    text.flatMap escapeChar = text := by
  induction text with
  | nil => rfl
  | cons c text ih =>
    obtain ⟨slash, mark⟩ := h c (by simp)
    rw [List.flatMap_cons, escapeChar_of_ne slash mark, ih fun d hd => h d (by simp [hd])]
    rfl

theorem flatMap_escapeChar_encode (s : String) :
    (Percent.encode s).toList.flatMap escapeChar = (Percent.encode s).toList := by
  apply flatMap_escapeChar
  intro c hc
  constructor
  · rintro rfl
    exact Percent.not_mem_encode (by decide) s hc
  · rintro rfl
    exact Percent.not_mem_encode (by decide) s hc

theorem toList_paramField (p : Pair) : (paramField p).toList = fieldText (encodePair p) := by
  simp [paramField, fieldText, encodePair, flatMap_escapeChar_encode]

/-- The inside of a quoted string, and the text that it stands for. -/
inductive Quoted : List Char → List Char → Prop
  | nil : Quoted [] []
  | plain {c : Char} {text value : List Char} (mark : c ≠ '"') (slash : c ≠ '\\') :
      Quoted text value → Quoted (c :: text) (c :: value)
  | escaped {text value : List Char} (c : Char) :
      Quoted text value → Quoted ('\\' :: c :: text) (c :: value)

theorem readQuoted_append {text value : List Char} (h : Quoted text value) (rest : List Char) :
    readQuoted (text ++ '"' :: rest) = some (value, rest) := by
  induction h with
  | nil => rfl
  | plain mark slash _ ih => simp [readQuoted, slash, ih]
  | escaped c _ ih => simp [readQuoted, ih]

theorem quoted_escape (text : List Char) : Quoted (text.flatMap escapeChar) text := by
  induction text with
  | nil => exact .nil
  | cons c text ih =>
    by_cases special : c = '\\' ∨ c = '"'
    · have escaped : escapeChar c = ['\\', c] := by rcases special with rfl | rfl <;> decide
      rw [List.flatMap_cons, escaped]
      exact .escaped c ih
    · obtain ⟨slash, mark⟩ := not_or.mp special
      rw [List.flatMap_cons, escapeChar_of_ne slash mark]
      exact .plain mark slash ih

theorem cutAt_append {name : List Char} (h : '=' ∉ name) (rest : List Char) :
    cutAt ['=', '"'] (name ++ '=' :: '"' :: rest) = some (name, rest) :=
  cutAt_append_of_absent (by decide) (fun mem => h (mem.subset (by simp))) rest

theorem readField_fieldText {field : Pair} (h : '=' ∉ field.1.toList) (rest : List Char) :
    readField (fieldText field ++ rest) = some (field, rest) := by
  have text : fieldText field ++ rest =
      field.1.toList ++ '=' :: '"' :: (field.2.toList.flatMap escapeChar ++ '"' :: rest) := by
    simp [fieldText]
  rw [text, readField, cutAt_append h]
  simp [readQuoted_append (quoted_escape field.2.toList)]

theorem readFields_intercalate {fields : List Pair} (nonempty : fields ≠ [])
    (h : ∀ field ∈ fields, '=' ∉ field.1.toList) :
    readFields ([',', ' '].intercalate (fields.map fieldText)) = some fields := by
  induction fields with
  | nil => exact absurd rfl nonempty
  | cons field more ih =>
    have own := h field (by simp)
    cases more with
    | nil =>
      have read := readField_fieldText own []
      rw [List.append_nil] at read
      rw [List.map_singleton, List.intercalate_singleton, readFields, read]
    | cons next rest =>
      have read := readField_fieldText own
        (',' :: ' ' :: [',', ' '].intercalate ((next :: rest).map fieldText))
      have further := ih (by simp) fun f hf => h f (by simp [List.mem_cons.mp hf])
      rw [List.map_cons, List.map_cons, List.intercalate_cons_cons, ← List.map_cons,
        List.append_assoc, List.cons_append, List.cons_append, List.nil_append, readFields, read]
      simpa using further

def written (realm : Option String) (pairs : List Pair) : List Pair :=
  (realm.map ("realm", ·)).toList ++ pairs.map encodePair

theorem equals_not_mem_written {realm : Option String} {pairs : List Pair} {field : Pair}
    (h : field ∈ written realm pairs) : '=' ∉ field.1.toList := by
  rcases List.mem_append.mp h with h | h
  · obtain ⟨text, -, rfl⟩ := Option.map_eq_some_iff.mp (Option.mem_toList.mp h)
    simp
  · obtain ⟨p, -, rfl⟩ := List.mem_map.mp h
    exact Percent.not_mem_encode (by decide) p.1

theorem toList_fields (realm : Option String) (pairs : List Pair) :
    (fields realm pairs).map String.toList = (written realm pairs).map fieldText := by
  cases realm <;> simp [fields, written, toList_realmField, toList_paramField]

theorem toList_write (realm : Option String) (pairs : List Pair) :
    (write realm pairs).toList =
      "OAuth ".toList ++ [',', ' '].intercalate ((written realm pairs).map fieldText) := by
  have sep : ", ".toList = [',', ' '] := by decide
  rw [write, String.toList_append, String.toList_intercalate, toList_fields, sep]

theorem read_write (realm : Option String) (pairs : List Pair) :
    read (write realm pairs) = some (written realm pairs) := by
  rw [read, toList_write]
  simp only [dropWord, List.isPrefixOf_iff_prefix, List.prefix_append, if_true, List.drop_left,
    Option.bind_some]
  cases hw : written realm pairs with
  | nil => rfl
  | cons field more =>
    have nonempty : ([',', ' '].intercalate ((field :: more).map fieldText)).isEmpty = false := by
      cases more <;> simp [fieldText]
    rw [nonempty, if_neg (by simp)]
    refine readFields_intercalate (by simp) fun f hf => ?_
    rw [← hw] at hf
    exact equals_not_mem_written hf

theorem decodePair_encodePair (p : Pair) : decodePair (encodePair p) = p := by
  simp [decodePair, encodePair]

theorem map_decodePair_encodePair (pairs : List Pair) :
    (pairs.map encodePair).map decodePair = pairs := by
  rw [List.map_map]
  exact List.map_id'' decodePair_encodePair pairs

theorem isRealm_encodePair {p : Pair} (h : p.1 ≠ "realm") : isRealm (encodePair p) = false := by
  have plain : Percent.encode "realm" = "realm" := by decide
  have name : Percent.encode p.1 ≠ "realm" := by
    rw [← plain]
    exact fun e => h (Percent.encode_injective e)
  simp [isRealm, encodePair, name]

/-- A reader of the header gets the parameters, in their order and decoded. -/
theorem params_write (realm : Option String) {pairs : List Pair}
    (h : ∀ p ∈ pairs, p.1 ≠ "realm") : params (write realm pairs) = pairs := by
  have kept : (pairs.map encodePair).filter (!isRealm ·) = pairs.map encodePair := by
    apply List.filter_eq_self.mpr
    intro field hf
    obtain ⟨p, hp, rfl⟩ := List.mem_map.mp hf
    simp [isRealm_encodePair (h p hp)]
  have dropped : (realm.map (("realm", ·) : String → Pair)).toList.filter (!isRealm ·) = [] := by
    cases realm <;> simp [isRealm]
  rw [params, read_write, Option.getD_some, written, List.filter_append, dropped, kept,
    List.nil_append, map_decodePair_encodePair]

end SignedRest.OAuth1.Authorization

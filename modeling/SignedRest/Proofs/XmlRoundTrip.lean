import SignedRest.Call.Invoke
import SignedRest.Proofs.Utf8
import SignedRest.Proofs.XmlMarkup

/-! Reading undoes writing. A reader that has come to some point of a document goes on from there
as if what it has read had never been text, and only an instruction that holds a `>` stops it. -/
namespace SignedRest.Xml

theorem ofText_blank {space : List Char} (h : Blank space) (rest : List Char) :
    Token.ofText (space ++ rest) = Token.ofText rest := by
  induction space with
  | nil => rfl
  | cons c space ih =>
    rw [List.cons_append, Token.ofText, if_pos (h c (by simp))]
    exact ih fun d hd => h d (by simp [hd])

theorem ofText_markup {rest : List Char} (h : rest ≠ []) :
    Token.ofText ('<' :: rest) =
      (Token.markup rest).1 :: Token.ofText (Token.markup rest).2 := by
  rw [Token.ofText, if_neg (by decide), if_pos rfl, if_neg (by simpa using h)]

/-- Text ends at the next markup, and the blanks in front of that are not part of it. -/
theorem ofText_text {text space : List Char} (content : IsContent text) (plain : '<' ∉ text)
    (blank : Blank space) (rest : List Char) :
    Token.ofText (text ++ (space ++ '<' :: rest)) =
      .text text :: Token.ofText (space ++ '<' :: rest) := by
  rw [ofText_blank blank]
  obtain ⟨nonempty, starts, ends⟩ := content
  cases text with
  | nil => exact absurd rfl nonempty
  | cons c text =>
    obtain ⟨noMarkup, plain⟩ := not_or.mp (List.mem_cons.not.mp plain)
    have absent : '<' ∉ text ++ space := by
      rw [List.mem_append, not_or]
      exact ⟨plain, blank.not_mem (by decide)⟩
    have noSpace : ¬ isSpace c = true := by simp [starts c rfl]
    have turned : (c :: (text ++ space)).reverse = space.reverse ++ (c :: text).reverse := by simp
    have last : (c :: text).reverse.dropWhile isSpace = (c :: text).reverse := by
      cases back : (c :: text).reverse with
      | nil => rfl
      | cons d more =>
        have final : (c :: text).getLast? = some d := by rw [← List.head?_reverse, back]; rfl
        rw [List.dropWhile_cons_of_neg (by simp [ends d final])]
    rw [← List.append_assoc, List.cons_append, List.cons_append, Token.ofText, if_neg noSpace,
      if_neg (Ne.symm noMarkup), takeWhile_ne_append absent, dropWhile_ne_append absent,
      Token.textToken, turned, List.dropWhile_append_of_pos blank.reverse, last,
      List.reverse_reverse]

theorem run_of_ok {r r' : Reading} {token : Token} {openings : List Opening}
    (h : r.step token = .ok (r', openings)) (rest : List Token) :
    (r.run (token :: rest)).2 = (r'.run rest).2 := by
  simp only [Reading.run, h]

/-- From one reading a text leads to another, whatever follows, unless an instruction in it holds
a `>`: then there is no result. -/
structure Leads (r : Reading) (bodies : List (List Char)) (text : List Char) (r' : Reading) :
    Prop where
  on (plain : ∀ body ∈ bodies, '>' ∉ body) (after : List Char) :
    (r.run (Token.ofText (text ++ after))).2 = (r'.run (Token.ofText after)).2
  stops (cut : ∃ body ∈ bodies, '>' ∈ body) (after : List Char) :
    ∃ f, (r.run (Token.ofText (text ++ after))).2 = .error f

theorem Leads.append {r r' r'' : Reading} {a b : List (List Char)} {text more : List Char}
    (h : Leads r a text r') (h' : Leads r' b more r'') : Leads r (a ++ b) (text ++ more) r'' where
  on plain after := by
    have first := fun body hb => plain body (List.mem_append_left b hb)
    have second := fun body hb => plain body (List.mem_append_right a hb)
    rw [List.append_assoc, h.on first, h'.on second]
  stops cut after := by
    rw [List.append_assoc]
    by_cases first : ∃ body ∈ a, '>' ∈ body
    · exact h.stops first _
    · have plain : ∀ body ∈ a, '>' ∉ body := fun body hb mem => first ⟨body, hb, mem⟩
      obtain ⟨body, hb, mem⟩ := cut
      rcases List.mem_append.mp hb with hb | hb
      · exact absurd mem (plain body hb)
      · rw [h.on plain]
        exact h'.stops ⟨body, hb, mem⟩ after

theorem leads_markup {r r' : Reading} {text : List Char} {token : Token} {openings : List Opening}
    (nonempty : text ≠ []) (markup : ∀ after, Token.markup (text ++ after) = (token, after))
    (step : r.step token = .ok (r', openings)) : Leads r [] ('<' :: text) r' where
  on _ after := by
    rw [List.cons_append, ofText_markup (by simp [nonempty]), markup, run_of_ok step]
  stops := by simp

theorem leads_gap {bodies : List (List Char)} {gap : List Char} (h : Gap bodies gap)
    (r : Reading) : Leads r bodies gap r := by
  induction h with
  | nil => exact ⟨fun _ _ => rfl, by simp⟩
  | blank c space rest ih =>
    have skip : ∀ after, Token.ofText (c :: after) = Token.ofText after := fun after => by
      rw [Token.ofText, if_pos space]
    exact ⟨fun plain after => by rw [List.cons_append, skip, ih.on plain],
      fun cut after => by rw [List.cons_append, skip]; exact ih.stops cut after⟩
  | @comment bodies more body dashes rest ih =>
    have first : Leads r [] ('<' :: '!' :: '-' :: '-' :: (body ++ ['-', '-', '>'])) r :=
      leads_markup (by simp) (fun after => by simpa using markup_comment dashes after) rfl
    simpa using first.append ih
  | @instruction bodies more target data named apart whole rest ih =>
    have nonempty : target ++ data ≠ [] := by
      obtain ⟨c, rest, rfl, -⟩ := named.cases
      simp
    have text : '<' :: '?' :: (target ++ data ++ '?' :: '>' :: more) =
        '<' :: '?' :: (target ++ data ++ ['?', '>']) ++ more := by simp
    have first : Leads r [target ++ data] ('<' :: '?' :: (target ++ data ++ ['?', '>'])) r := by
      have shape : ∀ after, '<' :: '?' :: (target ++ data ++ ['?', '>']) ++ after =
          '<' :: '?' :: (target ++ data ++ '?' :: '>' :: after) := by simp
      constructor
      case on =>
        intro plain after
        rw [shape, ofText_markup (by simp),
          markup_instruction nonempty (plain _ (List.mem_singleton_self _)) after]
        exact run_of_ok rfl _
      case stops =>
        -- cut at its first `>`, the instruction has no mark at its end
        rintro ⟨body, hb, mem⟩ after
        obtain rfl := List.mem_singleton.mp hb
        rw [shape, ofText_markup (by simp), markup_instruction_of_mem whole mem after]
        exact ⟨.markup .unexpectedEnd, rfl⟩
    rw [text]
    exact first.append ih

/-- Blanks are all that stands in front of the next markup. -/
theorem gap_starts {bodies : List (List Char)} {gap : List Char} (h : Gap bodies gap)
    (rest : List Char) :
    ∃ space more, Blank space ∧ gap ++ '<' :: rest = space ++ '<' :: more := by
  induction h with
  | nil => exact ⟨[], rest, by simp [Blank], rfl⟩
  | blank c isBlank _ ih =>
    obtain ⟨space, more, blank, text⟩ := ih
    refine ⟨c :: space, more, ?_, by rw [List.cons_append, text]; rfl⟩
    exact List.forall_mem_cons.mpr ⟨isBlank, blank⟩
  | comment body _ _ _ => exact ⟨[], _, by simp [Blank], rfl⟩
  | instruction target data _ _ _ _ _ => exact ⟨[], _, by simp [Blank], rfl⟩

theorem writes_starts {nodes : List Node} {bodies : List (List Char)} {text : List Char}
    (h : Writes nodes bodies text) (rest : List Char) :
    ∃ space more, Blank space ∧ text ++ '<' :: rest = space ++ '<' :: more := by
  cases h with
  | nil around => exact gap_starts around rest
  | empty before _ _ _ =>
    rw [List.append_assoc]
    exact gap_starts before _
  | pair before _ _ _ _ _ _ =>
    rw [List.append_assoc]
    exact gap_starts before _

/-- The content of an element that is open, with what follows it up to the end of the element. -/
theorem leads_content {content : Option String} {bodies bodies' : List (List Char)}
    {text more : List Char} (h : WritesContent content bodies text)
    (sound : ∀ s, content = some s → IsContent s.toList)
    (starts : ∀ after, ∃ space rest, Blank space ∧ more ++ after = space ++ '<' :: rest)
    {r r' : Reading} {name : String} {attrs : List (String × String)}
    (next : Leads { r with opened := .element name attrs content [] :: r.opened } bodies' more r') :
    Leads { r with opened := .element name attrs none [] :: r.opened } (bodies ++ bodies')
      (text ++ more) r' := by
  cases h with
  | none => exact next
  | some s before =>
    have content := sound s rfl
    rw [List.append_assoc]
    refine (leads_gap before _).append ?_
    have token : ∀ after, Token.ofText (escape s.toList ++ more ++ after) =
        .text (escape s.toList) :: Token.ofText (more ++ after) := by
      intro after
      obtain ⟨space, rest, blank, text⟩ := starts after
      rw [List.append_assoc, text]
      exact ofText_text content.escape (not_mem_escape (by simp) _) blank rest
    have step : Reading.step { r with opened := .element name attrs none [] :: r.opened }
        (.text (escape s.toList)) =
          .ok ({ r with opened := .element name attrs (some s) [] :: r.opened }, []) := by
      simp [Reading.step, unescape_escape, mapError_ok, Except.map, Reading.addText, Node.addText]
    constructor
    case on =>
      intro plain after
      rw [token, run_of_ok step, next.on plain]
    case stops =>
      intro cut after
      rw [token, run_of_ok step]
      exact next.stops cut after

theorem foldl_attach (r : Reading) (n : Node) (children : List Node) :
    children.foldl Reading.attach { r with opened := n :: r.opened } =
      { r with opened := children.foldl Node.addChild n :: r.opened } := by
  induction children generalizing n with
  | nil => rfl
  | cons child children ih => exact ih (n.addChild child)

theorem foldl_addChild (name : String) (attrs : List (String × String)) (content : Option String)
    (before children : List Node) :
    children.foldl Node.addChild (.element name attrs content before) =
      .element name attrs content (before ++ children) := by
  induction children generalizing before with
  | nil => simp
  | cons child children ih =>
    rw [List.foldl_cons, Node.addChild, ih]
    simp

section
variable {name : String} {attrs : List (String × String)} {inTag space : List Char}
  (named : IsName name.toList) (blank : Blank space)
include named blank

theorem leads_close (r : Reading) {n : Node} (same : n.name = name) :
    Leads { r with opened := n :: r.opened } [] ('<' :: '/' :: (name.toList ++ (space ++ ['>'])))
      (r.attach n) := by
  have step : Reading.step { r with opened := n :: r.opened } (.closing name.toList) =
      .ok (r.attach n, []) := by
    simp [Reading.step, Reading.close, same, String.ofList_toList, Except.map]
  exact leads_markup (by simp) (fun after => by simpa using markup_closing named blank after) step

variable (written : WritesAttrs attrs inTag) (keys : ∀ p ∈ attrs, IsName p.1.toList)
  (distinct : (attrs.map (·.1)).Nodup) (r : Reading)
include written keys distinct

theorem leads_open :
    Leads r [] ('<' :: (name.toList ++ (inTag ++ (space ++ ['>']))))
      { r with opened := .element name attrs none [] :: r.opened } := by
  have behind := behindName_of_writes written keys blank
  have step : r.step (.opening name.toList (inTag ++ space)) =
      .ok ({ r with opened := .element name attrs none [] :: r.opened },
        [⟨false, r.opened.length, name⟩]) := by
    rw [Reading.step, elementOf_of_writes written keys distinct blank]
    rfl
  refine leads_markup (by simp) (fun after => ?_) step
  have cut := markup_tag named (named.passes.append behind.passes) after
  rw [tag_opening named behind] at cut
  simpa using cut

theorem leads_empty :
    Leads r [] ('<' :: (name.toList ++ (inTag ++ (space ++ ['/', '>']))))
      (r.attach (.element name attrs none [])) := by
  have behind := behindName_of_writes written keys blank
  have slash : Passes ['/'] := passes_plain (by simp) (by simp) (by simp)
  have step : r.step (.empty name.toList (inTag ++ space)) =
      .ok (r.attach (.element name attrs none []), [⟨true, r.opened.length, name⟩]) := by
    rw [Reading.step, elementOf_of_writes written keys distinct blank]
    rfl
  refine leads_markup (by simp) (fun after => ?_) step
  have passes := (named.passes.append behind.passes).append slash
  rw [List.append_assoc] at passes
  have cut := markup_tag named passes after
  rw [← List.append_assoc, tag_empty named behind] at cut
  simpa using cut

end

/-- Elements are read one after the other into the element around them. -/
theorem leads_writes {nodes : List Node} {bodies : List (List Char)} {text : List Char}
    (h : Writes nodes bodies text) (sound : ∀ n ∈ nodes, n.WellFormed) (r : Reading) :
    Leads r bodies text (nodes.foldl Reading.attach r) := by
  -- along the writing: the children of an element are read while that element is open
  induction h generalizing r with
  | nil around => exact leads_gap around r
  | @empty name attrs rest bodies bodies' gap inTag space more before written blank others ih =>
    cases sound (.element name attrs none []) (by simp) with
    | element named keys distinct _ _ =>
      have further :=
        ih (fun n hn => sound n (by simp [hn])) (r.attach (.element name attrs none []))
      have own := leads_empty named blank written keys distinct r
      simpa using (leads_gap before r).append (own.append further)
  | @pair name attrs content children rest bodies bodies₁ bodies₂ bodies' gap inTag space text
      inside space' more before written blank first within blank' others ihWithin ih =>
    cases sound (.element name attrs content children) (by simp) with
    | element named keys distinct contents below =>
      have further := ih (fun n hn => sound n (by simp [hn]))
        (r.attach (.element name attrs content children))
      have own := leads_open named blank written keys distinct r
      have kids := ihWithin below { r with opened := .element name attrs content [] :: r.opened }
      rw [foldl_attach, foldl_addChild, List.nil_append] at kids
      have close := leads_close named blank' r (n := .element name attrs content children) rfl
      have inner := leads_content first contents (fun after => by
        rw [List.append_assoc]
        exact writes_starts within _) (kids.append close)
      have whole := (leads_gap before r).append (own.append (inner.append further))
      simpa using whole

/-- A tree can be written, and every document that was written for it is read as this tree, whether
the reading is traced or not, unless one of its instructions holds a `>`: then it cannot be read. -/
theorem parse_written {n : Node} (sound : n.WellFormed) :
    (∃ text, n.IsWritten [] text) ∧
    ∀ bodies text, n.IsWritten bodies text →
      ((∀ body ∈ bodies, '>' ∉ body) →
        (Node.parseTraced text).2 = .ok n ∧
          ∀ (debug : DebugFlags) (call : Call) (response : Response),
            call.response? = some response → response.payload = Utf8.encode text →
              (Call.xml debug call).result = .ok n) ∧
      ((∃ body ∈ bodies, '>' ∈ body) → ∃ f, (Node.parseTraced text).2 = .error f) := by
  refine ⟨n.exists_isWritten, fun bodies text written => ?_⟩
  have leads := leads_writes written (fun child h => List.mem_singleton.mp h ▸ sound) Reading.start
  have whole : Node.parseTraced text = Reading.start.run (Token.ofText (text.toList ++ [])) := by
    rw [List.append_nil, Node.parseTraced]
  constructor
  · intro plain
    have read : (Node.parseTraced text).2 = .ok n := by
      rw [whole, leads.on plain, Token.ofText]
      rfl
    refine ⟨read, fun debug call response received payload => ?_⟩
    have parsed : response.xmlTraced.2 = .ok n := by
      rw [Response.xmlTraced, payload, Utf8.decode_encode]
      simp only [read, mapError_ok]
    simp only [Call.xml, received, parsed]
  · intro cut
    rw [whole]
    exact leads.stops cut []

def userNode : Node :=
  .element "rsp" [("stat", "ok")] none
    [.element "user" [("id", "a>b")] (some "Bees & Co") [], .element "photo" [] none []]

def userText : String :=
  "<?xml version=\"1.0\"?>\n<rsp stat=\"ok\">\n  <user id='a&gt;b' >Bees &amp; Co</user>" ++
    "<!-- > -->\n  <photo/></rsp>\n"

theorem userText_parsed :
    userNode.WellFormed ∧ userNode.IsWritten ["xml version=\"1.0\"".toList] userText ∧
      (Node.parseTraced userText).2 = .ok userNode := by
  have photo : (Node.element "photo" [] none []).WellFormed :=
    .element (by decide) (by simp) (by simp) (by simp) (by simp)
  have user : (Node.element "user" [("id", "a>b")] (some "Bees & Co") []).WellFormed :=
    .element (by decide) (by decide) (by decide) (by
      rintro s ⟨⟩
      exact ⟨by decide, by simp [isSpace], by simp [isSpace]⟩) (by simp)
  have sound : userNode.WellFormed :=
    .element (by decide) (by decide) (by decide) (by simp) (by simp [user, photo])
  have declaration : Gap ["xml version=\"1.0\"".toList] "<?xml version=\"1.0\"?>\n".toList :=
    .instruction ['x', 'm', 'l'] " version=\"1.0\"".toList (by decide)
      (.inr ⟨' ', _, rfl, by decide⟩) (by decide) (.blank '\n' (by decide) .nil)
  have comment : Gap [] "<!-- > -->\n  ".toList :=
    .comment " > ".toList (by decide) (.blank '\n' (by decide)
      (.blank ' ' (by decide) (.blank ' ' (by decide) .nil)))
  have indent : Gap [] "\n  ".toList :=
    .blank '\n' (by decide) (.blank ' ' (by decide) (.blank ' ' (by decide) .nil))
  have newline : Gap [] "\n".toList := .blank '\n' (by decide) .nil
  have none_ : Blank [] := by decide
  have one : Blank [' '] := by decide
  have stat : WritesAttrs [("stat", "ok")] " stat=\"ok\"".toList :=
    .cons [' '] [] [] '"' (by decide) (by decide) (.inl rfl) .nil
  have id_ : WritesAttrs [("id", "a>b")] " id='a&gt;b'".toList :=
    .cons [' '] [] [] '\x27' (by decide) (by decide) (.inr rfl) .nil
  have last : Writes [.element "photo" [] none []] [] "<!-- > -->\n  <photo/>".toList :=
    .empty comment .nil none_ (.nil .nil)
  have within : Writes userNode.children []
      "\n  <user id='a&gt;b' >Bees &amp; Co</user><!-- > -->\n  <photo/>".toList :=
    .pair indent id_ one (.some _ .nil) (.nil .nil) none_ last
  have written : userNode.IsWritten ["xml version=\"1.0\"".toList] userText := by
    have built : Writes [userNode] _ _ :=
      .pair declaration stat none_ .none within none_ (.nil newline)
    refine (congrArg (Writes [userNode] _) ?_).mp built
    decide +kernel
  obtain ⟨-, reads⟩ := parse_written sound
  exact ⟨sound, written, ((reads _ _ written).1 (by decide)).1⟩

/-- An element behind an instruction that holds a `>`. -/
theorem instruction_cut :
    (Node.element "r" [] none []).WellFormed ∧
      (Node.element "r" [] none []).IsWritten ["x a>b".toList] "<?x a>b?><r/>" ∧
      (Node.parseTraced "<?x a>b?><r/>").2 ≠ .ok (.element "r" [] none []) := by
  have sound : (Node.element "r" [] none []).WellFormed :=
    .element (by decide) (by simp) (by simp) (by simp) (by simp)
  have target : Gap ["x a>b".toList] "<?x a>b?>".toList :=
    .instruction ['x'] " a>b".toList (by decide) (.inr ⟨' ', _, rfl, by decide⟩) (by decide) .nil
  have none_ : Blank [] := by decide
  have written : Writes [.element "r" [] none []] ["x a>b".toList] "<?x a>b?><r/>".toList :=
    .empty target .nil none_ (.nil .nil)
  have fails : (Node.parseTraced "<?x a>b?><r/>").2.isOk = false := by decide +kernel
  refine ⟨sound, written, fun same => ?_⟩
  rw [same] at fails
  cases fails

end SignedRest.Xml

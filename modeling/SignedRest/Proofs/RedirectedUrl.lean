import SignedRest.Proofs.HostText
import SignedRest.Proofs.QueryArrival
import SignedRest.Proofs.WireVerification

/-! The URL of the base string of a web address, in its parts: what a signature host replaces,
what is dropped, and what stays as it is. -/
namespace SignedRest

namespace Url

theorem colon_not_mem_escape (cs : List Char) : ':' ∉ (escape inUserinfo cs).toList := by
  have kept : ∀ b : UInt8, inUserinfo b = true → Char.ofNat b.toNat ≠ ':' :=
    Percent.forall_byte (by decide +kernel)
  intro mem
  rw [escape, String.toList_ofList] at mem
  rcases Percent.mem_encodeBytes mem with ⟨b, hb, same⟩ | ⟨b, hb⟩
  · exact kept b hb same.symm
  · exact absurd (Percent.isEncodedChar_of_mem_encodeByte hb) (by decide)

theorem colon_not_mem_username {scheme : String} {closed : Bool} {cs rest : List Char}
    {a : Authority} (h : authorityOf scheme closed cs = .ok (a, rest)) :
    ':' ∉ a.username.toList := by
  have written : ∀ user, ':' ∉ (credentials user).1.toList := by
    intro user
    unfold credentials
    dsimp only
    split <;> exact colon_not_mem_escape _
  unfold authorityOf at h
  simp only [bind, Except.bind, pure, Except.pure] at h
  split at h
  · split at h
    · cases h
    · cases h
      simp
  · split at h
    · cases h
    · split at h
      · cases h
      · split at h
        · cases h
        · cases h
          exact written _

theorem parts_of_web {url : String} {u : Url} (h : parse url = .ok u) (web : u.kind = .web) :
    ∃ a l, u.authority = some a ∧ u.path = .segments l ∧ ':' ∉ a.username.toList := by
  obtain ⟨l, path⟩ := segments_of_web h web
  cases cut : cutScheme (clean url) with
  | none => simp [parse, cut] at h
  | some read =>
    obtain ⟨scheme, rest⟩ := read
    have kind : kindOf scheme = .web := kind_of_parse h web cut
    simp only [parse, cut, afterScheme, kind, afterSlashes_eq] at h
    cases authority : authorityOf scheme _ _ with
    | error e =>
      rw [authority] at h
      cases h
    | ok found =>
      rw [authority] at h
      refine ⟨found.1, l, ?_, path, colon_not_mem_username authority⟩
      rw [← Except.ok.inj h]
      rfl

theorem path_withoutTail {u : Url} {l : List String} (path : u.path = .segments l) :
    u.withoutTail.path = .segments l := by
  simp [withoutTail, path, Path.stripped]

/-- The same URL with what an authority is changed to. -/
def withAuthority (u : Url) (a : Authority) : Url := { u with authority := some a }

theorem guardedPath_of_authority {u : Url} {a : Authority} (h : u.authority = some a) :
    u.guardedPath = u.path := by
  have none_ : u.guard = "" := by simp [guard, h]
  simp [guardedPath, none_]

theorem setHost_of_web {u : Url} {a : Authority} {l : List String} (web : u.kind = .web)
    (ha : u.authority = some a) (hp : u.path = .segments l) (text : String) :
    u.setHost text =
      if text = "" then .error .emptyHost
      else if (beforeColon text.toList).isEmpty then .error .invalidDomainCharacter
      else (Host.parse (beforeColon text.toList)).map fun host =>
        u.withAuthority { a with host := host } := by
  have path := guardedPath_of_authority ha
  have notOther : ¬ (Kind.web = .other) := by decide
  by_cases empty : text = ""
  · simp [setHost, hp, web, empty]
  · simp only [setHost, hp, web, path, empty, notOther, ne_eq, not_false_eq_true, decide_true,
      decide_false, Bool.and_true, Bool.false_eq_true, if_false, ha]
    split
    · rfl
    · cases Host.parse (beforeColon text.toList) with
      | error e => rfl
      | ok host => simp [bind, Except.bind, pure, Except.pure, Except.map, withAuthority, hp,
          Authority.withHost]

theorem setPort?_of_web {u : Url} {a : Authority} (web : u.kind = .web)
    (ha : u.authority = some a) (named : a.host ≠ Host.empty) (port : Nat) :
    u.setPort? port =
      some (u.withAuthority { a with port := effectivePort u.scheme (some port) }) := by
  have notFile : ¬ (Kind.web = .file) := by decide
  simp [setPort?, ha, web, named, withAuthority]

end Url

namespace OAuth1

/-- Whom a signature host names, and at which port if it names one. -/
structure Target where
  host : Host
  port : Option Nat

def hostText (text : String) : List Char := Url.beforeColon (splitPort text).1.toList

def readTarget (text : String) : Except UrlError Target :=
  if (splitPort text).1 = "" then .error .emptyHost
  else if (hostText text).isEmpty then .error .invalidDomainCharacter
  else (Host.parse (hostText text)).map fun host => ⟨host, (splitPort text).2⟩

def Target.portOr (t : Target) (scheme : String) (port : Option Nat) : Option Nat :=
  match t.port with
  | some n => Url.effectivePort scheme (some n)
  | none => port

/-- The same credentials, and another host and port. -/
def Target.authority (t : Target) (scheme : String) (a : Url.Authority) : Url.Authority :=
  { a with host := t.host, port := t.portOr scheme a.port }

theorem redirectTo_of_web {u : Url} {a : Url.Authority} {l : List String} (web : u.kind = .web)
    (ha : u.authority = some a) (hp : u.path = .segments l) (text : String) :
    redirectTo u text =
      ((readTarget text).map fun t => u.withAuthority (t.authority u.scheme a)).mapError .url := by
  unfold redirectTo readTarget hostText
  rw [Url.setHost_of_web web ha hp]
  split
  · rfl
  · split
    · rfl
    · cases parsed : Host.parse (Url.beforeColon (splitPort text).1.toList) with
      | error e => rfl
      | ok host =>
        have named : host ≠ Host.empty := fun eq => Host.parse_ne_empty _ (eq ▸ parsed)
        cases port : (splitPort text).2 with
        | none => rfl
        | some n =>
          have set := Url.setPort?_of_web (u := u.withAuthority { a with host := host }) web rfl
            named n
          simp only [bind, Except.bind, Except.map, Except.mapError, set]
          rfl

end OAuth1
end SignedRest
